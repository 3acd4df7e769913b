/-!
Sets of characters given as closed ranges of code points. The blank characters of all scripts are
one of them, and texts are given without the blanks at their ends.
-/

namespace CustomerNotice
namespace Text

abbrev CodeRanges := List (Nat × Nat)

def CodeRanges.contains (ranges : CodeRanges) (character : Char) : Bool :=
  ranges.any fun range => range.1 ≤ character.toNat && character.toNat ≤ range.2

theorem CodeRanges.contains_iff
    {ranges : CodeRanges} {character : Char} :
    ranges.contains character = true ↔
      ∃ range ∈ ranges, range.1 ≤ character.toNat ∧ character.toNat ≤ range.2 := by
  simp [CodeRanges.contains]

def blankRanges : CodeRanges :=
  [(0x9, 0xd), (0x20, 0x20), (0x85, 0x85), (0xa0, 0xa0), (0x1680, 0x1680), (0x2000, 0x200a),
   (0x2028, 0x2029), (0x202f, 0x202f), (0x205f, 0x205f), (0x3000, 0x3000)]

def isBlank (character : Char) : Bool := blankRanges.contains character

def trim (text : List Char) : List Char :=
  ((text.dropWhile isBlank).reverse.dropWhile isBlank).reverse

end Text
end CustomerNotice
