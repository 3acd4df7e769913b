import CustomerNotice.Text.CaseTable

/-!
Full lowercase mapping of a text. Every character is mapped on its own except the capital
sigma, which has a form of its own at the end of a word.
-/

namespace CustomerNotice
namespace Text

def isCased (character : Char) : Bool := casedRanges.contains character

def isCaseIgnorable (character : Char) : Bool := caseIgnorableRanges.contains character

def lowercaseSimple (character : Char) : Char :=
  match lowercaseRows.find? fun (first, last, step, _) =>
      first ≤ character.toNat && character.toNat ≤ last
        && (character.toNat - first) % step == 0 with
  | some (first, _, _, image) => Char.ofNat (image + (character.toNat - first))
  | none => character

/-- Whether a cased character stands next once the case-ignorable ones are looked through. -/
def meetsCased (characters : List Char) : Bool :=
  match characters.dropWhile isCaseIgnorable with
  | [] => false
  | character :: _ => isCased character

/-- The lowercase of `character` between the reversed text `before` it and the text `after` it.
A capital sigma becomes the final form where a word ends with it, and the capital I with a dot
keeps its dot as a combining mark. -/
def lowercaseAt (before : List Char) (character : Char) (after : List Char) : List Char :=
  if character = '\u03a3' then
    if meetsCased before && !meetsCased after then ['\u03c2'] else ['\u03c3']
  else if character = '\u0130' then
    ['i', '\u0307']
  else
    [lowercaseSimple character]

def lowercaseFrom (before : List Char) : List Char → List Char
  | [] => []
  | character :: after =>
      lowercaseAt before character after ++ lowercaseFrom (character :: before) after

def lowercase (text : String) : String := String.ofList (lowercaseFrom [] text.toList)

end Text
end CustomerNotice
