import CustomerNotice.Format.Yaml.Cursor

/-!
Block scalars of YAML: indented lines, kept as they are or folded, with a rule for the breaks at
their end.
-/

namespace CustomerNotice
namespace Yaml

inductive Chomping
  | strip
  | clip
  | keep
  deriving DecidableEq, Repr

/-- The signs behind the indicator of a block scalar; no indentation is given as zero. -/
structure BlockHeader where
  chomping : Chomping
  increment : Nat
  deriving DecidableEq, Repr

namespace BlockHeader

def chompingOf? : Char → Option Chomping
  | '+' => some .keep
  | '-' => some .strip
  | _ => none

/-- A digit other than zero. A zero is an error, anything else is no digit. -/
def readIncrement? (cursor : Cursor) : Option (Nat × Cursor) :=
  match cursor.peek? with
  | some character =>
      if character = '0' then none
      else if character.isDigit then some (character.toNat - '0'.toNat, cursor.advance)
      else some (0, cursor)
  | none => some (0, cursor)

def readChomping (cursor : Cursor) : Option Chomping × Cursor :=
  match cursor.peek?.bind chompingOf? with
  | some chomping => (some chomping, cursor.advance)
  | none => (none, cursor)

def read? (cursor : Cursor) : Option (BlockHeader × Cursor) :=
  match readChomping cursor with
  | (some chomping, cursor) => do
      let (increment, cursor) ← readIncrement? cursor
      return (⟨chomping, increment⟩, cursor)
  | (none, cursor) => do
      let (increment, cursor) ← readIncrement? cursor
      if increment = 0 then return (⟨.clip, 0⟩, cursor)
      else
        let (chomping, cursor) := readChomping cursor
        return (⟨chomping.getD .clip, increment⟩, cursor)

end BlockHeader

structure EmptyLines where
  breaks : Nat
  deepest : Nat
  cursor : Cursor

/-- Passes indentation and line breaks. `indent` is zero as long as it is not known; then any
number of spaces is passed. A tab may not take the place of the indentation. -/
def readEmptyLines? (fuel indent : Nat) (lines : EmptyLines) : Option EmptyLines :=
  match fuel with
  | 0 => some lines
  | fuel + 1 =>
      let isOpen (cursor : Cursor) : Bool := indent = 0 || cursor.column < indent
      let spaces := (lines.cursor.rest.takeWhile (· = ' ')).length
      let wanted := if indent = 0 then spaces else min spaces (indent - lines.cursor.column)
      let cursor := lines.cursor.advanceBy wanted
      let deepest := max lines.deepest cursor.column
      if isOpen cursor && cursor.peek? = some '\t' then none
      else if cursor.peek?.any isBreak then
        readEmptyLines? fuel indent ⟨lines.breaks + 1, deepest, cursor.passBreak⟩
      else some ⟨lines.breaks, deepest, cursor⟩

/-- The indentation that the deepest of the first empty lines fixes, beyond that of the
surroundings. -/
def fixIndent (indent deepest : Nat) (surrounding : Int) : Nat :=
  if indent = 0 then max 1 (max deepest (surrounding + 1).toNat) else indent

/-- A block scalar in the making: its text, the break that ended its last line, the empty lines
behind it, and whether its last line began with a blank. -/
structure BlockLines where
  text : List Char
  ended : Bool
  empty : Nat
  leadingBlank : Bool

namespace BlockLines

def breaks (count : Nat) : List Char := List.replicate count '\n'

/-- What joins a new line to the lines before it. A fold makes one break a space. -/
def joint (lines : BlockLines) (literal startsBlank : Bool) : List Char :=
  if !literal && lines.ended && !lines.leadingBlank && !startsBlank then
    if lines.empty = 0 then [' '] else breaks lines.empty
  else (if lines.ended then ['\n'] else []) ++ breaks lines.empty

def finish (lines : BlockLines) : Chomping → List Char
  | .strip => lines.text
  | .clip => lines.text ++ (if lines.ended then ['\n'] else [])
  | .keep => lines.text ++ (if lines.ended then ['\n'] else []) ++ breaks lines.empty

end BlockLines

def readBlockLines? (fuel : Nat) (literal : Bool) (indent : Nat) (lines : BlockLines)
    (cursor : Cursor) : Option (BlockLines × Cursor) :=
  match fuel with
  | 0 => some (lines, cursor)
  | fuel + 1 =>
      match cursor.peek? with
      | none => some (lines, cursor)
      | some first =>
          if cursor.column ≠ indent then some (lines, cursor)
          else
            let startsBlank := isBlank first
            let (line, cursor) := cursor.takeWhile (!isBreak ·)
            let text := lines.text ++ lines.joint literal startsBlank ++ line
            if cursor.rest.isEmpty then some (⟨text, false, 0, startsBlank⟩, cursor)
            else do
              let after ← readEmptyLines? (cursor.rest.length + 1) indent ⟨0, 0, cursor.passBreak⟩
              readBlockLines? fuel literal indent ⟨text, true, after.breaks, startsBlank⟩
                after.cursor

/-- A block scalar at its indicator. `surrounding` is the indentation around it, negative at the
top of a document. -/
def readBlock? (literal : Bool) (surrounding : Int) (cursor : Cursor) :
    Option (List Char × Cursor) := do
  let (header, cursor) ← BlockHeader.read? cursor.advance
  let cursor := cursor.skipBlanksAndComment
  if !isBreakOrEnd cursor.peek? then none
  else
    let cursor := cursor.passBreak
    let given :=
      if header.increment = 0 then 0
      else if 0 ≤ surrounding then surrounding.toNat + header.increment
      else header.increment
    let before ← readEmptyLines? (cursor.rest.length + 1) given ⟨0, 0, cursor⟩
    let indent := fixIndent given before.deepest surrounding
    let (lines, cursor) ←
      readBlockLines? (cursor.rest.length + 1) literal indent ⟨[], false, before.breaks, false⟩
        before.cursor
    return (lines.finish header.chomping, cursor)

end Yaml
end CustomerNotice
