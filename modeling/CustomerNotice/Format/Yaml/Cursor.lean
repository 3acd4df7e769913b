/-!
A place in a YAML text, and the classes of characters that its grammar distinguishes. The end of
the text counts as a blank wherever a blank may end something.
-/

namespace CustomerNotice
namespace Yaml

def isBreak (character : Char) : Bool := character = '\n' || character = '\r'

def isBlank (character : Char) : Bool := character = ' ' || character = '\t'

def isBlankOrEnd : Option Char → Bool
  | none => true
  | some character => isBlank character || isBreak character

def isBreakOrEnd : Option Char → Bool
  | none => true
  | some character => isBreak character

def isFlowIndicator (character : Char) : Bool :=
  character = ',' || character = '[' || character = ']' || character = '\x7b'
    || character = '\x7d'

def isWordCharacter (character : Char) : Bool :=
  ('0' ≤ character && character ≤ '9') || ('a' ≤ character && character ≤ 'z')
    || ('A' ≤ character && character ≤ 'Z') || character = '_' || character = '-'

/-- The characters that are left, and where they begin. Only a line feed begins a new line. -/
structure Cursor where
  rest : List Char
  index : Nat
  line : Nat
  column : Nat
  deriving Repr

namespace Cursor

def start (text : List Char) : Cursor := ⟨text.takeWhile (· != '\x00'), 0, 1, 0⟩

def peek? (cursor : Cursor) : Option Char := cursor.rest.head?

def peekAt? (cursor : Cursor) (offset : Nat) : Option Char := cursor.rest[offset]?

def advance (cursor : Cursor) : Cursor :=
  match cursor.rest with
  | [] => cursor
  | character :: rest =>
      if character = '\n' then ⟨rest, cursor.index + 1, cursor.line + 1, 0⟩
      else ⟨rest, cursor.index + 1, cursor.line, cursor.column + 1⟩

def advanceBy (cursor : Cursor) : Nat → Cursor
  | 0 => cursor
  | count + 1 => cursor.advance.advanceBy count

def passBreak (cursor : Cursor) : Cursor :=
  match cursor.rest with
  | '\r' :: '\n' :: _ => cursor.advanceBy 2
  | character :: _ => if isBreak character then cursor.advance else cursor
  | [] => cursor

def takeWhile (cursor : Cursor) (test : Char → Bool) : List Char × Cursor :=
  let taken := cursor.rest.takeWhile test
  (taken, cursor.advanceBy taken.length)

def skipWhile (cursor : Cursor) (test : Char → Bool) : Cursor := (cursor.takeWhile test).2

def skipBlanksAndComment (cursor : Cursor) : Cursor :=
  let cursor := cursor.skipWhile isBlank
  if cursor.peek? = some '#' then cursor.skipWhile (!isBreak ·) else cursor

def atDocumentMark (cursor : Cursor) (mark : Char) : Bool :=
  cursor.column = 0 && cursor.rest.take 3 = [mark, mark, mark] && isBlankOrEnd (cursor.peekAt? 3)

def atAnyDocumentMark (cursor : Cursor) : Bool :=
  cursor.atDocumentMark '-' || cursor.atDocumentMark '.'

end Cursor
end Yaml
end CustomerNotice
