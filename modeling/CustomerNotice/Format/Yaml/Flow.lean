import CustomerNotice.Format.Yaml.Cursor
import CustomerNotice.Text.Integer

/-!
Scalars of YAML that are written in running text: plain ones and quoted ones. Blanks inside them
are kept on a line and folded across lines.
-/

namespace CustomerNotice
namespace Yaml

/-- A run of blanks and line breaks. `broken` says that the line has ended in it; the break that
ended it is not `counted` if it was escaped. -/
structure Gap where
  spaces : List Char
  broken : Bool
  counted : Bool
  further : Nat
  deriving Repr

namespace Gap

def none : Gap := ⟨[], false, false, 0⟩

def afterEscapedBreak : Gap := ⟨[], true, false, 0⟩

/-- What the gap is worth in the scalar: one break is a space, further ones stay. -/
def text (gap : Gap) : List Char :=
  if gap.broken then
    if gap.counted && gap.further = 0 then [' '] else List.replicate gap.further '\n'
  else gap.spaces

/-- Reads the gap to its end. In a plain scalar a tab may not stand in the indentation, which
ends at `indent`. -/
def read? (fuel : Nat) (indent : Int) (gap : Gap) (cursor : Cursor) : Option (Gap × Cursor) :=
  match fuel with
  | 0 => some (gap, cursor)
  | fuel + 1 =>
      match cursor.peek? with
      | Option.none => some (gap, cursor)
      | some character =>
          if isBlank character then
            if gap.broken && (cursor.column : Int) < indent && character = '\t' then Option.none
            else if gap.broken then read? fuel indent gap cursor.advance
            else read? fuel indent { gap with spaces := gap.spaces ++ [character] } cursor.advance
          else if isBreak character then
            if gap.broken then
              read? fuel indent { gap with further := gap.further + 1 } cursor.passBreak
            else read? fuel indent ⟨[], true, true, 0⟩ cursor.passBreak
          else some (gap, cursor)

end Gap

def plainWord (inFlow : Bool) : List Char → List Char
  | [] => []
  | character :: rest =>
      if isBlank character || isBreak character then []
      else if character = ':'
          && (isBlankOrEnd rest.head? || (inFlow && rest.head?.any isFlowIndicator)) then []
      else if inFlow && isFlowIndicator character then []
      else character :: plainWord inFlow rest

/-- A plain scalar: its text, the place behind it, and whether a line has ended behind it. -/
structure PlainScalar where
  text : List Char
  cursor : Cursor
  broken : Bool

/-- Reads words and gaps until the scalar ends. `pending` is the gap that has been read since the
last word. -/
def readPlain? (fuel : Nat) (inFlow : Bool) (indent : Int) (text : List Char) (pending : Gap)
    (cursor : Cursor) : Option PlainScalar :=
  match fuel with
  | 0 => some ⟨text, cursor, pending.broken⟩
  | fuel + 1 =>
      if cursor.atAnyDocumentMark || cursor.peek? = some '#' then
        some ⟨text, cursor, pending.broken⟩
      else
        let word := plainWord inFlow cursor.rest
        let cursor := cursor.advanceBy word.length
        let (text, pending) :=
          if word.isEmpty then (text, pending) else (text ++ pending.text ++ word, Gap.none)
        if cursor.peek?.any fun character => isBlank character || isBreak character then do
          let (gap, cursor) ← pending.read? cursor.rest.length indent cursor
          if !inFlow && (cursor.column : Int) < indent then some ⟨text, cursor, gap.broken⟩
          else readPlain? fuel inFlow indent text gap cursor
        else some ⟨text, cursor, pending.broken⟩

def simpleEscape? : Char → Option Char
  | '0' => some '\x00'
  | 'a' => some '\x07'
  | 'b' => some '\x08'
  | 't' => some '\t'
  | '\t' => some '\t'
  | 'n' => some '\n'
  | 'v' => some '\x0b'
  | 'f' => some '\x0c'
  | 'r' => some '\r'
  | 'e' => some '\x1b'
  | ' ' => some ' '
  | '"' => some '"'
  | '\'' => some '\''
  | '\\' => some '\\'
  | 'N' => some '\u0085'
  | '_' => some '\u00a0'
  | 'L' => some '\u2028'
  | 'P' => some '\u2029'
  | _ => none

def escapeLength? : Char → Option Nat
  | 'x' => some 2
  | 'u' => some 4
  | 'U' => some 8
  | _ => none

def characterOf? (code : Nat) : Option Char :=
  if code.isValidChar then some (Char.ofNat code) else none

def readEscape? (cursor : Cursor) : Option (Char × Cursor) := do
  let letter ← cursor.peek?
  match simpleEscape? letter with
  | some character => return (character, cursor.advance)
  | none =>
      let length ← escapeLength? letter
      let digits := (cursor.rest.drop 1).take length
      if digits.length < length then none
      else
        let code ← Text.readNat? 16 digits
        let character ← characterOf? code
        return (character, cursor.advanceBy (length + 1))

/-- A stretch of a quoted scalar without blanks. `escapedBreak` says that it ended with an escaped
line break. -/
structure QuotedStretch where
  text : List Char
  cursor : Cursor
  escapedBreak : Bool

def readStretch? (fuel : Nat) (single : Bool) (text : List Char) (cursor : Cursor) :
    Option QuotedStretch :=
  match fuel with
  | 0 => some ⟨text, cursor, false⟩
  | fuel + 1 =>
      match cursor.peek? with
      | none => some ⟨text, cursor, false⟩
      | some character =>
          if isBlank character || isBreak character then some ⟨text, cursor, false⟩
          else if single && character = '\'' then
            if cursor.peekAt? 1 = some '\'' then
              readStretch? fuel single (text ++ ['\'']) (cursor.advanceBy 2)
            else some ⟨text, cursor, false⟩
          else if !single && character = '"' then some ⟨text, cursor, false⟩
          else if !single && character = '\\' then
            if (cursor.peekAt? 1).any isBreak then some ⟨text, cursor.advance.passBreak, true⟩
            else do
              let (escaped, cursor) ← readEscape? cursor.advance
              readStretch? fuel single (text ++ [escaped]) cursor
          else readStretch? fuel single (text ++ [character]) cursor.advance

def readQuotedRest? (fuel : Nat) (single : Bool) (text : List Char) (cursor : Cursor) :
    Option (List Char × Cursor) :=
  match fuel with
  | 0 => none
  | fuel + 1 =>
      if cursor.atAnyDocumentMark || cursor.rest.isEmpty then none
      else do
        let stretch ← readStretch? cursor.rest.length single text cursor
        let quote := if single then '\'' else '"'
        if stretch.cursor.peek? = some quote then return (stretch.text, stretch.cursor.advance)
        else
          let begun := if stretch.escapedBreak then Gap.afterEscapedBreak else Gap.none
          let (gap, cursor) ← begun.read? stretch.cursor.rest.length (-1) stretch.cursor
          readQuotedRest? fuel single (stretch.text ++ gap.text) cursor

def readQuoted? (single : Bool) (cursor : Cursor) : Option (List Char × Cursor) :=
  readQuotedRest? (cursor.rest.length + 1) single [] cursor.advance

end Yaml
end CustomerNotice
