import CustomerNotice.Text.Integer

/-!
Quoted texts of TOML. Between double quotes a backslash introduces an escape, between single
quotes it does not. Three quotes enclose a text of several lines, which loses a line break at its
very beginning.
-/

namespace CustomerNotice
namespace Toml

def isLineBlank (character : Char) : Bool := character = ' ' || character = '\t'

def isPlain (character : Char) : Bool := character = '\t' || 0x20 ≤ character.toNat

def foldLineEnds : List Char → List Char
  | [] => []
  | '\r' :: '\n' :: rest => '\n' :: foldLineEnds rest
  | character :: rest => character :: foldLineEnds rest

/-- The character whose number is given by `count` hexadecimal digits. -/
def readCode? (count : Nat) (text : List Char) : Option (Char × List Char) := do
  if text.length < count then none
  else
    let value ← Text.readNat? 16 (text.take count)
    if value.isValidChar then some (Char.ofNat value, text.drop count) else none

/-- What a backslash gives: a character, or in a text of several lines nothing for a line break
with the blanks around it. -/
def readEscape? (multiline : Bool) : List Char → Option (List Char × List Char)
  | '"' :: rest => some (['"'], rest)
  | '\\' :: rest => some (['\\'], rest)
  | 'b' :: rest => some (['\x08'], rest)
  | 'f' :: rest => some (['\x0c'], rest)
  | 'n' :: rest => some (['\n'], rest)
  | 'r' :: rest => some (['\r'], rest)
  | 't' :: rest => some (['\t'], rest)
  | 'u' :: rest => (readCode? 4 rest).map fun (character, rest) => ([character], rest)
  | 'U' :: rest => (readCode? 8 rest).map fun (character, rest) => ([character], rest)
  | text =>
      match multiline, text.dropWhile isLineBlank with
      | true, '\n' :: rest =>
          some ([], rest.dropWhile fun character => isLineBlank character || character = '\n')
      | _, _ => none

/-- How many quotes may stand at the end of a text of several lines, before the closing ones. -/
def greatestExtra : Nat := 2

def readQuotedRest? (fuel : Nat) (quote : Char) (multiline : Bool) (text : List Char) :
    Option (List Char × List Char) :=
  match fuel, text with
  | 0, _ => none
  | _, [] => none
  | fuel + 1, character :: rest =>
      if character = quote then
        if multiline then
          let count := (text.takeWhile (· = quote)).length
          if count < 3 then do
            let (characters, rest) ← readQuotedRest? fuel quote multiline (text.drop count)
            return (List.replicate count quote ++ characters, rest)
          else
            let extra := min (count - 3) greatestExtra
            some (List.replicate extra quote, text.drop (3 + extra))
        else some ([], rest)
      else if character = '\\' ∧ quote = '"' then do
        let (escaped, rest) ← readEscape? multiline rest
        let (characters, rest) ← readQuotedRest? fuel quote multiline rest
        return (escaped ++ characters, rest)
      else if (character = '\n' ∧ multiline) ∨ (isPlain character ∧ character ≠ '\x7f') then do
        let (characters, rest) ← readQuotedRest? fuel quote multiline rest
        return (character :: characters, rest)
      else none

structure Quoted where
  text : String
  multiline : Bool
  deriving DecidableEq, Repr

def readQuoted? (quote : Char) (text : List Char) : Option (Quoted × List Char) :=
  let close (multiline : Bool) (text : List Char) :=
    (readQuotedRest? (text.length + 1) quote multiline text).map fun (characters, rest) =>
      (⟨String.ofList characters, multiline⟩, rest)
  match text with
  | first :: second :: rest =>
      if first = quote ∧ second = quote then
        match rest with
        | '\n' :: rest => close true rest
        | rest => close true rest
      else close false text
  | text => close false text

end Toml
end CustomerNotice
