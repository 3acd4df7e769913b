import CustomerNotice.Text.CodeRanges
import CustomerNotice.Text.Integer
import CustomerNotice.Tree

/-!
Files of INI: keys with values, in sections. Every value is a text. Of several values for one key
the last counts, and a section that comes again replaces the earlier one.
-/

namespace CustomerNotice
namespace Ini

structure Place where
  rest : List Char
  fresh : Bool
  deriving Repr

namespace Place

def advance (place : Place) : Place :=
  match place.rest with
  | [] => place
  | character :: rest => ⟨rest, character = '\n'⟩

def skipBlanks (fuel : Nat) (place : Place) : Place :=
  match fuel, place.rest with
  | fuel + 1, character :: _ =>
      if Text.isBlank character then place.advance.skipBlanks fuel else place
  | _, _ => place

def skipLineBlanks (fuel : Nat) (place : Place) : Place :=
  match fuel, place.rest with
  | fuel + 1, character :: _ =>
      if Text.isBlank character && character != '\n' && character != '\r' then
        place.advance.skipLineBlanks fuel
      else place
  | _, _ => place

def skipComment (fuel : Nat) (place : Place) : Place :=
  match fuel, place.rest with
  | fuel + 1, character :: _ =>
      if character = '\n' then place.advance else place.advance.skipComment fuel
  | _, _ => place

end Place

/-- The character of a number with four hexadecimal digits, of which the first may be a plus. -/
def characterOfCode? (code : List Char) : Option Char := do
  let value ←
    match code with
    | '+' :: digits => Text.readNat? 16 digits
    | digits => Text.readNat? 16 digits
  if value.isValidChar then some (Char.ofNat value) else none

/-- The characters that an escape gives, after its backslash, and the place behind it. An escaped
line break takes the first character of the next line with it. -/
def readEscape? (place : Place) : Option (List Char × Place) :=
  match place.rest with
  | [] => none
  | letter :: rest =>
      let after := place.advance
      match letter with
      | '0' => some (['\x00'], after)
      | 'a' => some (['\x07'], after)
      | 'b' => some (['\x08'], after)
      | 't' => some (['\t'], after)
      | 'r' => some (['\r'], after)
      | 'n' => some (['\n'], after)
      | '\n' => some ([], after.advance)
      | 'x' =>
          let code := rest.take 4
          if code.length < 4 then none
          else
            (characterOfCode? code).map fun character =>
              ([character], after.advance.advance.advance.advance)
      | other => some ([other], after)

/-- The characters up to one that ends them. The end of the text ends them only if `atEnd`. -/
def readUntil? (fuel : Nat) (enders : List Char) (atEnd : Bool) (place : Place) :
    Option (List Char × Place) :=
  match fuel, place.rest with
  | _, [] => if atEnd then some ([], place) else none
  | 0, _ => none
  | fuel + 1, character :: _ =>
      if enders.contains character then some ([], place)
      else if character = '\\' then do
        let (escaped, place) ← readEscape? place.advance
        let (characters, place) ← readUntil? fuel enders atEnd place
        return (escaped ++ characters, place)
      else do
        let (characters, place) ← readUntil? fuel enders atEnd place.advance
        return (character :: characters, place)

def readLine? (place : Place) : Option (List Char × Place) :=
  readUntil? (place.rest.length + 1) ['\n', '\r'] true place

def readValue? (place : Place) : Option (List Char × Place) :=
  let place := place.skipLineBlanks place.rest.length
  match place.rest with
  | character :: _ =>
      if character = '"' ∨ character = '\'' then do
        let (quoted, place) ← readUntil? (place.rest.length + 1) [character] false place.advance
        let (others, place) ← readLine? place.advance
        return (quoted ++ others, place)
      else readLine? place
  | [] => some ([], place)

/-- The sections in order, each with its values. Values before any section have none. -/
structure Document where
  general : List (String × Tree)
  sections : List (String × List (String × Tree))

namespace Document

def empty : Document := ⟨[], []⟩

def textTree (text : List Char) : Tree := .scalar none (.text (String.ofList (Text.trim text)))

def add (document : Document) (key : String) (value : Tree) : Document :=
  match document.sections.reverse with
  | [] => { document with general := document.general ++ [(key, value)] }
  | (name, values) :: earlier =>
      { document with sections := earlier.reverse ++ [(name, values ++ [(key, value)])] }

def openSection (document : Document) (name : String) : Document :=
  { document with sections := document.sections ++ [(name, [])] }

def toTree (document : Document) : Tree :=
  let tables := document.sections.map fun (name, values) =>
    (name, Tree.table none (Entries.ofList values))
  .table none (Entries.ofList (document.general ++ tables))

end Document

/-- Reads to the end of the text. `key` is the key that waits for its value. -/
def readDocument? (fuel : Nat) (document : Document) (key : List Char) (place : Place) :
    Option Document :=
  match fuel with
  | 0 => none
  | fuel + 1 =>
      let place := place.skipBlanks (place.rest.length + 1)
      match place.rest with
      | [] => some document
      | character :: _ =>
          if character = ';' ∨ character = '#' then
            if place.fresh then
              readDocument? fuel document key (place.skipComment (place.rest.length + 1))
            else none
          else if character = '[' then do
            let (name, place) ← readUntil? (place.rest.length + 1) [']'] false place.advance
            readDocument? fuel (document.openSection (String.ofList (Text.trim name))) key
              place.advance
          else if character = '=' ∨ character = ':' then
            if key.isEmpty then none
            else do
              let (value, place) ← readValue? place.advance
              readDocument? fuel (document.add (String.ofList key) (Document.textTree value)) []
                place
          else do
            let (name, place) ← readUntil? (place.rest.length + 1) ['=', ':'] false place
            readDocument? fuel document (Text.trim name) place

def read? (text : List Char) : Option Tree :=
  (readDocument? (text.length + 1) .empty [] ⟨text, true⟩).map Document.toTree

end Ini
end CustomerNotice
