import CustomerNotice.Failure
import CustomerNotice.Format.Hjson.Number
import CustomerNotice.Format.Json
import CustomerNotice.Text.CodeRanges

/-!
Files of Hjson: JSON with comments, optional commas and quotes, and texts that go on to the end of
their line. The braces around the whole may be left out.
-/

namespace CustomerNotice
namespace Hjson

structure Place where
  rest : List Char
  column : Nat
  deriving Repr

namespace Place

def advance (place : Place) : Place :=
  match place.rest with
  | [] => place
  | '\n' :: rest => ⟨rest, 0⟩
  | _ :: rest => ⟨rest, place.column + 1⟩

def advanceBy (place : Place) : Nat → Place
  | 0 => place
  | count + 1 => place.advance.advanceBy count

def skipLine (place : Place) : Place :=
  place.advanceBy (place.rest.takeWhile (· != '\n')).length

/-- Passes a comment behind its opening marks; one that never ends is an error. -/
def skipComment? (fuel : Nat) (place : Place) : Option Place :=
  match fuel, place.rest with
  | fuel + 1, first :: second :: _ =>
      if first = '*' ∧ second = '/' then some (place.advanceBy 2)
      else place.advance.skipComment? fuel
  | _, _ => none

/-- Passes blanks and comments. A slash that begins no comment is passed as well. -/
def skipBlanks? (fuel : Nat) (place : Place) : Option Place :=
  match fuel, place.rest with
  | 0, _ => some place
  | _, [] => some place
  | fuel + 1, character :: rest =>
      if Json.isBlank character then place.advance.skipBlanks? fuel
      else if character = '#' then place.skipLine.skipBlanks? fuel
      else if character = '/' then
        match rest with
        | [] => none
        | '/' :: _ => place.skipLine.skipBlanks? fuel
        | '*' :: _ => do ((← (place.advanceBy 2).skipComment? rest.length)).skipBlanks? fuel
        | _ :: _ => place.advance.skipBlanks? fuel
      else some place

end Place

def malformed {Value : Type} : Except FormatFailure Value := .error (.rejected .malformed)

def skipped (place : Place) : Except FormatFailure Place :=
  FormatFailure.require (place.skipBlanks? (place.rest.length + 1))

def isPunctuator (character : Char) : Bool :=
  character = '\x7b' || character = '\x7d' || character = '[' || character = ']'
    || character = ',' || character = ':'

/-- The characters of a text in double quotes, behind the opening quote. Line breaks may stand in
it as they are. -/
def readQuoted? (fuel : Nat) (place : Place) : Option (List Char × Place) :=
  match fuel, place.rest with
  | 0, _ => none
  | _, [] => none
  | fuel + 1, character :: rest =>
      if character = '"' then some ([], place.advance)
      else if character = '\\' then do
        let (escaped, after) ← Json.readEscape? rest
        let place := place.advanceBy (1 + (rest.length - after.length))
        let (characters, place) ← readQuoted? fuel place
        return (escaped :: characters, place)
      else do
        let (characters, place) ← readQuoted? fuel place.advance
        return (character :: characters, place)

def readString (place : Place) : Except FormatFailure (String × Place) := do
  let (characters, place) ← FormatFailure.require (readQuoted? (place.rest.length + 1) place)
  return (String.ofList characters, place)

def skipIndent (place : Place) : Nat → Place
  | 0 => place
  | count + 1 =>
      match place.rest with
      | character :: _ =>
          if character = ' ' ∨ character = '\t' ∨ character = '\r' then
            skipIndent place.advance count
          else place
      | [] => place

/-- A text of several lines up to its three closing quotes. The lines lose as much indentation as
the opening quotes have. -/
def readLines? (fuel indent : Nat) (text : List Char) (place : Place) :
    Option (List Char × Place) :=
  match fuel, place.rest with
  | 0, _ => none
  | _, [] => none
  | fuel + 1, character :: rest =>
      if character = '\'' ∧ rest.take 2 = ['\'', '\''] then
        let text := if text.getLast? = some '\n' then text.dropLast else text
        some (text, place.advanceBy 3)
      else if character = '\r' then readLines? fuel indent text place.advance
      else if character = '\n' then
        readLines? fuel indent (text ++ ['\n']) (skipIndent place.advance indent)
      else readLines? fuel indent (text ++ [character]) place.advance

def readMultiline (place : Place) : Except FormatFailure (Tree × Place) := do
  let indent := place.column
  let place := place.advanceBy 3
  let place := skipIndent place place.rest.length
  let place :=
    match place.rest with
    | '\n' :: _ => skipIndent place.advance indent
    | _ => place
  let (text, place) ←
    FormatFailure.require (readLines? (place.rest.length + 1) indent [] place)
  return (.scalar none (.text (String.ofList text)), place)

/-- Whether a word may end here though its line does not. -/
def mayEndWord : List Char → Bool
  | '#' :: _ => true
  | '/' :: '/' :: _ => true
  | '/' :: '*' :: _ => true
  | ',' :: _ => true
  | '\x7d' :: _ => true
  | ']' :: _ => true
  | _ => false

def literal? (text : List Char) : Except Crash (Option Scalar) :=
  let trimmed := Text.trim text
  if trimmed = ['f', 'a', 'l', 's', 'e'] then .ok (some (.bool false))
  else if trimmed = ['n', 'u', 'l', 'l'] then .ok (some .null)
  else if trimmed = ['t', 'r', 'u', 'e'] then .ok (some (.bool true))
  else
    match NumberText.read? (text.reverse.dropWhile Json.isBlank).reverse with
    | some number => do return some (← number.value)
    | none => .ok none

/-- A value without quotes: a literal as soon as one may end, or else the rest of the line. -/
def readUnquoted (fuel : Nat) (text : List Char) (place : Place) :
    Except FormatFailure (Tree × Place) :=
  match fuel with
  | 0 => malformed
  | fuel + 1 =>
      let atEnd :=
        match place.rest with
        | [] => true
        | character :: _ => character = '\r' || character = '\n'
      if atEnd || mayEndWord place.rest then do
        match ← (literal? text).mapError .crashed with
        | some value => return (.scalar none value, place)
        | none =>
            if atEnd then return (.scalar none (.text (String.ofList (Text.trim text))), place)
            else readUnquoted fuel (text ++ place.rest.take 1) place.advance
      else readUnquoted fuel (text ++ place.rest.take 1) place.advance

/-- The characters of a key without quotes up to its colon. Blanks may stand only behind it. -/
def readName? (fuel : Nat) (name : List Char) (spaced : Bool) (place : Place) :
    Option (List Char × Place) :=
  match fuel, place.rest with
  | 0, _ => none
  | _, [] => none
  | fuel + 1, character :: _ =>
      if character = ':' then if name.isEmpty then none else some (name, place)
      else if character = '\x00' then none
      else if character.toNat ≤ 0x20 then readName? fuel name true place.advance
      else if isPunctuator character || spaced then none
      else readName? fuel (name ++ [character]) spaced place.advance

def readKey (place : Place) : Except FormatFailure (String × Place) :=
  match place.rest with
  | '"' :: _ => readString place.advance
  | _ => do
      let (name, place) ←
        FormatFailure.require (readName? (place.rest.length + 1) [] false place)
      return (String.ofList name, place)

def skipComma (first : Bool) (place : Place) : Except FormatFailure Place :=
  match first, place.rest with
  | false, ',' :: _ => skipped place.advance
  | _, _ => .ok place

mutual

def readValue (fuel : Nat) (place : Place) : Except FormatFailure (Tree × Place) :=
  match fuel with
  | 0 => malformed
  | fuel + 1 => do
      let place ← skipped place
      match place.rest with
      | [] => malformed
      | '"' :: _ => do
          let (text, place) ← readString place.advance
          return (.scalar none (.text text), place)
      | '\'' :: '\'' :: '\'' :: _ => readMultiline place
      | '[' :: _ => do
          let (items, place) ← readItems fuel true place.advance
          return (.list none items, place)
      | '\x7b' :: _ => do
          let (members, place) ← readMembers fuel false true place.advance
          return (.table none (Entries.ofList members), place)
      | character :: _ =>
          if isPunctuator character then malformed
          else readUnquoted (place.rest.length + 1) [] place

def readItems (fuel : Nat) (first : Bool) (place : Place) :
    Except FormatFailure (List Tree × Place) :=
  match fuel with
  | 0 => malformed
  | fuel + 1 => do
      let place ← skipComma first (← skipped place)
      match place.rest with
      | ']' :: _ => return ([], place.advance)
      | _ => do
          let (item, place) ← readValue fuel place
          let (items, place) ← readItems fuel false place
          return (item :: items, place)

/-- Members up to the closing brace, or in the `root` up to the end of the text. -/
def readMembers (fuel : Nat) (root first : Bool) (place : Place) :
    Except FormatFailure (List (String × Tree) × Place) :=
  match fuel with
  | 0 => malformed
  | fuel + 1 => do
      let place ← skipComma first (← skipped place)
      match place.rest with
      | [] => if root then return ([], place) else malformed
      | '\x7d' :: _ => if root then malformed else return ([], place.advance)
      | _ => do
          let (name, place) ← readKey place
          let place ← skipped place
          match place.rest with
          | ':' :: _ => do
              let (value, place) ← readValue fuel place.advance
              let (members, place) ← readMembers fuel root false place
              return ((name, value) :: members, place)
          | _ => malformed

end

def isEmptyText (text : List Char) : Bool :=
  match (Place.mk text 0).skipBlanks? (text.length + 1) with
  | some place => place.rest.isEmpty
  | none => false

def readRoot (text : List Char) : Except FormatFailure Tree :=
  if isEmptyText text then malformed
  else do
    let (members, _) ← readMembers (2 * text.length + 2) true true ⟨text, 0⟩
    return .table none (Entries.ofList members)

def readWhole (text : List Char) : Except FormatFailure Tree := do
  let (value, place) ← readValue (2 * text.length + 2) ⟨text, 0⟩
  let place ← skipped place
  if place.rest.isEmpty then return value else malformed

def read (text : List Char) : Except FormatFailure Tree :=
  match readRoot text with
  | .error (.rejected _) => readWhole text
  | result => result

end Hjson
end CustomerNotice
