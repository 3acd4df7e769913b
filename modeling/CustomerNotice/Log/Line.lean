import CustomerNotice.Log.Record

/-!
Log records as lines of text. Each record is one object of JSON: the core parts first, then the
recorded fields.
-/

namespace CustomerNotice

/-- What takes the place of identifiers drawn afresh and of durations in the lines of one
course. -/
structure Circumstances where
  freshId : String
  milliseconds : Nat
  deriving DecidableEq, Repr

namespace Record

def version : Nat := 0

def codeEscape (character : Char) : List Char :=
  let digits := Nat.toDigits 16 character.toNat
  '\\' :: 'u' :: List.replicate (4 - digits.length) '0' ++ digits

def escaped (character : Char) : List Char :=
  if character = '"' then ['\\', '"']
  else if character = '\\' then ['\\', '\\']
  else if character = '\n' then ['\\', 'n']
  else if character = '\r' then ['\\', 'r']
  else if character = '\t' then ['\\', 't']
  else if character = '\x08' then ['\\', 'b']
  else if character = '\x0c' then ['\\', 'f']
  else if character.toNat < 0x20 then codeEscape character
  else [character]

def textLiteral (text : String) : String :=
  "\"" ++ String.ofList (text.toList.flatMap escaped) ++ "\""

def valueLiteral (circumstances : Circumstances) : FieldValue → String
  | .text value => textLiteral value
  | .flag value => if value then "true" else "false"
  | .freshId => textLiteral circumstances.freshId
  | .duration => circumstances.milliseconds.repr

def member (name literal : String) : String := textLiteral name ++ ":" ++ literal

def line (circumstances : Circumstances) (record : Record) : String :=
  let core :=
    [ member "v" version.repr, member "name" (textLiteral record.name)
    , member "msg" (textLiteral record.message), member "level" record.level.code.repr
    , member "target" (textLiteral record.target) ]
  let fields := record.fields.map fun (name, value) =>
    member name (valueLiteral circumstances value)
  "\x7b" ++ ",".intercalate (core ++ fields) ++ "\x7d\n"

end Record
end CustomerNotice
