import CustomerNotice.Failure
import CustomerNotice.Format.Json.Number

/-!
Documents of JSON. Of several members of an object under one name the last counts. Arrays and
objects may be nested 127 deep.
-/

namespace CustomerNotice
namespace Json

def isBlank (character : Char) : Bool :=
  character = ' ' || character = '\n' || character = '\t' || character = '\r'

def skipBlanks (text : List Char) : List Char := text.dropWhile isBlank

def expect? : List Char → List Char → Option (List Char)
  | [], text => some text
  | wanted :: more, character :: rest => if wanted = character then expect? more rest else none
  | _ :: _, [] => none

def readHex4? : List Char → Option (Nat × List Char)
  | a :: b :: c :: d :: rest => (Text.readNat? 16 [a, b, c, d]).map (·, rest)
  | _ => none

/-- The character of four hexadecimal digits, or of two groups of them that are a surrogate
pair. -/
def readCodePoint? (text : List Char) : Option (Char × List Char) := do
  let (first, rest) ← readHex4? text
  if 0xdc00 ≤ first ∧ first ≤ 0xdfff then none
  else if 0xd800 ≤ first ∧ first ≤ 0xdbff then
    match rest with
    | '\\' :: 'u' :: rest => do
        let (second, rest) ← readHex4? rest
        if 0xdc00 ≤ second ∧ second ≤ 0xdfff then
          some (Char.ofNat (0x10000 + (first - 0xd800) * 0x400 + (second - 0xdc00)), rest)
        else none
    | _ => none
  else some (Char.ofNat first, rest)

def readEscape? : List Char → Option (Char × List Char)
  | '"' :: rest => some ('"', rest)
  | '\\' :: rest => some ('\\', rest)
  | '/' :: rest => some ('/', rest)
  | 'b' :: rest => some ('\x08', rest)
  | 'f' :: rest => some ('\x0c', rest)
  | 'n' :: rest => some ('\n', rest)
  | 'r' :: rest => some ('\r', rest)
  | 't' :: rest => some ('\t', rest)
  | 'u' :: rest => readCodePoint? rest
  | _ => none

def readStringRest? (fuel : Nat) (text : List Char) : Option (List Char × List Char) :=
  match fuel, text with
  | 0, _ => none
  | _, [] => none
  | fuel + 1, character :: rest =>
      if character = '"' then some ([], rest)
      else if character = '\\' then do
        let (escaped, rest) ← readEscape? rest
        let (characters, rest) ← readStringRest? fuel rest
        return (escaped :: characters, rest)
      else if character.toNat < 0x20 then none
      else do
        let (characters, rest) ← readStringRest? fuel rest
        return (character :: characters, rest)

def readString? (text : List Char) : Option (String × List Char) :=
  (readStringRest? (text.length + 1) text).map fun (characters, rest) =>
    (String.ofList characters, rest)

def spanDigits (text : List Char) : List Char × List Char :=
  (text.takeWhile Char.isDigit, text.dropWhile Char.isDigit)

/-- The digits after a point, of which there must be one. -/
def readFraction? : List Char → Option (List Char × List Char)
  | '.' :: rest =>
      let (digits, rest) := spanDigits rest
      if digits.isEmpty then none else some (digits, rest)
  | text => some ([], text)

def readExponentSign : List Char → Bool × List Char
  | '+' :: rest => (false, rest)
  | '-' :: rest => (true, rest)
  | text => (false, text)

/-- An exponent, of which there must be a digit once it has begun. -/
def readExponent? : List Char → Option (Option (Bool × List Char) × List Char)
  | [] => some (none, [])
  | mark :: rest =>
      if mark = 'e' ∨ mark = 'E' then
        let (negative, rest) := readExponentSign rest
        let (digits, rest) := spanDigits rest
        if digits.isEmpty then none else some (some (negative, digits), rest)
      else some (none, mark :: rest)

/-- A number without its sign. A leading zero stands alone. -/
def readNumber? (negative : Bool) (text : List Char) : Option (Tree × List Char) := do
  let (whole, rest) := spanDigits text
  if whole.isEmpty || (whole.head? = some '0' && whole.length ≠ 1) then none
  else
    let (fraction, rest) ← readFraction? rest
    let (exponent, rest) ← readExponent? rest
    let value ← NumberText.value? { negative, whole, fraction, exponent }
    return (.scalar none value, rest)

mutual

/-- A value at the start of a text that begins with no blank. `depth` bounds the nesting. -/
def readValue? (fuel depth : Nat) (text : List Char) : Option (Tree × List Char) :=
  match fuel with
  | 0 => none
  | fuel + 1 =>
      match text with
      | 'n' :: rest => (expect? ['u', 'l', 'l'] rest).map (.null, ·)
      | 't' :: rest => (expect? ['r', 'u', 'e'] rest).map (.scalar none (.bool true), ·)
      | 'f' :: rest => (expect? ['a', 'l', 's', 'e'] rest).map (.scalar none (.bool false), ·)
      | '"' :: rest =>
          (readString? rest).map fun (value, rest) => (.scalar none (.text value), rest)
      | '-' :: rest => readNumber? true rest
      | '[' :: rest =>
          match depth, skipBlanks rest with
          | 0, _ => none
          | _ + 1, ']' :: rest => some (.list none [], rest)
          | depth + 1, rest => do
              let (items, rest) ← readItems? fuel depth rest
              return (.list none items, rest)
      | '\x7b' :: rest =>
          match depth, skipBlanks rest with
          | 0, _ => none
          | _ + 1, '\x7d' :: rest => some (.table none [], rest)
          | depth + 1, rest => do
              let (members, rest) ← readMembers? fuel depth rest
              return (.table none (Entries.ofList members), rest)
      | _ => readNumber? false text

def readItems? (fuel depth : Nat) (text : List Char) : Option (List Tree × List Char) :=
  match fuel with
  | 0 => none
  | fuel + 1 => do
      let (item, rest) ← readValue? fuel depth (skipBlanks text)
      match skipBlanks rest with
      | ']' :: rest => return ([item], rest)
      | ',' :: rest => do
          let (items, rest) ← readItems? fuel depth rest
          return (item :: items, rest)
      | _ => none

def readMembers? (fuel depth : Nat) (text : List Char) :
    Option (List (String × Tree) × List Char) :=
  match fuel with
  | 0 => none
  | fuel + 1 =>
      match skipBlanks text with
      | '"' :: rest => do
          let (name, rest) ← readString? rest
          match skipBlanks rest with
          | ':' :: rest => do
              let (value, rest) ← readValue? fuel depth (skipBlanks rest)
              match skipBlanks rest with
              | '\x7d' :: rest => return ([(name, value)], rest)
              | ',' :: rest => do
                  let (members, rest) ← readMembers? fuel depth rest
                  return ((name, value) :: members, rest)
              | _ => none
          | _ => none
      | _ => none

end

def greatestDepth : Nat := 127

def read? (text : List Char) : Option Tree := do
  let (value, rest) ← readValue? (2 * text.length + 2) greatestDepth (skipBlanks text)
  if (skipBlanks rest).isEmpty then some value else none

end Json
end CustomerNotice
