import CustomerNotice.Number.Literal
import CustomerNotice.Tree

/-!
Numbers of TOML. Single underscores may stand between digits. Decimal digits have no leading
zero; an integer has to fit a signed word, and a number that is written with a point or an
exponent has to be finite.
-/

namespace CustomerNotice
namespace Toml

def isWordCharacter (character : Char) : Bool :=
  character.isAlphanum || character = '-' || character = '_'

def spanWord (text : List Char) : List Char × List Char :=
  (text.takeWhile isWordCharacter, text.dropWhile isWordCharacter)

def isDigitOf (base : Nat) (character : Char) : Bool :=
  (Text.digitValue? base character).isSome

def isGrouped : List Char → Bool
  | [] => false
  | ['_'] => false
  | '_' :: _ => false
  | [_] => true
  | _ :: '_' :: rest => isGrouped rest
  | _ :: rest => isGrouped rest

/-- The digits of a base at the start of a text, without their underscores, and what follows
them. -/
def spanDigits? (base : Nat) (leadingZeros : Bool) (text : List Char) :
    Option (List Char × List Char) :=
  let isPart character := isDigitOf base character || character = '_'
  let part := text.takeWhile isPart
  if isGrouped part && (leadingZeros || part.head? != some '0' || part.length = 1) then
    some (part.filter (· != '_'), text.dropWhile isPart)
  else none

def spanSigned? (leadingZeros : Bool) : List Char → Option (List Char × List Char)
  | '-' :: text =>
      (spanDigits? 10 leadingZeros text).map fun (digits, rest) => ('-' :: digits, rest)
  | text => spanDigits? 10 leadingZeros text

/-- The integer that digits stand for, if nothing follows them. -/
def readInteger? (base : Nat) : List Char × List Char → Option Scalar
  | (digits, []) => (Text.readWord? base digits).map Scalar.int
  | _ => none

/-- The digits of an exponent behind its mark at the end of a word. If nothing follows the mark,
the word ends before a plus sign, and another word has the digits. -/
def readExponent? (word rest : List Char) : Option (List Char × List Char) :=
  match word, rest with
  | [], '+' :: text => do
      let (word, rest) := spanWord text
      match ← spanDigits? 10 true word with
      | (digits, []) => some (digits, rest)
      | _ => none
  | [], _ => none
  | word, rest => do
      match ← spanSigned? true word with
      | (digits, []) => some (digits, rest)
      | _ => none

/-- What follows the digits of a word in a number: nothing, or an exponent. -/
def readExponentPart? (word rest : List Char) : Option (List Char × List Char) :=
  match word with
  | [] => some ([], rest)
  | mark :: word =>
      if mark = 'e' ∨ mark = 'E' then
        (readExponent? word rest).map fun (digits, rest) => ('e' :: digits, rest)
      else none

def finite? (literal : List Char) : Option Scalar := do
  match ← Binary64.read? literal with
  | .finite negative mantissa exponent => some (.float (.finite negative mantissa exponent))
  | _ => none

def readScaled? (word rest : List Char) : Option (Scalar × List Char) := do
  let (whole, after) ← spanSigned? false word
  let (exponent, rest) ← readExponentPart? after rest
  return (← finite? (whole ++ exponent), rest)

def readPointed? (whole fraction rest : List Char) : Option (Scalar × List Char) := do
  let (whole, after) ← spanSigned? false whole
  if after.isEmpty then
    let (fraction, after) ← spanDigits? 10 true fraction
    let (exponent, rest) ← readExponentPart? after rest
    return (← finite? (whole ++ '.' :: fraction ++ exponent), rest)
  else none

def readNumber? (word rest : List Char) : Option (Scalar × List Char) :=
  match word with
  | '0' :: 'x' :: digits => do return (← readInteger? 16 (← spanDigits? 16 true digits), rest)
  | '0' :: 'o' :: digits => do return (← readInteger? 8 (← spanDigits? 8 true digits), rest)
  | '0' :: 'b' :: digits => do return (← readInteger? 2 (← spanDigits? 2 true digits), rest)
  | _ =>
      if word.contains 'e' || word.contains 'E' then readScaled? word rest
      else
        match rest with
        | '.' :: rest =>
            let (fraction, rest) := spanWord rest
            readPointed? word fraction rest
        | _ =>
            if word = ['i', 'n', 'f'] then some (.float (.infinite false), rest)
            else if word = ['-', 'i', 'n', 'f'] then some (.float (.infinite true), rest)
            else if word = ['n', 'a', 'n'] ∨ word = ['-', 'n', 'a', 'n'] then
              some (.float .nan, rest)
            else do return (← readInteger? 10 (← spanSigned? false word), rest)

end Toml
end CustomerNotice
