import CustomerNotice.Failure
import CustomerNotice.Number.Literal
import CustomerNotice.Tree

/-!
Numbers of Hjson: digits without a leading zero, an optional fraction and an optional exponent.
A number without these two is an integer, read as an unsigned word unless it is negative.
-/

namespace CustomerNotice
namespace Hjson

/-- A text that has the form of a number, and whether it is an integer. -/
structure NumberText where
  text : List Char
  integral : Bool
  deriving DecidableEq, Repr

def isExponent : List Char → Bool
  | '+' :: digits => !digits.isEmpty && digits.all Char.isDigit
  | '-' :: digits => !digits.isEmpty && digits.all Char.isDigit
  | digits => !digits.isEmpty && digits.all Char.isDigit

/-- What may follow the integral digits of a number; whether it is nothing. -/
def integralTail? : List Char → Option Bool
  | [] => some true
  | '.' :: rest =>
      match rest.dropWhile Char.isDigit with
      | [] => some false
      | mark :: exponent =>
          if (mark = 'e' ∨ mark = 'E') ∧ isExponent exponent then some false else none
  | mark :: exponent =>
      if (mark = 'e' ∨ mark = 'E') ∧ isExponent exponent then some false else none

def NumberText.read? (text : List Char) : Option NumberText :=
  let unsigned :=
    match text with
    | '-' :: rest => rest
    | _ => text
  let digits := unsigned.takeWhile Char.isDigit
  if digits.isEmpty || (digits.head? = some '0' && digits.length ≠ 1) then none
  else (integralTail? (unsigned.dropWhile Char.isDigit)).map fun integral => ⟨text, integral⟩

def wrapped (value : Nat) : Int :=
  if value < Text.halfWordCount then value else (value : Int) - Text.wordCount

/-- The value of a number. An integer that no word holds cannot be read. -/
def NumberText.value (number : NumberText) : Except Crash Scalar :=
  if number.integral then
    match number.text with
    | '-' :: _ =>
        match Text.readWord? 10 number.text with
        | some value => .ok (.int value)
        | none => .error .unreadableNumber
    | digits =>
        match (Text.readNat? 10 digits).filter (· < Text.wordCount) with
        | some value => .ok (.int (wrapped value))
        | none => .error .unreadableNumber
  else
    match Binary64.read? number.text with
    | some value => .ok (.float value)
    | none => .error .unreadableNumber

end Hjson
end CustomerNotice
