import CustomerNotice.Number.Binary64
import CustomerNotice.Text.Integer
import CustomerNotice.Tree

/-!
Numbers of JSON. An integer that fits a signed word stays an integer. Any other number is made
from the leading digits that fit an unsigned word and a power of ten, by one multiplication or
by divisions, each of them rounded.
-/

namespace CustomerNotice
namespace Json

/-- A number as it is written: the digits before and after the point, and the exponent with its
sign. -/
structure NumberText where
  negative : Bool
  whole : List Char
  fraction : List Char
  exponent : Option (Bool × List Char)
  deriving DecidableEq, Repr

def digitOf (character : Char) : Nat := character.toNat - '0'.toNat

/-- Continues a significand by digits as long as it fits an unsigned word. The second component
counts the digits that were used. -/
def extend (significand : Nat) : List Char → Nat × Nat
  | [] => (significand, 0)
  | character :: rest =>
      let next := significand * 10 + digitOf character
      if next < Text.wordCount then
        let (significand, used) := extend next rest
        (significand, used + 1)
      else (significand, 0)

def greatestPower : Nat := 308

def powerOfTen (power : Nat) : Binary64 := .ofNat (Nat.pow 10 power)

/-- Divides by the greatest power of ten until the rest of the power is small enough. Zero is
reached after a few steps. -/
def divideDown (steps : Nat) (value : Binary64) (power : Nat) : Binary64 :=
  match steps with
  | 0 => value
  | steps + 1 =>
      if power ≤ greatestPower then value.div (powerOfTen power)
      else if value.isZero then value
      else divideDown steps (value.div (powerOfTen greatestPower)) (power - greatestPower)

/-- A significand times a power of ten; nothing if it is too large. -/
def ofParts? (significand : Nat) (power : Int) : Option Binary64 :=
  let value := Binary64.ofNat significand
  if 0 ≤ power then
    if power.toNat ≤ greatestPower then
      let product := value.mul (powerOfTen power.toNat)
      if product.isInfinite then none else some product
    else if value.isZero then some value
    else none
  else some (divideDown 8 value (-power).toNat)

def exponentCount : Nat := 2147483648

/-- The magnitude of a number that is written with a point, an exponent or too many digits. -/
def floatMagnitude? (significand : Nat) (power : Int) (exponent : Option (Bool × List Char)) :
    Option Binary64 :=
  match exponent with
  | none => ofParts? significand power
  | some (negative, digits) => do
      let exponent ← Text.readNat? 10 digits
      if exponent < exponentCount then
        ofParts? significand (if negative then power - exponent else power + exponent)
      else if significand ≠ 0 ∧ negative = false then none
      else some (Binary64.zero false)

def signed (negative : Bool) (value : Binary64) : Binary64 := if negative then value.neg else value

/-- The value of a number that is written as an integer and whose digits fit an unsigned word.
A zero with a minus sign is no integer. -/
def ofInteger (negative : Bool) (significand : Nat) : Scalar :=
  let value : Int := if negative then -significand else significand
  if Text.fitsWord value && !(negative && significand = 0) then .int value
  else .float (signed negative (.ofNat significand))

def NumberText.value? (number : NumberText) : Option Scalar :=
  let (significand, used) := extend 0 number.whole
  if used = number.whole.length ∧ number.fraction = [] ∧ number.exponent = none then
    some (ofInteger number.negative significand)
  else
    let (significand, usedAfter) := extend significand number.fraction
    let power : Int := ((number.whole.length - used : Nat) : Int) - usedAfter
    (floatMagnitude? significand power number.exponent).map fun magnitude =>
      .float (signed number.negative magnitude)

end Json
end CustomerNotice
