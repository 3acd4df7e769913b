import CustomerNotice.Number.Binary64

/-!
Decimal text of a number: the fewest digits that read back as the same number, of those the
nearest to it and halfway the larger, written out without an exponent.
-/

namespace CustomerNotice
namespace Binary64

/-- `digits * 10 ^ power`. -/
structure Decimal where
  digits : Nat
  power : Int
  deriving DecidableEq, Repr

/-- The reals that round to a positive number, in quarters of its last binary place. -/
structure Interval where
  low : Nat
  value : Nat
  high : Nat
  closed : Bool
  exponent : Int

/-- A number that is the least of its exponent has a nearer neighbour below it. -/
def interval (mantissa : Nat) (exponent : Int) : Interval where
  low :=
    if mantissa = leastMantissa ∧ leastExponent < exponent then 4 * mantissa - 1
    else 4 * mantissa - 2
  value := 4 * mantissa
  high := 4 * mantissa + 2
  closed := mantissa % 2 = 0
  exponent := exponent - 2

/-- Compares `left * 10 ^ power` with `right * 2 ^ exponent`. -/
def compareScaled (left : Nat) (power : Int) (right : Nat) (exponent : Int) : Ordering :=
  let (decimal, decimalUnit) := scale 10 left 1 power
  let (binary, binaryUnit) := scale 2 right 1 exponent
  compare (decimal * binaryUnit) (binary * decimalUnit)

def Interval.contains (bounds : Interval) (decimal : Decimal) : Bool :=
  let low := compareScaled decimal.digits decimal.power bounds.low bounds.exponent
  let high := compareScaled decimal.digits decimal.power bounds.high bounds.exponent
  if bounds.closed then low != .lt && high != .gt else low == .gt && high == .lt

/-- The multiple of `10 ^ power` just below the value or equal to it. -/
def Interval.below (bounds : Interval) (power : Int) : Decimal :=
  let (numerator, denominator) := scale 2 bounds.value 1 bounds.exponent
  let (numerator, denominator) := scale 10 numerator denominator (-power)
  ⟨numerator / denominator, power⟩

/-- Whether the next multiple above `below` is at most as far from the value as `below` is. -/
def Interval.prefersAbove (bounds : Interval) (below : Decimal) : Bool :=
  compareScaled (2 * below.digits + 1) below.power (2 * bounds.value) bounds.exponent != .gt

/-- The member of the interval among the two neighbours of the value on the grid of
`10 ^ power`, the nearer one if both are members. -/
def Interval.onGrid? (bounds : Interval) (power : Int) : Option Decimal :=
  let below := bounds.below power
  let above : Decimal := ⟨below.digits + 1, power⟩
  match bounds.contains below, bounds.contains above with
  | true, true => some (if bounds.prefersAbove below then above else below)
  | true, false => some below
  | false, true => some above
  | false, false => none

/-- The least `power` for which the value is below `10 ^ power`. -/
def Interval.magnitude (bounds : Interval) : Int :=
  let (numerator, denominator) := scale 2 bounds.value 1 bounds.exponent
  ((Nat.toDigits 10 (numerator * Nat.pow 10 350 / denominator)).length : Int) - 350

/-- The shortest decimal that reads back as the positive number `mantissa * 2 ^ exponent`.
The coarsest grid has the power of ten above the value as its only candidate; seventeen digits
are always enough. -/
def shortest (mantissa : Nat) (exponent : Int) : Decimal :=
  let bounds := interval mantissa exponent
  let magnitude := bounds.magnitude
  match (List.range 18).findSome? fun count => bounds.onGrid? (magnitude - (count : Nat)) with
  | some decimal => decimal
  | none => bounds.below (magnitude - 17)

def Decimal.layout (decimal : Decimal) : String :=
  let digits := decimal.digits.repr.toList
  if 0 ≤ decimal.power then
    String.ofList (digits ++ List.replicate decimal.power.toNat '0')
  else
    let places := (-decimal.power).toNat
    if places < digits.length then
      let whole := digits.length - places
      String.ofList (digits.take whole ++ '.' :: digits.drop whole)
    else
      String.ofList ('0' :: '.' :: (List.replicate (places - digits.length) '0' ++ digits))

/-- Positional text; a whole number has no point, and a zero keeps its sign. -/
def text : Binary64 → String
  | .nan => "NaN"
  | .infinite negative => if negative then "-inf" else "inf"
  | .finite negative mantissa exponent =>
      let magnitude := if mantissa = 0 then "0" else (shortest mantissa exponent).layout
      if negative then "-" ++ magnitude else magnitude

end Binary64
end CustomerNotice
