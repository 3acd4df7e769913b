/-!
Binary floating-point numbers of 64 bits. A finite number is a signed integer times a power of
two, so that sums of the program's decisions about it are decisions about integers; every
operation is the exact one followed by rounding to the nearest number, ties to even.
-/

namespace CustomerNotice

/-- `finite negative mantissa exponent` stands for `mantissa * 2 ^ exponent` with its sign. -/
inductive Binary64
  | finite (negative : Bool) (mantissa : Nat) (exponent : Int)
  | infinite (negative : Bool)
  | nan
  deriving DecidableEq, Repr

namespace Binary64

def leastExponent : Int := -1074

def greatestExponent : Int := 971

/-- The least mantissa of a number whose exponent is not the least one: `2 ^ 52`. -/
def leastMantissa : Nat := 4503599627370496

def zero (negative : Bool) : Binary64 := .finite negative 0 leastExponent

/-- Numerator and denominator of `numerator / denominator * base ^ power`. -/
def scale (base numerator denominator : Nat) (power : Int) : Nat × Nat :=
  if 0 ≤ power then (numerator * Nat.pow base power.toNat, denominator)
  else (numerator, denominator * Nat.pow base (-power).toNat)

/-- The integer nearest to a fraction; halfway between two, the even one. -/
def roundHalfEven (numerator denominator : Nat) : Nat :=
  let quotient := numerator / denominator
  let remainder := numerator % denominator
  if 2 * remainder < denominator then quotient
  else if 2 * remainder = denominator then quotient + quotient % 2
  else quotient + 1

/-- The exponent at which a positive fraction has a mantissa of 53 bits, or the least exponent
if that is below it. The bit lengths give it up to one. -/
def exponentOf (numerator denominator : Nat) : Int :=
  let upper := (Nat.log2 numerator : Int) - Nat.log2 denominator - 52
  let (scaled, unit) := scale 2 numerator denominator (-upper)
  max leastExponent (if scaled < unit * leastMantissa then upper - 1 else upper)

def ofRatio (negative : Bool) (numerator denominator : Nat) : Binary64 :=
  if numerator = 0 then zero negative
  else
    let exponent := exponentOf numerator denominator
    let (scaled, unit) := scale 2 numerator denominator (-exponent)
    let rounded := roundHalfEven scaled unit
    let (mantissa, exponent) :=
      if rounded = 2 * leastMantissa then (leastMantissa, exponent + 1) else (rounded, exponent)
    if greatestExponent < exponent then .infinite negative
    else .finite negative mantissa exponent

def ofNat (value : Nat) : Binary64 := ofRatio false value 1

/-- The number nearest to `digits * 10 ^ power`. Far outside the range of the format the power
itself is never formed. -/
def ofDecimal (negative : Bool) (digits : Nat) (power : Int) : Binary64 :=
  if digits = 0 then zero negative
  else
    let magnitude := ((Nat.toDigits 10 digits).length : Int) + power
    if 400 < magnitude then .infinite negative
    else if magnitude < -400 then zero negative
    else
      let (numerator, denominator) := scale 10 digits 1 power
      ofRatio negative numerator denominator

def mul : Binary64 → Binary64 → Binary64
  | .finite negative left leftExponent, .finite _ right rightExponent =>
      let (numerator, denominator) := scale 2 (left * right) 1 (leftExponent + rightExponent)
      ofRatio negative numerator denominator
  | left, _ => left

def div : Binary64 → Binary64 → Binary64
  | .finite negative left leftExponent, .finite _ right rightExponent =>
      let (numerator, denominator) := scale 2 left right (leftExponent - rightExponent)
      ofRatio negative numerator denominator
  | left, _ => left

def neg : Binary64 → Binary64
  | .finite negative mantissa exponent => .finite (!negative) mantissa exponent
  | .infinite negative => .infinite (!negative)
  | .nan => .nan

def isZero : Binary64 → Bool
  | .finite _ mantissa _ => mantissa = 0
  | _ => false

def isInfinite : Binary64 → Bool
  | .infinite _ => true
  | _ => false

/-- Whether the number lies within `2 ^ -52`, exclusive, of one. -/
def nearOne : Binary64 → Bool
  | .finite false mantissa exponent =>
      let (numerator, denominator) := scale 2 mantissa 1 exponent
      let distance := max numerator denominator - min numerator denominator
      distance * leastMantissa < denominator
  | _ => false

end Binary64
end CustomerNotice
