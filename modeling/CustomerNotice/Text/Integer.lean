/-!
Reading whole numbers: digits of a base with an optional sign, kept only when they fit a signed
64-bit word.
-/

namespace CustomerNotice
namespace Text

def digitValue? (base : Nat) (character : Char) : Option Nat :=
  let value? :=
    if '0' ≤ character ∧ character ≤ '9' then some (character.toNat - '0'.toNat)
    else if 'a' ≤ character ∧ character ≤ 'f' then some (character.toNat - 'a'.toNat + 10)
    else if 'A' ≤ character ∧ character ≤ 'F' then some (character.toNat - 'A'.toNat + 10)
    else none
  value?.filter (· < base)

/-- The number that the digits continue from `value`. -/
def readDigitsFrom (base value : Nat) : List Char → Option Nat
  | [] => some value
  | character :: rest => do
      let digit ← digitValue? base character
      readDigitsFrom base (value * base + digit) rest

/-- One or more digits, and nothing else. -/
def readNat? (base : Nat) (digits : List Char) : Option Nat :=
  if digits.isEmpty then none else readDigitsFrom base 0 digits

def wordCount : Nat := 18446744073709551616

/-- The numbers of a signed word are those from the negative of this up to it, exclusive. -/
def halfWordCount : Nat := 9223372036854775808

def fitsWord (value : Int) : Bool := -halfWordCount ≤ value && value < halfWordCount

def readInt? (base : Nat) : List Char → Option Int
  | '-' :: digits => (readNat? base digits).map fun value => -(value : Int)
  | '+' :: digits => (readNat? base digits).map Int.ofNat
  | digits => (readNat? base digits).map Int.ofNat

def readWord? (base : Nat) (text : List Char) : Option Int :=
  (readInt? base text).filter fitsWord

def ofInt : Int → String
  | .ofNat value => value.repr
  | .negSucc value => "-" ++ (value + 1).repr

end Text
end CustomerNotice
