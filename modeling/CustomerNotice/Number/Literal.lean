import CustomerNotice.Number.Binary64
import CustomerNotice.Text.Integer

/-!
Floating-point literals: an optional sign, then digits with an optional point and an optional
exponent, or the name of an infinity or of the undefined number in any case.
-/

namespace CustomerNotice
namespace Binary64

def spanDigits (text : List Char) : List Char × List Char :=
  (text.takeWhile Char.isDigit, text.dropWhile Char.isDigit)

/-- The value of decimal digits; none at all are worth zero. -/
def digitsValue (digits : List Char) : Nat := (Text.readDigitsFrom 10 0 digits).getD 0

def readExponent? : List Char → Option Int
  | [] => some 0
  | mark :: rest =>
      if mark = 'e' ∨ mark = 'E' then Text.readInt? 10 rest else none

def readDecimal? (negative : Bool) (text : List Char) : Option Binary64 := do
  let (whole, rest) := spanDigits text
  let (fraction, rest) :=
    match rest with
    | '.' :: rest => spanDigits rest
    | rest => ([], rest)
  if whole.isEmpty && fraction.isEmpty then none
  else
    let exponent ← readExponent? rest
    return ofDecimal negative (digitsValue (whole ++ fraction)) (exponent - fraction.length)

def readUnsigned? (negative : Bool) (text : List Char) : Option Binary64 :=
  let name := String.ofList (text.map Char.toLower)
  if name = "inf" ∨ name = "infinity" then some (.infinite negative)
  else if name = "nan" then some .nan
  else readDecimal? negative text

def read? : List Char → Option Binary64
  | '-' :: text => readUnsigned? true text
  | '+' :: text => readUnsigned? false text
  | text => readUnsigned? false text

end Binary64
end CustomerNotice
