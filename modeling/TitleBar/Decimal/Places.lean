import TitleBar.Decimal.Double

/-! # Decimals with a number of places

The nearest decimal to a number that has a given number of places, or of digits; of two nearest ones
that with the even last digit. Both are computed exactly.
-/

namespace TitleBar.Decimal

def quotient (mantissa : Nat) (exponent : Int) : Nat × Nat :=
  if 0 ≤ exponent then (mantissa <<< exponent.toNat, 1) else (mantissa, 1 <<< (-exponent).toNat)

/-- The digits of a number with a point in front of the last ones, if there are any. -/
def withPoint (places : Nat) (count : Nat) : List Char :=
  let digits := Nat.toDigits 10 count
  let padded := List.replicate (places + 1 - digits.length) '0' ++ digits
  let whole := padded.take (padded.length - places)
  if places = 0 then whole else whole ++ '.' :: padded.drop (padded.length - places)

/-- A quotient with a number of places. -/
def fixed (places : Nat) (num den : Nat) : List Char :=
  withPoint places (Double.roundEven (num * Nat.pow 10 places) den)

/-- The quotient `num / den` divided by a power of ten, rounded. -/
def roundedAt (num den : Nat) (exponent : Int) : Nat :=
  if 0 ≤ exponent then Double.roundEven num (den * Nat.pow 10 exponent.toNat)
  else Double.roundEven (num * Nat.pow 10 (-exponent).toNat) den

/-- The exponent of the first digit of a quotient that is not zero. -/
def leadingExponent (num den : Nat) : Int :=
  let estimate : Int := (Nat.toDigits 10 num).length - (Nat.toDigits 10 den).length
  let reaches := if 0 ≤ estimate then den * Nat.pow 10 estimate.toNat ≤ num
    else den ≤ num * Nat.pow 10 (-estimate).toNat
  if reaches then estimate else estimate - 1

/-- The digits of a quotient, one more than `places`, and the exponent of the first one. -/
def scientificParts (places : Nat) (num den : Nat) : Nat × Int :=
  if num = 0 then (0, 0)
  else
    let exponent := leadingExponent num den
    let count := roundedAt num den (exponent - places)
    if count = Nat.pow 10 (places + 1) then (Nat.pow 10 places, exponent + 1) else (count, exponent)

/-- An exponent behind its letter, with a sign and at least two digits. -/
def exponentText (exponent : Int) : List Char :=
  let digits := Nat.toDigits 10 exponent.natAbs
  'e' :: (if exponent < 0 then '-' else '+') :: List.replicate (2 - digits.length) '0' ++ digits

/-- A quotient with one digit in front of the point and an exponent. -/
def scientific (places : Nat) (num den : Nat) : List Char :=
  let (count, exponent) := scientificParts places num den
  withPoint places count ++ exponentText exponent

/-- A text of digits without zeros at its end, if it has a point. -/
def withoutZeros (text : List Char) : List Char :=
  if text.contains '.' then
    let rest := (text.reverse.dropWhile (· == '0')).reverse
    if rest.getLast? = some '.' then rest.dropLast else rest
  else text

/-- A quotient with a number of digits, with an exponent only if that is small or large. Zeros at the
end are kept when `keep` holds. -/
def general (keep : Bool) (digits : Nat) (num den : Nat) : List Char :=
  let digits := max 1 digits
  let short := if keep then id else withoutZeros
  let (count, exponent) := scientificParts (digits - 1) num den
  if -4 ≤ exponent ∧ exponent < digits then
    short (fixed (digits - 1 - exponent).toNat num den)
  else short (withPoint (digits - 1) count) ++ exponentText exponent

end TitleBar.Decimal
