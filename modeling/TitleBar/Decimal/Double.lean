/-! # Double precision

Numbers with 53 significant bits, and the nearest one to a decimal. A finite number is kept as
`mantissa · 2^exponent`, computed exactly on natural numbers.
-/

namespace TitleBar.Decimal

/-- A floating-point number of double precision. -/
inductive Double where
  | nan
  | infinite (negative : Bool)
  /-- `mantissa · 2^exponent`; the mantissa is below 2⁵³, and is at least 2⁵² unless the exponent is
  the least one. -/
  | finite (negative : Bool) (mantissa : Nat) (exponent : Int)
deriving DecidableEq, Repr

namespace Double

/-- Whether a number is neither infinite nor undefined. -/
def isFinite : Double → Bool
  | .finite _ _ _ => true
  | .nan | .infinite _ => false

def minExponent : Int := -1074

def maxExponent : Int := 971

/-- A natural number times a power of ten, as a quotient. -/
def scaleTen (digits : Nat) (exponent : Int) : Nat × Nat :=
  if 0 ≤ exponent then (digits * Nat.pow 10 exponent.toNat, 1)
  else (digits, Nat.pow 10 (-exponent).toNat)

/-- A quotient divided by a power of two. -/
def unscaleTwo (num den : Nat) (exponent : Int) : Nat × Nat :=
  if 0 ≤ exponent then (num, den <<< exponent.toNat) else (num <<< (-exponent).toNat, den)

/-- The nearest natural number to a quotient; of two nearest ones the even one. -/
def roundEven (num den : Nat) : Nat :=
  let quotient := num / den
  let remainder := num % den
  if den < 2 * remainder || (2 * remainder == den && quotient % 2 == 1) then quotient + 1
  else quotient

/-- The nearest number to a quotient that is not zero; `none` if that is too large. -/
def ofQuotient? (negative : Bool) (num den : Nat) : Option Double :=
  let estimate : Int := (num.log2 : Int) - (den.log2 : Int) - 52
  let (n, d) := unscaleTwo num den estimate
  let fitted := max minExponent (if n / d < 1 <<< 52 then estimate - 1 else estimate)
  let (n, d) := unscaleTwo num den fitted
  let mantissa := roundEven n d
  let (mantissa, exponent) :=
    if mantissa = 1 <<< 53 then (1 <<< 52, fitted + 1) else (mantissa, fitted)
  if exponent ≤ maxExponent then some (.finite negative mantissa exponent) else none

/-- The nearest number to `digits · 10^exponent`; `none` if that is too large. Exponents beyond any
that matter are decided without computing the power. -/
def ofDecimal? (negative : Bool) (digits : Nat) (exponent : Int) : Option Double :=
  if digits = 0 then some (.finite negative 0 minExponent)
  else
    let size : Int := (Nat.toDigits 10 digits).length + exponent
    if size < -400 then some (.finite negative 0 minExponent)
    else if 400 < size then none
    else
      let (num, den) := scaleTen digits exponent
      ofQuotient? negative num den

end Double

end TitleBar.Decimal
