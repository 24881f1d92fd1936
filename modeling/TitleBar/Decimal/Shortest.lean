import TitleBar.Decimal.Double

/-! # The shortest decimal that reads back

Of the decimals whose nearest double is a given one, the decimal with the fewest digits, and of
those the nearest. The decimals that read back are those between the midpoints to the neighbours;
the midpoints belong to them when the mantissa is even. A grid of decimals meets that interval only
if one of the two grid points around the number itself lies in it.
-/

namespace TitleBar.Decimal

/-- An interval around a number, all in units of `1 / den`. -/
structure Reach where
  low : Nat
  value : Nat
  high : Nat
  den : Nat
  closed : Bool

namespace Reach

/-- The interval of what reads back as `mantissa · 2^exponent`. Below a power of two the neighbour
is half as far away. -/
def ofFinite (mantissa : Nat) (exponent : Int) : Reach :=
  let unit := if 0 ≤ exponent then 1 <<< exponent.toNat else 1
  let den := if 0 ≤ exponent then 4 else 4 <<< (-exponent).toNat
  let below := if mantissa = 1 <<< 52 ∧ exponent ≠ Double.minExponent then 1 else 2
  { low := (4 * mantissa - below) * unit
    value := 4 * mantissa * unit
    high := (4 * mantissa + 2) * unit
    den
    closed := mantissa % 2 == 0 }

/-- A grid point `count · 10^exponent` in units that are common to it and the interval, together
with the factor by which the interval has to be multiplied. -/
def grid (reach : Reach) (exponent : Int) : Nat × Nat :=
  if 0 ≤ exponent then (Nat.pow 10 exponent.toNat * reach.den, 1)
  else (reach.den, Nat.pow 10 (-exponent).toNat)

def contains (reach : Reach) (exponent : Int) (count : Nat) : Bool :=
  let (step, factor) := reach.grid exponent
  if reach.closed then reach.low * factor ≤ count * step && count * step ≤ reach.high * factor
  else reach.low * factor < count * step && count * step < reach.high * factor

/-- The grid point in the interval that is nearest to the number; of two that are equally near, the
upper one. -/
def nearest? (reach : Reach) (exponent : Int) : Option Nat :=
  let (step, factor) := reach.grid exponent
  let value := reach.value * factor
  let count := value / step
  let above := count + 1
  match reach.contains exponent count, reach.contains exponent above with
  | false, false => none
  | true, false => some count
  | false, true => some above
  | true, true => if value - count * step < above * step - value then some count else some above

/-- The first of `fuel` grids, each ten times finer than the one before it, that meets the
interval. -/
def search (reach : Reach) : Nat → Int → Nat × Int
  | 0, exponent => (0, exponent)
  | fuel + 1, exponent =>
    match reach.nearest? exponent with
    | some count => (count, exponent)
    | none => search reach fuel (exponent - 1)

end Reach

/-- A decimal in positional notation, with at least one digit after the point. -/
def positional (digits : List Char) (exponent : Int) : List Char :=
  if 0 ≤ exponent then digits ++ List.replicate exponent.toNat '0' ++ ['.', '0']
  else
    let places := (-exponent).toNat
    let padded := List.replicate (places + 1 - digits.length) '0' ++ digits
    padded.take (padded.length - places) ++ '.' :: padded.drop (padded.length - places)

/-- The text of a number: its shortest decimal, never with an exponent. -/
def Double.text : Double → String
  | .nan => "NaN"
  | .infinite negative => if negative then "-inf" else "inf"
  | .finite negative mantissa exponent =>
    let sign := if negative then "-" else ""
    if mantissa = 0 then sign ++ "0.0"
    else
      let (count, place) := (Reach.ofFinite mantissa exponent).search 1500 310
      sign ++ String.ofList (positional (Nat.toDigits 10 count) place)

end TitleBar.Decimal
