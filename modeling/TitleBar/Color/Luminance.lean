/-! # Luminance in single precision

The luminance of a color is `0.299 r + 0.587 g + 0.114 b`, evaluated from left to right in single
precision. Every number in it is a multiple of 2⁻²⁷, so it is computed exactly on natural numbers
of that unit, and each operation rounds its result to 24 significant bits with ties to even.
-/

namespace TitleBar.Luminance

/-- The nearest number of 24 significant bits; of two nearest ones the even one. -/
def round24 (n : Nat) : Nat :=
  let unit := 1 <<< (n.log2 + 1 - 24)
  let quotient := n / unit
  let remainder := n % unit
  let up := unit < 2 * remainder || (2 * remainder == unit && quotient % 2 == 1)
  (if up then quotient + 1 else quotient) * unit

/-- The weight 0.299 of red, as the nearest single in units of 2⁻²⁷. -/
def redWeight : Nat := 40131100

/-- The weight 0.587 of green, as the nearest single in units of 2⁻²⁷. -/
def greenWeight : Nat := 78785808

/-- The weight 0.114 of blue, as the nearest single in units of 2⁻²⁷. -/
def blueWeight : Nat := 15300821

/-- The luminance in units of 2⁻²⁷. -/
def ofChannels (red green blue : Nat) : Nat :=
  round24 (round24 (round24 (redWeight * red) + round24 (greenWeight * green)) +
    round24 (blueWeight * blue))

/-- The luminance above which a color counts as bright: 128. -/
def threshold : Nat := 128 <<< 27

end TitleBar.Luminance
