import TitleBar.Color.Luminance
import TitleBar.Text.Blank

/-! # Colors

A color is written `#rgb`, `#rrggbb`, `#rrggbbaa` or by name, and is always shown as `#rrggbbaa` in
lower case. Names are compared without regard to ASCII case.
-/

namespace TitleBar

open Text

/-- A color with its opacity; 255 is opaque. -/
structure Color where
  red : UInt8
  green : UInt8
  blue : UInt8
  alpha : UInt8
deriving DecidableEq, Repr, Inhabited

namespace Color

/-- An opaque color. -/
def rgb (red green blue : UInt8) : Color := ⟨red, green, blue, 255⟩

def black : Color := rgb 0 0 0

def white : Color := rgb 255 255 255

def named : List (String × Color) := [
  ("black", black),
  ("white", white),
  ("red", rgb 255 0 0),
  ("green", rgb 0 128 0),
  ("lime", rgb 0 255 0),
  ("blue", rgb 0 0 255),
  ("yellow", rgb 255 255 0),
  ("orange", rgb 255 165 0),
  ("purple", rgb 128 0 128),
  ("magenta", rgb 255 0 255),
  ("cyan", rgb 0 255 255),
  ("teal", rgb 0 128 128),
  ("navy", rgb 0 0 128),
  ("maroon", rgb 128 0 0),
  ("olive", rgb 128 128 0),
  ("gray", rgb 128 128 128),
  ("grey", rgb 128 128 128),
  ("silver", rgb 192 192 192),
  ("darkred", rgb 139 0 0),
  ("darkgreen", rgb 0 100 0),
  ("darkblue", rgb 0 0 139),
  ("darkorange", rgb 255 140 0),
  ("crimson", rgb 220 20 60),
  ("gold", rgb 255 215 0),
  ("transparent", ⟨0, 0, 0, 0⟩)]

/-- A text that is no color; `text` is the trimmed text. -/
structure Unrecognized where
  text : String
deriving DecidableEq, Repr

def Unrecognized.message (error : Unrecognized) : String :=
  "'" ++ error.text ++ "' is not a known color name or a #rgb, #rrggbb or #rrggbbaa value."

/-- The value of a hexadecimal digit of either case. -/
def hexValue? (c : Char) : Option Nat :=
  if '0' ≤ c ∧ c ≤ '9' then some (c.toNat - '0'.toNat)
  else if 'a' ≤ c ∧ c ≤ 'f' then some (c.toNat - 'a'.toNat + 10)
  else if 'A' ≤ c ∧ c ≤ 'F' then some (c.toNat - 'A'.toNat + 10)
  else none

/-- The channel that two digits write. -/
def channel (high low : Nat) : UInt8 := UInt8.ofNat (16 * high + low)

/-- The color that digits write: three digits stand for themselves doubled, and a missing opacity
is full. -/
def ofDigits? : List Nat → Option Color
  | [r, g, b] => some ⟨channel r r, channel g g, channel b b, 255⟩
  | [r, r', g, g', b, b'] => some ⟨channel r r', channel g g', channel b b', 255⟩
  | [r, r', g, g', b, b', a, a'] =>
    some ⟨channel r r', channel g g', channel b b', channel a a'⟩
  | _ => none

/-- A letter of ASCII in lower case, any other character as it is. -/
def asciiLower (c : Char) : Char :=
  if 'A' ≤ c ∧ c ≤ 'Z' then Char.ofNat (c.toNat + 32) else c

def ofTrimmed? : List Char → Option Color
  | '#' :: digits => (digits.mapM hexValue?).bind ofDigits?
  | name => named.lookup (String.ofList (name.map asciiLower))

def ofString? (text : String) : Except Unrecognized Color :=
  let trimmed := trim text.toList
  match ofTrimmed? trimmed with
  | some color => .ok color
  | none => .error ⟨String.ofList trimmed⟩

/-- The lower-case hexadecimal digit of a number below 16. -/
def hexDigit (n : Nat) : Char :=
  if n < 10 then Char.ofNat ('0'.toNat + n) else Char.ofNat ('a'.toNat + (n - 10))

def channelDigits (value : UInt8) : List Char :=
  [hexDigit (value.toNat / 16), hexDigit (value.toNat % 16)]

/-- Writes a color as `#rrggbbaa`. -/
def toString (color : Color) : String :=
  String.ofList ('#' :: (channelDigits color.red ++ channelDigits color.green ++
    channelDigits color.blue ++ channelDigits color.alpha))

instance : ToString Color := ⟨toString⟩

/-- Black on a bright color and white on any other; opacity does not count. -/
def contrastingText (color : Color) : Color :=
  let luminance :=
    Luminance.ofChannels color.red.toNat color.green.toNat color.blue.toNat
  if Luminance.threshold < luminance then black else white

end Color

end TitleBar
