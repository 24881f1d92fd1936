import TitleBar.Decimal.Places
import TitleBar.Shell.Arithmetic
import TitleBar.Text.Utf8

/-! # Numbers with places

The numbers that arguments of formats are, and the ways in which they are printed.
-/

namespace TitleBar.Shell

open Decimal

/-- The number that a text of digits starts with, the digits behind its point, and the rest. Nothing
comes of a text without digits. -/
def readDigits? (isDigit : Char → Bool) (text : List Char) :
    Option (List Char × List Char × List Char) :=
  let whole := text.takeWhile isDigit
  match text.drop whole.length with
  | '.' :: rest =>
    let places := rest.takeWhile isDigit
    if whole.isEmpty && places.isEmpty then none
    else some (whole, places, rest.drop places.length)
  | rest => if whole.isEmpty then none else some (whole, [], rest)

/-- The exponent that a text starts with behind one of some letters, and the rest. -/
def readExponent (letters : List Char) (text : List Char) : Int × List Char :=
  match text with
  | letter :: rest =>
    let (negative, digits) := match rest with
      | '-' :: digits => (true, digits)
      | '+' :: digits => (false, digits)
      | digits => (false, digits)
    let found := digits.takeWhile Char.isDigit
    if letters.contains letter && !found.isEmpty then
      let value : Int := numeral 10 found
      (if negative then -value else value, digits.drop found.length)
    else (0, text)
  | [] => (0, [])

/-- The number without a sign that a text starts with, and the rest; `none` stands for one that is
too large. -/
def readMagnitude? (negative : Bool) (text : List Char) : Option (Option Double × List Char) :=
  let word (name : String) : Option (List Char) :=
    Text.strip? name.toList (text.map Char.toLower) |>.map fun rest =>
      text.drop (text.length - rest.length)
  match word "infinity" <|> word "inf", word "nan" with
  | some rest, _ => some (some (.infinite negative), rest)
  | _, some rest => some (some .nan, rest)
  | none, none =>
    let isHexadecimal : Bool := match text with
      | '0' :: x :: c :: _ => (x == 'x' || x == 'X') && (digit? c).any (· < 16)
      | _ => false
    if isHexadecimal then do
      let (whole, places, rest) ← readDigits? (fun c => (digit? c).any (· < 16)) (text.drop 2)
      let (exponent, rest) := readExponent ['p', 'P'] rest
      let n := numeral 16 (whole ++ places)
      let scale : Int := exponent - 4 * places.length
      if n = 0 then return (some (.finite negative 0 Double.minExponent), rest)
      if scale < -5000 then return (some (.finite negative 0 Double.minExponent), rest)
      if 5000 < scale then return (none, rest)
      let (num, den) := quotient n scale
      return (Double.ofQuotient? negative num den, rest)
    else do
      let (whole, places, rest) ← readDigits? Char.isDigit text
      let (exponent, rest) := readExponent ['e', 'E'] rest
      return (Double.ofDecimal? negative (numeral 10 (whole ++ places))
        (exponent - places.length), rest)

/-- The number that an argument is, and whether it is one as a whole. -/
def argumentDouble (argument : String) : Double × Bool :=
  let zero : Double := .finite false 0 Double.minExponent
  match argument.toList with
  | '\'' :: c :: _ | '"' :: c :: _ =>
    let code := ((Text.encode [c]).head?.getD 0).toNat
    ((Double.ofDecimal? false code 0).getD zero, true)
  | [] => (zero, true)
  | text =>
    let (negative, magnitude) := match Text.trimStart text with
      | '-' :: rest => (true, rest)
      | '+' :: rest => (false, rest)
      | rest => (false, rest)
    match readMagnitude? negative magnitude with
    | none => (zero, false)
    | some (some value, rest) => (value, rest.isEmpty)
    | some (none, _) => (.infinite negative, false)

inductive NumberStyle where
  | fixed
  | scientific
  | general
deriving DecidableEq, Repr

def NumberStyle.ofLetter? (letter : Char) : Option NumberStyle :=
  match letter.toLower with
  | 'f' => some .fixed
  | 'e' => some .scientific
  | 'g' => some .general
  | _ => none

/-- The text of a finite number without its sign. -/
def NumberStyle.digits (style : NumberStyle) (precision : Nat) (alternate : Bool)
    (num den : Nat) : List Char :=
  match style with
  | .fixed =>
    Decimal.fixed precision num den ++ if alternate && precision = 0 then ['.'] else []
  | .scientific => Decimal.scientific precision num den
  | .general => Decimal.general alternate precision num den

/-- The text of a number: its sign, and what is behind that. -/
def NumberStyle.text (style : NumberStyle) (precision : Nat) (alternate : Bool) :
    Double → Bool × List Char
  | .nan => (false, ['n', 'a', 'n'])
  | .infinite negative => (negative, ['i', 'n', 'f'])
  | .finite negative mantissa exponent =>
    let (num, den) := quotient mantissa exponent
    (negative, style.digits precision alternate num den)

end TitleBar.Shell
