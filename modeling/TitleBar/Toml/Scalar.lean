import TitleBar.Text.Blank
import TitleBar.Toml

/-! # TOML numbers, dates and booleans

The values that are written without quotes: each is a run of characters that is read as a whole.
Integers have 64 bits, and floats are doubles; there is no value for a number beyond them.
-/

namespace TitleBar.Toml

open Text

def digit? (base : Nat) (c : Char) : Option Nat :=
  let value? :=
    if '0' ≤ c ∧ c ≤ '9' then some (c.toNat - 48)
    else if 'a' ≤ c ∧ c ≤ 'f' then some (c.toNat - 87)
    else if 'A' ≤ c ∧ c ≤ 'F' then some (c.toNat - 55)
    else none
  value?.filter (· < base)

/-- Reads digits, between which single underscores may stand. -/
def digits? (base : Nat) (text : List Char) : Option (List Nat) :=
  let group? (group : List Char) : Option (List Nat) :=
    if group.isEmpty then none else group.mapM (digit? base)
  ((splitAt (· == '_') text).mapM group?).map List.flatten

def ofDigits (base : Nat) (digits : List Nat) : Nat := digits.foldl (fun n d => n * base + d) 0

/-- Reads a number in decimal notation, which starts with a zero only if it is zero. -/
def decimal? (text : List Char) : Option Nat := do
  let digits ← digits? 10 text
  match digits with
  | 0 :: _ :: _ => none
  | _ => return ofDigits 10 digits

def splitSign : List Char → Bool × List Char
  | '-' :: rest => (true, rest)
  | '+' :: rest => (false, rest)
  | text => (false, text)

def signed (negative : Bool) (n : Nat) : Int := if negative then -n else n

/-- Reads an integer of any size. -/
def unboundedInteger? (text : List Char) : Option Int :=
  match text with
  | '0' :: 'x' :: rest => (digits? 16 rest).map fun digits => (ofDigits 16 digits : Int)
  | '0' :: 'o' :: rest => (digits? 8 rest).map fun digits => (ofDigits 8 digits : Int)
  | '0' :: 'b' :: rest => (digits? 2 rest).map fun digits => (ofDigits 2 digits : Int)
  | _ =>
    let (negative, rest) := splitSign text
    (decimal? rest).map (signed negative)

def fitsInteger (n : Int) : Bool := -0x8000000000000000 ≤ n && n < 0x8000000000000000

def integer? (text : List Char) : Option Int := (unboundedInteger? text).filter fitsInteger

/-- Reads the exponent of a float, which may start with zeros. -/
def exponent? (text : List Char) : Option Int :=
  let (negative, rest) := splitSign text
  (digits? 10 rest).map fun digits => signed negative (ofDigits 10 digits)

def decimalFloat? (text : List Char) : Option Decimal.Double := do
  let (negative, rest) := splitSign text
  let isMark := fun c => c == 'e' || c == 'E'
  let mantissa := rest.takeWhile fun c => !isMark c
  let exponent ← match rest.dropWhile fun c => !isMark c with
    | [] => some 0
    | _ :: after => exponent? after
  let whole := mantissa.takeWhile (· != '.')
  let fraction ← match mantissa.dropWhile (· != '.') with
    | [] => if whole.length = rest.length then none else some []
    | _ :: after => digits? 10 after
  let units ← decimal? whole
  Decimal.Double.ofDecimal? negative (ofDigits 10 fraction + units * Nat.pow 10 fraction.length)
    (exponent - fraction.length)

def float? (text : List Char) : Option Decimal.Double :=
  let (negative, rest) := splitSign text
  if rest = ['i', 'n', 'f'] then some (.infinite negative)
  else if rest = ['n', 'a', 'n'] then some .nan
  else decimalFloat? text

def pair? (a b : Char) : Option Nat := do return 10 * (← digit? 10 a) + (← digit? 10 b)

def daysOf (year month : Nat) : Nat :=
  if month = 2 then
    if year % 4 = 0 ∧ (year % 100 ≠ 0 ∨ year % 400 = 0) then 29 else 28
  else if month ∈ [4, 6, 9, 11] then 30
  else 31

/-- What follows the date that a text starts with. -/
def date? : List Char → Option (List Char)
  | y₁ :: y₂ :: y₃ :: y₄ :: '-' :: m₁ :: m₂ :: '-' :: d₁ :: d₂ :: rest => do
    let year := 100 * (← pair? y₁ y₂) + (← pair? y₃ y₄)
    let month ← pair? m₁ m₂
    let day ← pair? d₁ d₂
    if 1 ≤ month ∧ month ≤ 12 ∧ 1 ≤ day ∧ day ≤ daysOf year month then some rest else none
  | _ => none

/-- What follows the seconds of a time of day, which may have a fraction. -/
def seconds? : List Char → Option (List Char)
  | s₁ :: s₂ :: rest => do
    if (← pair? s₁ s₂) ≤ 60 then
      match rest with
      | '.' :: c :: after => if c.isDigit then some (after.dropWhile Char.isDigit) else none
      | _ => some rest
    else none
  | _ => none

/-- What follows the time of day that a text starts with. It need not have seconds. -/
def time? : List Char → Option (List Char)
  | h₁ :: h₂ :: ':' :: m₁ :: m₂ :: rest => do
    let hour ← pair? h₁ h₂
    let minute ← pair? m₁ m₂
    if hour ≤ 23 ∧ minute ≤ 59 then
      match rest with
      | ':' :: seconds => seconds? seconds
      | _ => some rest
    else none
  | _ => none

/-- Whether a text is an offset from universal time. -/
def isOffset : List Char → Bool
  | ['Z'] | ['z'] => true
  | [sign, h₁, h₂, ':', m₁, m₂] =>
    (sign == '+' || sign == '-') &&
      match pair? h₁ h₂, pair? m₁ m₂ with
      | some hour, some minute => hour ≤ 23 && minute ≤ 59
      | _, _ => false
  | _ => false

/-- Whether a text is a date, a time of day, or a date with a time of day. -/
def isDatetime (text : List Char) : Bool :=
  match date? text with
  | some [] => true
  | some (mark :: rest) =>
    (mark == 'T' || mark == 't' || mark == ' ') &&
      match time? rest with
      | some after => after.isEmpty || isOffset after
      | none => false
  | none => time? text == some []

/-- Reads a value that is written without quotes. -/
def scalar? (text : List Char) : Option Toml :=
  if text = "true".toList then some (.boolean true)
  else if text = "false".toList then some (.boolean false)
  else if isDatetime text then some .datetime
  else ((integer? text).map .integer).or ((float? text).map .float)

/-- The characters of a value that is written without quotes. -/
def isScalarChar (c : Char) : Bool :=
  c.isAlphanum || c == '+' || c == '-' || c == '_' || c == '.' || c == ':'

/-- Splits such a value off a text. A blank belongs to it between a date and a time of day. -/
def splitScalar (text : List Char) : List Char × List Char :=
  let first := text.takeWhile isScalarChar
  match date? first, text.dropWhile isScalarChar with
  | some [], ' ' :: c :: rest =>
    if c.isDigit then
      (first ++ ' ' :: (c :: rest).takeWhile isScalarChar, (c :: rest).dropWhile isScalarChar)
    else (first, ' ' :: c :: rest)
  | _, rest => (first, rest)

end TitleBar.Toml
