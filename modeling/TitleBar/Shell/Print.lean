import TitleBar.Shell.Number
import TitleBar.Text.Utf8

/-! # Printing in the shell

The escapes and formats of `echo` and `printf`. Output is a list of bytes, since an octal escape may
stand for any byte.
-/

namespace TitleBar.Shell

open Text

def isOctal (c : Char) : Bool := '0' ≤ c && c ≤ '7'

def readOctal (count value : Nat) (text : List Char) : Nat × List Char :=
  match count, text with
  | count + 1, c :: rest =>
    if isOctal c then readOctal count (8 * value + (c.toNat - 48)) rest else (value, text)
  | _, _ => (value, text)

/-- The byte that a letter stands for behind a backslash. -/
def letterByte? : Char → Option UInt8
  | 'a' => some 7
  | 'b' => some 8
  | 'e' => some 27
  | 'f' => some 12
  | 'n' => some 10
  | 'r' => some 13
  | 't' => some 9
  | 'v' => some 11
  | '\\' => some 92
  | _ => none

/-- What an escape stands for, given what is behind the backslash, and the rest. When `leadingZero`
holds, a zero in front of three octal digits is not one of them. An unknown escape stands for the
backslash alone. -/
def readEscape (leadingZero : Bool) : List Char → List UInt8 × List Char
  | [] => ([92], [])
  | c :: rest =>
    match letterByte? c with
    | some byte => ([byte], rest)
    | none =>
      if leadingZero && c == '0' then
        let (value, rest) := readOctal 3 0 rest
        ([UInt8.ofNat value], rest)
      else if isOctal c then
        let (value, rest) := readOctal 3 0 (c :: rest)
        ([UInt8.ofNat value], rest)
      else ([92], c :: rest)

/-- The bytes of a text with escapes, at most `fuel` of them, and whether `\c` ends all output. -/
def unescapeWithin : Nat → List Char → List UInt8 × Bool
  | 0, _ => ([], false)
  | fuel + 1, text =>
    match text with
    | [] => ([], false)
    | '\\' :: 'c' :: _ => ([], true)
    | '\\' :: rest =>
      let (bytes, rest) := readEscape true rest
      let (more, ended) := unescapeWithin fuel rest
      (bytes ++ more, ended)
    | c :: rest =>
      let (more, ended) := unescapeWithin fuel rest
      (encode [c] ++ more, ended)

/-- The bytes of a text with escapes, and whether `\c` ends all output. -/
def unescape (text : List Char) : List UInt8 × Bool := unescapeWithin (text.length + 1) text

/-- What `echo` prints; `escapes` tells whether it knows escapes. -/
def echo (escapes newline : Bool) (arguments : List String) : List UInt8 :=
  let text := (String.intercalate " " arguments).toList
  let (bytes, ended) := if escapes then unescape text else (encode text, false)
  if newline && !ended then bytes ++ [10] else bytes

structure Place where
  conversion : Char
  /-- The least number of bytes; none is given by an argument. -/
  width : Option Nat
  /-- The number of digits or bytes, if any is given; that may be by an argument. -/
  precision : Option (Option Nat)
  flags : List Char
deriving DecidableEq, Repr

inductive FormatPart where
  | bytes (bytes : List UInt8)
  | place (place : Place)
  /-- A `%` that starts no place. -/
  | malformed
deriving DecidableEq, Repr

/-- The number that a text starts with, or none for a `*`, and the rest. -/
def readCount (text : List Char) : Option Nat × List Char :=
  match text with
  | '*' :: rest => (none, rest)
  | _ => (some (numeral 10 (text.takeWhile Char.isDigit)), text.dropWhile Char.isDigit)

def readPlace (text : List Char) : FormatPart × List Char :=
  let isFlag := fun c : Char => ['-', '+', ' ', '0', '#'].contains c
  let flags := text.takeWhile isFlag
  let (width, rest) := readCount (text.dropWhile isFlag)
  let (precision, rest) := match rest with
    | '.' :: rest =>
      let (count, rest) := readCount rest
      (some count, rest)
    | _ => (none, rest)
  match rest with
  | conversion :: rest => (.place ⟨conversion, width, precision, flags⟩, rest)
  | [] => (.malformed, [])

def formatPartsWithin : Nat → List Char → List FormatPart
  | 0, _ => []
  | fuel + 1, text =>
    match text with
    | [] => []
    | '%' :: '%' :: rest => .bytes [37] :: formatPartsWithin fuel rest
    | '%' :: rest =>
      let (part, rest) := readPlace rest
      part :: formatPartsWithin fuel rest
    | '\\' :: rest =>
      let (bytes, rest) := readEscape false rest
      .bytes bytes :: formatPartsWithin fuel rest
    | c :: rest => .bytes (encode [c]) :: formatPartsWithin fuel rest

def formatParts (format : List Char) : List FormatPart :=
  formatPartsWithin (format.length + 1) format

def FormatPart.takes : FormatPart → Bool
  | .place _ => true
  | .bytes _ | .malformed => false

/-- The integer that an argument of a format is, and whether it is one as a whole. A quote in front
of a character stands for its number. -/
def argumentNumber (argument : String) : Int × Bool :=
  match argument.toList with
  | '\'' :: c :: _ | '"' :: c :: _ => (((encode [c]).head?.getD 0).toNat, true)
  | text =>
    match integer? argument with
    | some n => (n, -0x8000000000000000 ≤ n && n < 0x10000000000000000)
    | none =>
      let digits := (text.takeWhile fun c => c.isDigit)
      (Int.ofNat (numeral 10 digits), false)

def digitsOf (base : Nat) (n : Nat) : List Char := Nat.toDigits base n

/-- Bytes in a field of some width. Zeros stand behind the sign. -/
def padTo (width : Nat) (left zeros : Bool) (bytes : List UInt8) : List UInt8 :=
  let count := width - bytes.length
  if left then bytes ++ List.replicate count 32
  else if !zeros then List.replicate count 32 ++ bytes
  else match bytes with
    | 45 :: digits => 45 :: (List.replicate count 48 ++ digits)
    | 43 :: digits => 43 :: (List.replicate count 48 ++ digits)
    | 48 :: 120 :: digits => 48 :: 120 :: (List.replicate count 48 ++ digits)
    | digits => List.replicate count 48 ++ digits

structure Converted where
  bytes : List UInt8
  /-- Whether zeros may fill the field. -/
  numeric : Bool
  /-- Whether the argument fits the conversion. -/
  well : Bool
  /-- Whether all output ends here. -/
  ended : Bool

/-- The digits of a number with zeros in front of them and a sign. -/
def numberBytes (precision? : Option Nat) (sign : List Char) (digits : List Char) : List UInt8 :=
  encode (sign ++ List.replicate (precision?.getD 0 - digits.length) '0' ++ digits)

/-- Prints an argument the way a place asks for; there are places that ask for nothing. -/
def Place.convert? (place : Place) (precision? : Option Nat) (argument : String) :
    Option Converted :=
  let (n, well) := argumentNumber argument
  let unsigned (base : Nat) (sign : List Char) : Converted :=
    let word := (n % 0x10000000000000000).toNat
    ⟨numberBytes precision? (if place.flags.contains '#' then sign else []) (digitsOf base word),
      precision?.isNone, well, false⟩
  match place.conversion with
  | 's' =>
    let bytes := encode argument.toList
    some ⟨(precision?.map bytes.take).getD bytes, false, true, false⟩
  | 'b' =>
    let (bytes, ended) := unescape argument.toList
    some ⟨bytes, false, true, ended⟩
  | 'c' => some ⟨[(encode argument.toList).headD 0], false, true, false⟩
  | 'd' | 'i' =>
    let n := min (max n (-0x8000000000000000)) 0x7fffffffffffffff
    let sign := if n < 0 then ['-'] else if place.flags.contains '+' then ['+']
      else if place.flags.contains ' ' then [' '] else []
    some ⟨numberBytes precision? sign (digitsOf 10 n.natAbs), precision?.isNone, well, false⟩
  | 'u' => some (unsigned 10 [])
  | 'o' => some (unsigned 8 ['0'])
  | 'x' => some (unsigned 16 ['0', 'x'])
  | 'X' =>
    let small := unsigned 16 ['0', 'x']
    some { small with bytes := small.bytes.map fun b => if 97 ≤ b ∧ b ≤ 122 then b - 32 else b }
  | letter =>
    (NumberStyle.ofLetter? letter).map fun style =>
      let (value, well) := argumentDouble argument
      let (negative, text) := style.text (precision?.getD 6) (place.flags.contains '#') value
      let sign := if negative then ['-'] else if place.flags.contains '+' then ['+']
        else if place.flags.contains ' ' then [' '] else []
      let text := if letter.isUpper then text.map Char.toUpper else text
      ⟨encode (sign ++ text), value.isFinite, well, false⟩

structure Printed where
  bytes : List UInt8
  /-- The arguments that are left. -/
  rest : List String
  /-- Zero if all went well, one if an argument was no number, and two if the format is none. -/
  status : Nat
  ended : Bool

def printParts : List FormatPart → List String → Printed
  | [], arguments => ⟨[], arguments, 0, false⟩
  | .bytes bytes :: parts, arguments =>
    let more := printParts parts arguments
    { more with bytes := bytes ++ more.bytes }
  | .malformed :: _, arguments => ⟨[], arguments, 2, true⟩
  | .place place :: parts, arguments =>
    let (width, arguments) := match place.width with
      | some width => ((width : Int), arguments)
      | none => ((argumentNumber (arguments.headD "")).1, arguments.tail)
    let (precision?, arguments) := match place.precision with
      | none => (none, arguments)
      | some (some count) => (some count, arguments)
      | some none => (some (argumentNumber (arguments.headD "")).1.toNat, arguments.tail)
    match place.convert? precision? (arguments.headD "") with
    | none => ⟨[], [], 2, true⟩
    | some converted =>
      let bytes := padTo width.natAbs (place.flags.contains '-' || width < 0)
        (place.flags.contains '0' && converted.numeric) converted.bytes
      if converted.ended then ⟨bytes, [], 0, true⟩
      else
        let more := printParts parts arguments.tail
        { more with
          bytes := bytes ++ more.bytes
          status := max more.status (if converted.well then 0 else 1) }

/-- Prints a format again and again, at most `fuel` times, as long as arguments are left; gives the
status, too. -/
def printWithin (parts : List FormatPart) : Nat → List String → List UInt8 × Nat
  | 0, _ => ([], 0)
  | fuel + 1, arguments =>
    let printed := printParts parts arguments
    if printed.rest.isEmpty || printed.ended || !parts.any FormatPart.takes then
      (printed.bytes, printed.status)
    else
      let (more, status) := printWithin parts fuel printed.rest
      (printed.bytes ++ more, max printed.status status)

def printFormat (format : String) (arguments : List String) : List UInt8 × Nat :=
  printWithin (formatParts format.toList) (arguments.length + 1) arguments

end TitleBar.Shell
