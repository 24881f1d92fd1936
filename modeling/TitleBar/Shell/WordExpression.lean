import TitleBar.Shell.Effect
import TitleBar.Shell.Regex.Reader

/-! # Expressions of words

The expressions that a utility evaluates whose every argument is an operand or an operator. All
values are texts; those that are numbers in decimal digits may be calculated with.
-/

namespace TitleBar.Shell.WordExpression

/-- Why an expression has no value. -/
inductive Fault where
  /-- Something is missing or left over. -/
  | malformed
  /-- An operand is no number. -/
  | notNumber
  | divisionByZero
  /-- A regular expression cannot be read. -/
  | badRegex
deriving DecidableEq, Repr

/-- What comes of an operand, and the words behind it. -/
abbrev Reading := Except Fault (String × List String)

def integer? (text : String) : Option Int :=
  let (negative, digits) := match text.toList with
    | '-' :: digits => (true, digits)
    | digits => (false, digits)
  if digits.isEmpty || !digits.all Char.isDigit then none
  else
    let n : Int := digits.foldl (fun n c => 10 * n + (c.toNat - 48 : Nat)) 0
    some (if negative then -n else n)

/-- Whether a value counts as false: the empty text, and zero. -/
def isNull (text : String) : Bool := text.isEmpty || integer? text == some 0

def ofBool (holds : Bool) : String := if holds then "1" else "0"

/-- Compares two values: as numbers if both are, and else byte by byte. -/
def compare (a b : String) : Ordering :=
  match integer? a, integer? b with
  | some n, some m => Ord.compare n m
  | _, _ =>
    let (x, y) := (Text.encode a.toList, Text.encode b.toList)
    if x = y then .eq else if x < y then .lt else .gt

/-- The operators that bind equally, from the weakest ones to the strongest ones. -/
def levels : List (List String) := [
  ["|"], ["&"], ["<", "<=", "=", "==", "!=", ">=", ">"], ["+", "-"], ["*", "/", "%"], [":"]]

/-- The texts of the first group of a regular expression, or how many bytes match; the match starts
where the text starts. -/
def matchAtStart (text pattern : String) : Except Fault String :=
  match Regex.ofText? false (Regex.byteChars (Text.encode pattern.toList)) with
  | none => .error .badRegex
  | some regex =>
    let found? := regex.longest? false (Cursor.start (Regex.byteChars (Text.encode text.toList)))
    if regex.hasGroup then
      let group := (found?.bind fun found => found.groups.lookup 1).getD []
      .ok (String.ofList ((Text.decode (Regex.charBytes group)).toOption.getD []))
    else .ok (toString ((found?.map Cursor.index).getD 0))

/-- The value of an operator between two values. -/
def apply (operator a b : String) : Except Fault String :=
  let compared (test : Ordering → Bool) : Except Fault String := .ok (ofBool (test (compare a b)))
  let calculated (f : Int → Int → Except Fault Int) : Except Fault String :=
    match integer? a, integer? b with
    | some n, some m => (f n m).map toString
    | _, _ => .error .notNumber
  match operator with
  | "|" => .ok (if !isNull a then a else if isNull b then "0" else b)
  | "&" => .ok (if isNull a || isNull b then "0" else a)
  | "<" => compared (· == .lt)
  | "<=" => compared (· != .gt)
  | "=" | "==" => compared (· == .eq)
  | "!=" => compared (· != .eq)
  | ">=" => compared (· != .lt)
  | ">" => compared (· == .gt)
  | "+" => calculated fun n m => .ok (n + m)
  | "-" => calculated fun n m => .ok (n - m)
  | "*" => calculated fun n m => .ok (n * m)
  | "/" => calculated fun n m => if m = 0 then .error .divisionByZero else .ok (n.tdiv m)
  | "%" => calculated fun n m => if m = 0 then .error .divisionByZero else .ok (n.tmod m)
  | ":" => matchAtStart a b
  | _ => .error .malformed

/-- The part of a text from a place on, of a length; the empty text if these are no numbers of places
that there are. -/
def part (text place length : String) : String :=
  match integer? place, integer? length with
  | some p, some n =>
    if 0 < p ∧ 0 < n then String.ofList ((text.toList.drop (p.toNat - 1)).take n.toNat) else ""
  | _, _ => ""

/-- The first place in a text of one of some characters, counted from one. -/
def placeOf (text chars : String) : Nat :=
  match text.toList.findIdx? fun c => chars.toList.contains c with
  | some i => i + 1
  | none => 0

mutual
/-- Reads operands with the operators of some levels between them, with at most `fuel` levels below
them. -/
def readLevel : Nat → List (List String) → List String → Reading
  | 0, _, _ => .error .malformed
  | fuel + 1, levels, words =>
    match levels with
    | [] => readOperand fuel words
    | operators :: stronger => do
      let (first, rest) ← readLevel fuel stronger words
      readFurther fuel operators stronger first rest

def readFurther : Nat → List String → List (List String) → String → List String → Reading
  | 0, _, _, _, _ => .error .malformed
  | fuel + 1, operators, stronger, first, words =>
    match words with
    | operator :: rest =>
      if operators.contains operator then do
        let (second, rest) ← readLevel fuel stronger rest
        readFurther fuel operators stronger (← apply operator first second) rest
      else .ok (first, words)
    | [] => .ok (first, [])

def readOperand : Nat → List String → Reading
  | 0, _ => .error .malformed
  | fuel + 1, words =>
    match words with
    | [] => .error .malformed
    | "(" :: rest => do
      let (value, rest) ← readLevel fuel levels rest
      match rest with
      | ")" :: rest => return (value, rest)
      | _ => throw .malformed
    | ")" :: _ => .error .malformed
    | ["+"] => .error .malformed
    | "+" :: word :: rest => .ok (word, rest)
    | "length" :: rest@(_ :: _) => do
      let (text, rest) ← readOperand fuel rest
      return (toString (Text.encode text.toList).length, rest)
    | "match" :: rest@(_ :: _) => do
      let (text, rest) ← readOperand fuel rest
      let (pattern, rest) ← readOperand fuel rest
      return (← matchAtStart text pattern, rest)
    | "index" :: rest@(_ :: _) => do
      let (text, rest) ← readOperand fuel rest
      let (chars, rest) ← readOperand fuel rest
      return (toString (placeOf text chars), rest)
    | "substr" :: rest@(_ :: _) => do
      let (text, rest) ← readOperand fuel rest
      let (place, rest) ← readOperand fuel rest
      let (length, rest) ← readOperand fuel rest
      return (part text place length, rest)
    | word :: rest => .ok (word, rest)
end

def evaluate (words : List String) : Except Fault String := do
  let (value, rest) ← readLevel (10 * words.length + 10) levels words
  if rest.isEmpty then return value else throw .malformed

end TitleBar.Shell.WordExpression
