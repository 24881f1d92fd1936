import TitleBar.Shell.Pattern
import TitleBar.Shell.Regex

/-! # Reading regular expressions

Regular expressions are written in one of two ways. In basic ones the signs of groups, choices and
counts follow a backslash; in extended ones those signs stand alone, and a backslash takes their
meaning away.
-/

namespace TitleBar.Shell

inductive RegexToken where
  /-- Something that matches on its own. -/
  | part (regex : Regex)
  | opens
  | closes
  | or
  /-- How often what stands before it may match. -/
  | count (least : Nat) (most : Option Nat)

namespace RegexToken

/-- The counts between braces, such as `2,3`, up to the closing sign, and what is behind it. -/
def readCounts? (closing : List Char) (text : List Char) :
    Option (RegexToken × List Char) := do
  let least := text.takeWhile Char.isDigit
  let rest := text.drop least.length
  match Text.strip? closing rest with
  | some rest =>
    if least.isEmpty then none
    else
      let n := least.foldl (fun n c => 10 * n + (c.toNat - 48)) 0
      return (.count n (some n), rest)
  | none => do
    let ',' :: rest := rest | none
    let most := rest.takeWhile Char.isDigit
    let rest ← Text.strip? closing (rest.drop most.length)
    let value := fun digits : List Char => digits.foldl (fun n c => 10 * n + (c.toNat - 48)) 0
    return (.count (value least) (if most.isEmpty then none else some (value most)), rest)

/-- What a letter behind a backslash stands for in both ways of writing. -/
def ofLetter? (c : Char) : Option Regex :=
  let word := [('0', '9'), ('A', 'Z'), ('a', 'z'), ('_', '_')]
  let space := [('\t', '\r'), (' ', ' ')]
  match c with
  | 'w' => some (.member false word)
  | 'W' => some (.member true word)
  | 's' => some (.member false space)
  | 'S' => some (.member true space)
  | '<' => some (.between fun before behind => !before && behind)
  | '>' => some (.between fun before behind => before && !behind)
  | 'b' => some (.between fun before behind => before != behind)
  | 'B' => some (.between fun before behind => before == behind)
  | '`' => some .start
  | '\'' => some .stop
  | c =>
    if '1' ≤ c && c ≤ '9' then some (.same (c.toNat - 48)) else none

/-- The list in brackets behind an opening bracket; no character is quoted in it. -/
def readList? (text : List Char) : Option (Regex × List Char) := do
  let (negated, text) := match text with
    | '^' :: rest => (true, rest)
    | _ => (false, text)
  let (ranges, rest) ← readRanges true (text.length + 1) (text.map fun c => ⟨c, false⟩)
  return (.member negated ranges, rest.map PatternChar.char)

/-- Whether a sign follows that ends a part of a basic expression. -/
def endsPart : List Char → Bool
  | [] | '\\' :: ')' :: _ | '\\' :: '|' :: _ => true
  | _ => false

/-- Reads a sign that is written the same in both ways. -/
def readPlain? (c : Char) (rest : List Char) : Option (RegexToken × List Char) :=
  match c with
  | '.' => some (.part .anyChar, rest)
  | '[' => (readList? rest).map fun (regex, rest) => (.part regex, rest)
  | c => some (.part (.char c), rest)

/-- Reads a sign of a basic expression; `first` tells whether a part begins with it. -/
def readBasic? (first : Bool) : List Char → Option (RegexToken × List Char)
  | [] => none
  | ['\\'] => none
  | '\\' :: c :: rest =>
    match c with
    | '(' => some (.opens, rest)
    | ')' => some (.closes, rest)
    | '|' => some (.or, rest)
    | '+' => some (if first then .part (.char '+') else .count 1 none, rest)
    | '?' => some (if first then .part (.char '?') else .count 0 (some 1), rest)
    | '\x7b' => readCounts? ['\\', '\x7d'] rest
    | c => some (.part ((ofLetter? c).getD (.char c)), rest)
  | '*' :: rest => some (if first then .part (.char '*') else .count 0 none, rest)
  | '^' :: rest => some (.part (if first then .start else .char '^'), rest)
  | '$' :: rest => some (.part (if endsPart rest then .stop else .char '$'), rest)
  | c :: rest => readPlain? c rest

def readExtended? : List Char → Option (RegexToken × List Char)
  | [] => none
  | ['\\'] => none
  | '\\' :: c :: rest => some (.part ((ofLetter? c).getD (.char c)), rest)
  | '(' :: rest => some (.opens, rest)
  | ')' :: rest => some (.closes, rest)
  | '|' :: rest => some (.or, rest)
  | '*' :: rest => some (.count 0 none, rest)
  | '+' :: rest => some (.count 1 none, rest)
  | '?' :: rest => some (.count 0 (some 1), rest)
  | '\x7b' :: rest =>
    some ((readCounts? ['\x7d'] rest).getD (.part (.char '\x7b'), rest))
  | '^' :: rest => some (.part .start, rest)
  | '$' :: rest => some (.part .stop, rest)
  | c :: rest => readPlain? c rest

/-- Whether a part begins behind a sign. -/
def opensPart : RegexToken → Bool
  | .opens | .or | .part .start => true
  | _ => false

/-- Reads at most `fuel` signs. -/
def readAll? (extended : Bool) : Nat → Bool → List Char → Option (List RegexToken)
  | _, _, [] => some []
  | 0, _, _ => none
  | fuel + 1, first, text => do
    let (token, rest) ← if extended then readExtended? text else readBasic? first text
    return token :: (← readAll? extended fuel token.opensPart rest)

end RegexToken

namespace Regex

def readCounted (regex : Regex) : List RegexToken → Regex × List RegexToken
  | .count least most :: rest => readCounted (.repeated least most regex) rest
  | rest => (regex, rest)

mutual
/-- Reads parts of which one has to match; `groups` groups have begun before them. Gives also how
many groups have begun behind them. -/
def readChoice? : Nat → Nat → List RegexToken → Option (Regex × Nat × List RegexToken)
  | 0, _, _ => none
  | fuel + 1, groups, tokens => do
    let (first, groups, rest) ← readRow? fuel groups .nothing tokens
    match rest with
    | .or :: rest => do
      let (second, groups, rest) ← readChoice? fuel groups rest
      return (.either first second, groups, rest)
    | rest => return (first, groups, rest)

/-- Reads parts that match one behind the other, behind what has been read of them. -/
def readRow? : Nat → Nat → Regex → List RegexToken → Option (Regex × Nat × List RegexToken)
  | 0, _, _, _ => none
  | fuel + 1, groups, front, tokens =>
    match tokens with
    | .part regex :: rest => do
      let (regex, rest) := readCounted regex rest
      readRow? fuel groups (.sequence front regex) rest
    | .opens :: rest => do
      let number := groups + 1
      let (inside, groups, rest) ← readChoice? fuel number rest
      let .closes :: rest := rest | none
      let (regex, rest) := readCounted (.group number inside) rest
      readRow? fuel groups (.sequence front regex) rest
    | .count _ _ :: rest => readRow? fuel groups front rest
    | rest => some (front, groups, rest)
end

/-- The regular expression that a text is, written as an extended one or a basic one. -/
def ofText? (extended : Bool) (text : List Char) : Option Regex := do
  let tokens ← RegexToken.readAll? extended text.length true text
  let (regex, _, rest) ← readChoice? (4 * tokens.length + 4) 0 tokens
  if rest.isEmpty then return regex else none

/-- The regular expression that a text matches and no other. -/
def ofChars (text : List Char) : Regex := text.foldr (fun c regex => .sequence (.char c) regex) .nothing

/-- A text as a text of bytes, as regular expressions know it. -/
def byteChars (bytes : List UInt8) : List Char := bytes.map fun byte => Char.ofNat byte.toNat

def charBytes (text : List Char) : List UInt8 := text.map fun c => UInt8.ofNat c.toNat

end Regex

end TitleBar.Shell
