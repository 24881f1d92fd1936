import TitleBar.Shell.CharClass
import TitleBar.Text.Blank

/-! # Patterns of the shell

A pattern is a text in which `*` stands for any text, `?` for any character and a list in brackets
for any character of it, unless they are quoted.
-/

namespace TitleBar.Shell

structure PatternChar where
  char : Char
  quoted : Bool
deriving DecidableEq, Repr

inductive PatternPart where
  | char (c : Char)
  | anyChar
  | anyText
  /-- A character of a list of ranges, or with `negated` one that is in none of them. -/
  | member (negated : Bool) (ranges : List (Char × Char))
deriving DecidableEq, Repr

/-- The class that a list in brackets names behind an opening bracket, such as `:alpha:]`, and what
is behind it. -/
def readClass? (items : List PatternChar) : Option (List (Char × Char) × List PatternChar) :=
  match items with
  | ⟨':', _⟩ :: items =>
    let name := items.takeWhile (·.char != ':')
    match items.drop name.length with
    | _ :: ⟨']', _⟩ :: rest =>
      (charClasses.lookup (String.ofList (name.map PatternChar.char))).map fun ranges =>
        (ranges, rest)
    | _ => none
  | _ => none

/-- The ranges of a list in brackets up to the bracket that closes it, which is not the `first`
character, and what is behind that. At most `fuel` items are read. -/
def readRanges (first : Bool) :
    Nat → List PatternChar → Option (List (Char × Char) × List PatternChar)
  | 0, _ => none
  | fuel + 1, items => do
    match items with
    | [] => none
    | a :: rest =>
      if a = ⟨']', false⟩ ∧ !first then return ([], rest)
      match if a = ⟨'[', false⟩ then readClass? rest else none with
      | some (ranges, rest) =>
        let (more, rest) ← readRanges false fuel rest
        return (ranges ++ more, rest)
      | none =>
        match rest with
        | ⟨'-', false⟩ :: b :: further =>
          if b = ⟨']', false⟩ then
            let (more, rest) ← readRanges false fuel rest
            return ((a.char, a.char) :: more, rest)
          else
            let (more, rest) ← readRanges false fuel further
            return ((a.char, b.char) :: more, rest)
        | rest =>
          let (more, rest) ← readRanges false fuel rest
          return ((a.char, a.char) :: more, rest)

/-- The list in brackets that follows an opening bracket, and what is behind it. A closing bracket
right at the start belongs to the list. -/
def readMembers (pattern : List PatternChar) : Option (PatternPart × List PatternChar) :=
  let (negated, items) := match pattern with
    | ⟨'!', false⟩ :: rest | ⟨'^', false⟩ :: rest => (true, rest)
    | _ => (false, pattern)
  (readRanges true (items.length + 1) items).map fun (ranges, rest) =>
    (.member negated ranges, rest)

def patternPartsWithin : Nat → List PatternChar → List PatternPart
  | 0, _ => []
  | fuel + 1, pattern =>
    match pattern with
    | [] => []
    | ⟨'*', false⟩ :: rest => .anyText :: patternPartsWithin fuel rest
    | ⟨'?', false⟩ :: rest => .anyChar :: patternPartsWithin fuel rest
    | ⟨'[', false⟩ :: rest =>
      match readMembers rest with
      | some (part, rest) => part :: patternPartsWithin fuel rest
      | none => .char '[' :: patternPartsWithin fuel rest
    | ⟨c, _⟩ :: rest => .char c :: patternPartsWithin fuel rest

/-- Whether a part matches a single character. -/
def PatternPart.accepts (part : PatternPart) (c : Char) : Bool :=
  match part with
  | .char d => c == d
  | .anyChar | .anyText => true
  | .member negated ranges => inCharRanges ranges c != negated

/-- Whether parts match the whole of a text. -/
def matchesParts : List PatternPart → List Char → Bool
  | [], text => text.isEmpty
  | .anyText :: parts, text =>
    (List.range (text.length + 1)).any fun n => matchesParts parts (text.drop n)
  | part :: parts, c :: text => part.accepts c && matchesParts parts text
  | _ :: _, [] => false

def matchesPattern (pattern : List PatternChar) (text : List Char) : Bool :=
  matchesParts (patternPartsWithin (pattern.length + 1) pattern) text

/-- Whether a pattern has a sign that may stand for something else. -/
def hasWildcard (pattern : List PatternChar) : Bool :=
  pattern.any fun c => !c.quoted && ['*', '?', '['].contains c.char

/-- A text without what a pattern matches at its start or end, as much or as little as possible. -/
def withoutMatch (atEnd longest : Bool) (pattern : List PatternChar) (text : List Char) :
    List Char :=
  let counts := List.range (text.length + 1)
  let counts := if longest then counts.reverse else counts
  let found? := counts.find? fun n =>
    matchesPattern pattern (if atEnd then text.drop (text.length - n) else text.take n)
  match found? with
  | some n => if atEnd then text.take (text.length - n) else text.drop n
  | none => text

end TitleBar.Shell
