import TitleBar.Text.Blank

/-! # Tags

A tag names a value: a lower-case, hyphenated identifier such as `git-branch`, which may carry a
parenthesised argument list such as `path(0,2)`. Templates hand the whole text of a tag to the
resolvers, and the resolvers recover the identifier and the arguments from it.
-/

namespace TitleBar.Tag

open Text

/-- The characters of an identifier, hyphens aside. -/
def isWord (c : Char) : Bool := ('a' ≤ c && c ≤ 'z') || ('0' ≤ c && c ≤ '9')

/-- The characters that an identifier in a template may start with. -/
def isLetter (c : Char) : Bool := 'a' ≤ c && c ≤ 'z'

/-- A run of word characters and the hyphenated runs that follow it. -/
def hyphenated (text : List Char) : List Char :=
  match text.takeWhile isWord, _h : text.dropWhile isWord with
  | [], _ => []
  | word, '-' :: rest =>
    match hyphenated rest with
    | [] => word
    | more => word ++ '-' :: more
  | word, _ => word
termination_by text.length
decreasing_by
  have shorter := (List.dropWhile_sublist (l := text) isWord).length_le
  rw [_h] at shorter
  simp only [List.length_cons] at shorter
  omega

/-- The identifier that the text of a tag starts with. -/
def base? (tag : String) : Option String :=
  match hyphenated tag.toList with
  | [] => none
  | name => some (String.ofList name)

/-- Splits the rest of an identifier off a text. A hyphen belongs to it only before a word
character. -/
def scanTail : List Char → List Char × List Char
  | [] => ([], [])
  | c :: rest =>
    if isWord c then
      let (name, after) := scanTail rest
      (c :: name, after)
    else if c = '-' then
      match rest with
      | n :: _ =>
        if isWord n then
          let (name, after) := scanTail rest
          (c :: name, after)
        else ([], c :: rest)
      | [] => ([], [c])
    else ([], c :: rest)

/-- Splits the identifier off the front of a text; it starts with a letter, and is empty when no
identifier stands there. -/
def scan : List Char → List Char × List Char
  | [] => ([], [])
  | c :: rest => if isLetter c then scanTail (c :: rest) else ([], c :: rest)

theorem scanTail_append (text : List Char) : (scanTail text).1 ++ (scanTail text).2 = text := by
  induction text with
  | nil => rfl
  | cons c rest ih =>
    unfold scanTail
    split
    · simp [ih]
    · split
      · split
        · split
          · simp [ih]
          · rfl
        · rfl
      · rfl

theorem scan_append (text : List Char) : (scan text).1 ++ (scan text).2 = text := by
  cases text with
  | nil => rfl
  | cons c rest =>
    simp only [scan]
    split
    · exact scanTail_append _
    · rfl

/-- The trimmed arguments of a call of `function`; `none` when the tag is no such call. -/
def arguments? (tag function : String) : Option (List String) := do
  let rest ← strip? function.toList tag.toList
  let opened ← strip? ['('] (trimStart rest)
  let inner ← stripEnd? [')'] opened
  if (trim inner).isEmpty then
    return []
  return (splitAt (· == ',') inner).map fun piece => String.ofList (trim piece)

/-- The bound of a count: the largest number that fits into 64 bits. -/
def maxCount : Nat := 0xffffffffffffffff

def digitsValue? (digits : List Char) : Option Nat :=
  if digits.isEmpty then none
  else digits.foldlM (fun n c => if c.isDigit then some (n * 10 + (c.toNat - 48)) else none) 0

/-- Reads a count: decimal digits, perhaps after a plus sign, of a number up to `maxCount`. -/
def count? (text : String) : Option Nat := do
  let digits := match text.toList with
    | '+' :: rest => rest
    | all => all
  let n ← digitsValue? digits
  if n ≤ maxCount then some n else none

/-- The start and the length that a slicing call asks for. What is left out defaults to 0 and to
`length`; further arguments are ignored. -/
def slice? (tag function : String) (length : Nat) : Option (Nat × Nat) := do
  let args ← arguments? tag function
  let start ← match args with
    | [] => some 0
    | a :: _ => count? a
  let count ← match args with
    | _ :: a :: _ => count? a
    | _ => some length
  return (start, count)

/-- The segments of `data` that are not empty. -/
def segments (delimiter : Char) (data : List Char) : List (List Char) :=
  (splitAt (· == delimiter) data).filter (!·.isEmpty)

/-- The last `count` of the segments before the last `skipped` ones, in their order. -/
def trailing (skipped count : Nat) (pieces : List (List Char)) : List (List Char) :=
  let stop := pieces.length - skipped
  (pieces.take stop).drop (stop - count)

/-- Slices the segments of `data`, counted from the end. -/
def trailingSegments (data : String) (delimiter : Char) (skipped count : Nat) : String :=
  String.ofList (join [delimiter] (trailing skipped count (segments delimiter data.toList)))

end TitleBar.Tag
