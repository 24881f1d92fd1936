import TitleBar.Text.Folding

/-! # Wildcard patterns

A pattern is matched against the whole of a text and without regard to case: `*` takes any run of
characters, `?` takes exactly one, and every other character takes one that folds to the same.
There is no way to ask for a literal `*` or `?`. The empty pattern matches every text; a predicate
uses it to ask only whether its tag is available.

Matching is decided one pattern character at a time for all suffixes of the text at once, so its
cost is the product of the two lengths.
-/

namespace TitleBar

open Text (sameFolded)

/-- A wildcard pattern, as its author wrote it. -/
structure Glob where
  source : String
deriving DecidableEq, Repr, Inhabited

namespace Glob

/-- `Wild pattern text`: the whole text can be split among the characters of the pattern. -/
inductive Wild : List Char → List Char → Prop
  | nil : Wild [] []
  | run {pattern text : List Char} (taken : List Char) (rest : Wild pattern text) :
      Wild ('*' :: pattern) (taken ++ text)
  | one {pattern text : List Char} (c : Char) (rest : Wild pattern text) :
      Wild ('?' :: pattern) (c :: text)
  | same {pattern text : List Char} {p c : Char} (star : p ≠ '*') (mark : p ≠ '?')
      (folded : sameFolded p c = true) (rest : Wild pattern text) :
      Wild (p :: pattern) (c :: text)

/-- For each position, whether some later one holds (positions count as later than themselves). -/
def anyLater : List Bool → List Bool
  | [] => []
  | v :: vs => (v || vs.any id) :: anyLater vs

/-- Whether the pattern matches each suffix of the text, the longest suffix first. -/
def verdicts : List Char → List Char → List Bool
  | [], text => text.map (fun _ => false) ++ [true]
  | p :: pattern, text =>
    let rest := verdicts pattern text
    if p = '*' then anyLater rest
    else if p = '?' then rest.tail ++ [false]
    else List.zipWith (fun c v => sameFolded p c && v) text rest.tail ++ [false]

/-- The empty pattern, which matches every text. -/
def isEmpty (glob : Glob) : Bool := glob.source.isEmpty

/-- Whether the pattern matches the whole of `text`. -/
def isMatch (glob : Glob) (text : String) : Bool :=
  glob.isEmpty || (verdicts glob.source.toList text.toList).headD false

def isMatchOf (pattern text : String) : Bool := (Glob.mk pattern).isMatch text

theorem anyLater_length (vs : List Bool) : (anyLater vs).length = vs.length := by
  induction vs with
  | nil => rfl
  | cons v vs ih => simp [anyLater, ih]

theorem verdicts_length (pattern text : List Char) :
    (verdicts pattern text).length = text.length + 1 := by
  induction pattern with
  | nil => simp [verdicts]
  | cons p pattern ih =>
    simp only [verdicts]
    split
    · rw [anyLater_length, ih]
    · split <;> simp [ih]

end Glob

end TitleBar
