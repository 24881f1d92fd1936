import TitleBar.Template.Opening

/-! # Where the bodies of a template end

The search for the brace that closes a body is a walk with a stack of the braces that are still
open. A construct met on the way pushes its own brace, so it is stepped over whole; a body that is
never closed closes nothing around it. In literal text every pair of braces counts; in a branch of
an `if` quoted runs are stepped over as well.
-/

namespace TitleBar.Template

open Text

/-- How a text is read. -/
inductive Mode where
  /-- Characters stand for themselves; a quoted run knows two more escapes. -/
  | literal (quoted : Bool)
  /-- Only constructs, quoted runs and nested blocks produce output. -/
  | structural
deriving DecidableEq, Repr

/-- An open brace whose partner is searched. -/
inductive Brace where
  /-- The brace of a literal body, or a plain one inside of it. -/
  | literal
  /-- The brace of a branch or of a block inside of one. -/
  | structural
  /-- The brace of a branch that an `else` may follow. -/
  | first
deriving DecidableEq, Repr

/-- Whether quoted runs are stepped over between this brace and its partner. -/
def Brace.quotes : Brace → Bool
  | .literal => false
  | .structural | .first => true

/-- The brace that a plain `{` between this brace and its partner opens. -/
def Brace.inner : Brace → Brace
  | .literal => .literal
  | .structural | .first => .structural

/-- The brace that an opening leaves open, if any. -/
def Opening.brace? : Opening → Option Brace
  | .joined | .present _ | .absent _ => some .literal
  | .branch _ => some .first
  | .enclosing | .dollar | .value _ => none

/-- The text behind the quote that ends a quoted run; an escaped quote does not. -/
def quoteEnd? : List Char → Option (List Char)
  | [] => none
  | '\\' :: _ :: rest => quoteEnd? rest
  | '"' :: rest => some rest
  | _ :: rest => quoteEnd? rest

theorem quoteEnd?_length_lt {text rest : List Char} (found : quoteEnd? text = some rest) :
    rest.length < text.length := by
  fun_induction quoteEnd? text with
  | case1 => simp at found
  | case2 _ after ih =>
    have := ih found
    simp only [List.length_cons]
    omega
  | case3 after => simp_all
  | case4 c after _ _ ih =>
    have := ih found
    simp only [List.length_cons]
    omega

/-- The text behind the brace that closes the last of the open braces, the innermost of which comes
first; `glued` tells whether the first character of the text continues a word. -/
def closing? (stack : List Brace) (glued : Bool) (text : List Char) : Option (List Char) :=
  match stack with
  | [] => some text
  | brace :: outer =>
    match text with
    | [] => none
    | '\\' :: [] => none
    | '\\' :: c :: rest => closing? (brace :: outer) (glues c) rest
    | '{' :: rest => closing? (brace.inner :: brace :: outer) false rest
    | '}' :: rest =>
      match brace, _other : scanElse? rest with
      | .first, some inside => closing? (.structural :: outer) false inside
      | _, _ => closing? outer false rest
    | c :: rest =>
      if brace.quotes && c == '"' then
        match _quoted : quoteEnd? rest with
        | some after => closing? (brace :: outer) false after
        | none => none
      else match _opened : scanOpening? glued (c :: rest) with
        | some (opening, after) => closing? (opening.brace?.toList ++ brace :: outer) false after
        | none => closing? (brace :: outer) (glues c) rest
termination_by text.length
decreasing_by
  all_goals simp only [List.length_cons]
  · omega
  · omega
  · have := scanElse?_length_lt _other
    omega
  · omega
  · have := quoteEnd?_length_lt _quoted
    omega
  · have := scanOpening?_length_lt _opened
    simpa using this
  · omega

/-- A body and the text behind the brace that closes it. -/
structure Closed where
  body : List Char
  rest : List Char
deriving DecidableEq, Repr

/-- The body that a text starts with, given the brace that opened it. -/
def close? (brace : Brace) (text : List Char) : Option Closed :=
  (closing? [brace] false text).map fun rest =>
    ⟨text.take (text.length - rest.length - 1), rest⟩

end TitleBar.Template
