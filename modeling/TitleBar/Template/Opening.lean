import TitleBar.Tag

/-! # What a construct of a template opens with

Scanning of the constructs of the template language up to, but not into, their bodies: `$tag`,
`${`, `$tag?{`, `$tag!{`, `?tag{` and `if(tag){`. Nothing here looks for the end of a body, so
every function is a plain look-ahead.
-/

namespace TitleBar.Template

open Text

/-- A construct, as far as its opening tells it. -/
inductive Opening where
  /-- `$` before white space, a digit or the end: the value of the enclosing conditional. -/
  | enclosing
  /-- `$` before anything else that is no tag: the character itself. -/
  | dollar
  /-- `$tag`. -/
  | value (tag : List Char)
  /-- `${`: the values of a list of tags. -/
  | joined
  /-- `?tag{` and `$tag?{`: a body for the case that the tag has a value. -/
  | present (tag : List Char)
  /-- `$tag!{`: a body for the case that the tag has none. -/
  | absent (tag : List Char)
  /-- `if(tag){`: a branch, which another branch may follow. -/
  | branch (tag : List Char)
deriving DecidableEq, Repr

/-- The argument list that a text starts with, and what follows it. A list holds no parenthesis. -/
def scanArguments : List Char → List Char × List Char
  | '(' :: rest =>
    match rest.dropWhile (fun c => c != ')' && c != '(') with
    | ')' :: after =>
      ('(' :: rest.takeWhile (fun c => c != ')' && c != '(') ++ [')'], after)
    | _ => ([], '(' :: rest)
  | text => ([], text)

/-- The tag that a text starts with, arguments included, and what follows it. -/
def scanTag? (text : List Char) : Option (List Char × List Char) :=
  match Tag.scan text with
  | ([], _) => none
  | (name, rest) =>
    let (list, after) := scanArguments rest
    some (name ++ list, after)

/-- What a `$` opens, given the text behind it. -/
def scanDollar (rest : List Char) : Opening × List Char :=
  match rest with
  | [] => (.enclosing, [])
  | '{' :: inside => (.joined, inside)
  | c :: _ =>
    if isBlank c || c.isDigit then (.enclosing, rest)
    else match scanTag? rest with
      | none => (.dollar, rest)
      | some (tag, '?' :: '{' :: inside) => (.present tag, inside)
      | some (tag, '!' :: '{' :: inside) => (.absent tag, inside)
      | some (tag, after) => (.value tag, after)

/-- What a `?` opens, given the text behind it; `none` when it is no conditional. -/
def scanQuestion? (rest : List Char) : Option (Opening × List Char) :=
  match scanTag? rest with
  | some (tag, '{' :: inside) => some (.present tag, inside)
  | _ => none

/-- What an `i` opens, given the text behind it; `none` when it is not the header of an `if`. The
tag of a header runs to the first closing parenthesis and has to start with an identifier. -/
def scanIf? (rest : List Char) : Option (Opening × List Char) := do
  let afterWord ← strip? ['f'] rest
  let inside ← strip? ['('] (trimStart afterWord)
  let tag := trim (inside.takeWhile (· != ')'))
  let behind ← strip? [')'] (inside.dropWhile (· != ')'))
  let body ← strip? ['{'] (trimStart behind)
  if Tag.hyphenated tag = [] then none else some (.branch tag, body)

/-- The text inside the branch that an `else` opens, given the text behind the first branch;
`none` when no `else` branch follows. -/
def scanElse? (rest : List Char) : Option (List Char) := do
  let behind ← strip? ['e', 'l', 's', 'e'] (trimStart rest)
  strip? ['{'] (trimStart behind)

/-- Whether a keyword cannot start behind this character, because it would continue a word. -/
def glues (c : Char) : Bool := c.isAlphanum || c == '-' || c == '_'

/-- The construct that a text opens with, given whether its first character continues a word. -/
def scanOpening? (glued : Bool) : List Char → Option (Opening × List Char)
  | '$' :: rest => some (scanDollar rest)
  | '?' :: rest => scanQuestion? rest
  | 'i' :: rest => if glued then none else scanIf? rest
  | _ => none

theorem scanArguments_append (text : List Char) :
    (scanArguments text).1 ++ (scanArguments text).2 = text := by
  unfold scanArguments
  split
  · rename_i rest
    split
    · rename_i after found
      have whole := List.takeWhile_append_dropWhile (p := fun c => c != ')' && c != '(') (l := rest)
      rw [found] at whole
      simpa using whole
    · rfl
  · rfl

theorem scanTag?_eq_some {text tag rest : List Char} (found : scanTag? text = some (tag, rest)) :
    tag ++ rest = text := by
  unfold scanTag? at found
  split at found
  · simp at found
  · rename_i name after _ scanned
    have whole := Tag.scan_append text
    rw [scanned] at whole
    simp only [Option.some.injEq, Prod.mk.injEq] at found
    obtain ⟨rfl, rfl⟩ := found
    rw [List.append_assoc, scanArguments_append]
    exact whole

theorem scanTag?_length_le {text tag rest : List Char}
    (found : scanTag? text = some (tag, rest)) : rest.length ≤ text.length := by
  rw [← scanTag?_eq_some found]
  simp

theorem scanDollar_length_le (text : List Char) :
    (scanDollar text).2.length ≤ text.length := by
  unfold scanDollar
  split
  · simp
  · simp
  · split
    · simp
    · split
      · simp
      · rename_i found
        have := scanTag?_length_le found
        simp only [List.length_cons] at this ⊢
        omega
      · rename_i found
        have := scanTag?_length_le found
        simp only [List.length_cons] at this ⊢
        omega
      · rename_i found
        exact scanTag?_length_le found

theorem scanQuestion?_length_lt {text rest : List Char} {opening : Opening}
    (found : scanQuestion? text = some (opening, rest)) : rest.length < text.length := by
  unfold scanQuestion? at found
  split at found
  · rename_i tagged
    have := scanTag?_length_le tagged
    simp only [Option.some.injEq, Prod.mk.injEq] at found
    obtain ⟨rfl, rfl⟩ := found
    exact this
  · simp at found

theorem strip?_length {lead text rest : List Char} (found : strip? lead text = some rest) :
    text.length = lead.length + rest.length := by
  rw [strip?_eq_some_iff.1 found, List.length_append]

theorem scanIf?_length_lt {text rest : List Char} {opening : Opening}
    (found : scanIf? text = some (opening, rest)) : rest.length < text.length := by
  unfold scanIf? at found
  simp only [Option.bind_eq_bind, Option.bind_eq_some_iff] at found
  obtain ⟨afterWord, word, inside, opened, behind, closed, body, braced, final⟩ := found
  split at final
  · simp at final
  · simp only [Option.some.injEq, Prod.mk.injEq] at final
    obtain ⟨-, rfl⟩ := final
    have := strip?_length word
    have := strip?_length opened
    have := strip?_length closed
    have := strip?_length braced
    have := trimStart_length_le afterWord
    have := trimStart_length_le behind
    have := (List.dropWhile_sublist (l := inside) (· != ')')).length_le
    simp only [List.length_cons, List.length_nil] at *
    omega

theorem scanElse?_length_lt {text rest : List Char} (found : scanElse? text = some rest) :
    rest.length < text.length := by
  unfold scanElse? at found
  simp only [Option.bind_eq_bind, Option.bind_eq_some_iff] at found
  obtain ⟨behind, word, braced⟩ := found
  have := strip?_length word
  have := strip?_length braced
  have := trimStart_length_le text
  have := trimStart_length_le behind
  simp only [List.length_cons, List.length_nil] at *
  omega

theorem scanOpening?_length_lt {glued : Bool} {text rest : List Char} {opening : Opening}
    (found : scanOpening? glued text = some (opening, rest)) : rest.length < text.length := by
  unfold scanOpening? at found
  split at found
  · rename_i behind
    have := scanDollar_length_le behind
    simp only [Option.some.injEq] at found
    rw [found] at this
    exact Nat.lt_succ_of_le this
  · have := scanQuestion?_length_lt found
    simp only [List.length_cons]
    omega
  · split at found
    · simp at found
    · have := scanIf?_length_lt found
      simp only [List.length_cons]
      omega
  · simp at found

end TitleBar.Template
