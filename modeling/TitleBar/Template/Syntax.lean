import TitleBar.Template.Closing

/-! # Templates

A template is read once into its syntax tree: a piece, and the rest. Reading never fails. A
construct whose body is never closed swallows the rest of the text and leaves nothing behind; what
opens like a construct but is none stands for its characters.
-/

namespace TitleBar

open Text Template

/-- The syntax tree of a template. Every constructor but `done` holds the first piece and what
follows it. -/
inductive Template where
  | done
  /-- A character that is emitted as it is. -/
  | text (c : Char) (rest : Template)
  /-- The value of the enclosing conditional. -/
  | enclosing (rest : Template)
  /-- The value of a tag. -/
  | value (tag : List Char) (rest : Template)
  /-- The values of several tags that have one, with blanks between them. -/
  | joined (tags : List (List Char)) (rest : Template)
  /-- A body for the case that the tag has a value, which it then encloses. -/
  | present (tag : List Char) (body rest : Template)
  /-- A body for the case that the tag has no value. -/
  | absent (tag : List Char) (body rest : Template)
  /-- A branch for the case that the tag has a value. -/
  | branch (tag : List Char) (yes rest : Template)
  /-- A branch for either case. -/
  | branches (tag : List Char) (yes no rest : Template)
  /-- A quoted run or a block of a branch. -/
  | nested (body rest : Template)
deriving DecidableEq, Repr, Inhabited

namespace Template

/-- What `\c` emits: in a quoted run `n` and `t` stand for a newline and a tab. -/
def unescape (quoted : Bool) (c : Char) : Char :=
  if quoted && c == 'n' then '\n' else if quoted && c == 't' then '\t' else c

/-- A character that starts no construct: only literal text emits it. -/
def plain (mode : Mode) (c : Char) (rest : Template) : Template :=
  match mode with
  | .literal _ => .text c rest
  | .structural => rest

theorem closing?_length_le {stack : List Brace} {glued : Bool} {text rest : List Char}
    (found : closing? stack glued text = some rest) : rest.length ≤ text.length := by
  fun_induction closing? stack glued text with
  | case1 => simp_all
  | case2 => simp at found
  | case3 => simp at found
  | case4 _ _ _ _ _ ih => have := ih found; simp only [List.length_cons]; omega
  | case5 _ _ _ _ ih => have := ih found; simp only [List.length_cons]; omega
  | case6 _ _ _ _ h ih =>
    have := ih found
    have := scanElse?_length_lt h
    simp only [List.length_cons]
    omega
  | case7 _ _ _ _ _ ih => have := ih found; simp only [List.length_cons]; omega
  | case8 _ _ _ _ _ _ _ _ _ _ _ h ih =>
    have := ih found
    have := quoteEnd?_length_lt h
    simp only [List.length_cons]
    omega
  | case9 => simp at found
  | case10 _ _ _ _ _ _ _ _ _ _ _ _ h ih =>
    have := ih found
    have := scanOpening?_length_lt h
    omega
  | case11 _ _ _ _ _ _ _ _ _ _ h ih =>
    have := ih found
    simp only [List.length_cons]
    omega

theorem close?_rest_length_le {brace : Brace} {text : List Char} {closed : Closed}
    (found : close? brace text = some closed) : closed.rest.length ≤ text.length := by
  simp only [close?, Option.map_eq_some_iff] at found
  obtain ⟨rest, ended, rfl⟩ := found
  exact closing?_length_le ended

theorem close?_body_length_le {brace : Brace} {text : List Char} {closed : Closed}
    (found : close? brace text = some closed) : closed.body.length ≤ text.length := by
  simp only [close?, Option.map_eq_some_iff] at found
  obtain ⟨rest, -, rfl⟩ := found
  exact (List.take_sublist _ _).length_le

/-- Reads a text in a mode; `glued` tells whether its first character continues a word. -/
def parse (mode : Mode) (glued : Bool) (text : List Char) : Template :=
  match text with
  | [] => .done
  | '\\' :: rest =>
    match mode, rest with
    | .literal _, [] => .text '\\' .done
    | .literal quoted, c :: after =>
      .text (unescape quoted c) (parse (.literal quoted) (glues c) after)
    | .structural, [] => .done
    | .structural, c :: after => parse .structural (glues c) after
  | c :: rest =>
    if mode == .structural && c == '"' then
      match _quoted : quoteEnd? rest with
      | some after =>
        .nested (parse (.literal true) false (rest.take (rest.length - after.length - 1)))
          (parse .structural false after)
      | none => .nested (parse (.literal true) false rest) .done
    else if mode == .structural && c == '{' then
      match _closed : close? .structural rest with
      | some closed =>
        .nested (parse .structural false closed.body) (parse .structural false closed.rest)
      | none => .nested (parse .structural false rest) .done
    else
      match _opened : scanOpening? glued (c :: rest) with
      | none => plain mode c (parse mode (glues c) rest)
      | some (.enclosing, after) => .enclosing (parse mode false after)
      | some (.dollar, after) => .text '$' (parse mode false after)
      | some (.value tag, after) => .value tag (parse mode false after)
      | some (.joined, inside) =>
        match _closed : close? .literal inside with
        | some closed => .joined (words closed.body) (parse mode false closed.rest)
        | none => .done
      | some (.present tag, inside) =>
        match _closed : close? .literal inside with
        | some closed =>
          .present tag (parse (.literal false) false closed.body) (parse mode false closed.rest)
        | none => .done
      | some (.absent tag, inside) =>
        match _closed : close? .literal inside with
        | some closed =>
          .absent tag (parse (.literal false) false closed.body) (parse mode false closed.rest)
        | none => .done
      | some (.branch tag, inside) =>
        match _closed : close? .structural inside with
        | none => .done
        | some yes =>
          match _other : scanElse? yes.rest with
          | none =>
            .branch tag (parse .structural false yes.body) (parse mode false yes.rest)
          | some inside' =>
            match _final : close? .structural inside' with
            | none => .branch tag (parse .structural false yes.body) .done
            | some no =>
              .branches tag (parse .structural false yes.body) (parse .structural false no.body)
                (parse mode false no.rest)
termination_by text.length
decreasing_by
  all_goals simp_wf
  all_goals first
    | omega
    | (have bound := quoteEnd?_length_lt _quoted; omega)
    | (have bound := close?_body_length_le _closed; omega)
    | (have bound := close?_rest_length_le _closed; omega)
    | (have opened := scanOpening?_length_lt _opened
       simp only [List.length_cons] at opened
       first
         | omega
         | (have bound := close?_body_length_le _closed; omega)
         | (have bound := close?_rest_length_le _closed; first
             | omega
             | (have bound := scanElse?_length_lt _other
                first
                  | (have bound := close?_body_length_le _final; omega)
                  | (have bound := close?_rest_length_le _final; omega))))

def ofString (template : String) : Template := parse (.literal false) false template.toList

end Template

end TitleBar
