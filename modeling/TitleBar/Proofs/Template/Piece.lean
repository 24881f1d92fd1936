import TitleBar.Proofs.Template.Search

/-! # Reading piece by piece

Reading a text cuts it into pieces: single characters, constructs with their bodies, and in branches
also quoted runs and blocks. `piece?` is the first piece of a text, and `parse_eq_piece?` says that
the syntax tree of a text is that of its first piece in front of that of the rest. What a piece holds
is told from its look-ahead alone, so a body is a piece of text here and not a tree.
-/

namespace TitleBar.Template

open Text

/-- A text inside of a piece that is read on its own. -/
structure Body where
  mode : Mode
  text : List Char
  /-- What follows it, from the brace that closes it on. -/
  behind : List Char
deriving DecidableEq, Repr

/-- A piece of a text. -/
inductive Piece where
  /-- A character that starts nothing. -/
  | plain (c : Char)
  /-- A character behind a backslash. -/
  | escaped (c : Char)
  /-- A backslash at the end of the text. -/
  | backslash
  /-- `$` that stands for the value of the enclosing conditional. -/
  | enclosing
  /-- `$` that stands for itself. -/
  | dollar
  /-- `$tag`. -/
  | value (tag : List Char)
  /-- `${list}`. -/
  | joined (list : List Char)
  /-- `?tag{body}` and `$tag?{body}`. -/
  | present (tag : List Char) (body : Body)
  /-- `$tag!{body}`. -/
  | absent (tag : List Char) (body : Body)
  /-- `if(tag){yes}`. -/
  | branch (tag : List Char) (yes : Body)
  /-- `if(tag){yes}else{no}`. -/
  | branches (tag : List Char) (yes no : Body)
  /-- A quoted run of a branch. -/
  | quoted (inside : List Char)
  /-- A block of a branch. -/
  | block (body : Body)
  /-- A construct whose first body is never closed. -/
  | unclosed (opening : Opening)
  /-- An `if` whose second branch is never closed. -/
  | unclosedElse (tag : List Char) (yes : Body)
  /-- A quoted run that is never closed. -/
  | unclosedQuote (inside : List Char)
  /-- A block that is never closed. -/
  | unclosedBlock (body : Body)
deriving DecidableEq, Repr

/-- The first piece of a text, and where reading goes on behind it. -/
structure Cut where
  piece : Piece
  /-- Whether the next character continues a word. -/
  glued : Bool
  rest : List Char
deriving DecidableEq, Repr

/-- A closed body that is read in a mode. -/
def Closed.read (closed : Closed) (mode : Mode) : Body := ⟨mode, closed.body, '}' :: closed.rest⟩

/-- A construct with one literal body. -/
def cutBody (opening : Opening) (piece : Closed → Piece) (after : List Char) : Cut :=
  match close? .literal after with
  | some closed => ⟨piece closed, false, closed.rest⟩
  | none => ⟨.unclosed opening, false, []⟩

/-- An `if` whose first branch is closed. -/
def cutElse (tag : List Char) (yes : Closed) : Cut :=
  match scanElse? yes.rest with
  | none => ⟨.branch tag (yes.read .structural), false, yes.rest⟩
  | some inside =>
    match close? .structural inside with
    | none => ⟨.unclosedElse tag (yes.read .structural), false, []⟩
    | some no => ⟨.branches tag (yes.read .structural) (no.read .structural), false, no.rest⟩

/-- The construct behind an opening. -/
def cutConstruct (opening : Opening) (after : List Char) : Cut :=
  match opening with
  | .enclosing => ⟨.enclosing, false, after⟩
  | .dollar => ⟨.dollar, false, after⟩
  | .value tag => ⟨.value tag, false, after⟩
  | .joined => cutBody opening (fun closed => .joined closed.body) after
  | .present tag => cutBody opening (fun closed => .present tag (closed.read (.literal false))) after
  | .absent tag => cutBody opening (fun closed => .absent tag (closed.read (.literal false))) after
  | .branch tag =>
    match close? .structural after with
    | some yes => cutElse tag yes
    | none => ⟨.unclosed opening, false, []⟩

/-- The first piece of a text; none when the text is empty. -/
def piece? (mode : Mode) (glued : Bool) (text : List Char) : Option Cut :=
  match text with
  | [] => none
  | '\\' :: [] => some ⟨.backslash, false, []⟩
  | '\\' :: c :: rest => some ⟨.escaped c, glues c, rest⟩
  | c :: rest =>
    if mode == .structural && c == '"' then
      match quoteEnd? rest with
      | some after => some ⟨.quoted (rest.take (rest.length - after.length - 1)), false, after⟩
      | none => some ⟨.unclosedQuote rest, false, []⟩
    else if mode == .structural && c == '{' then
      match close? .structural rest with
      | some closed => some ⟨.block (closed.read .structural), false, closed.rest⟩
      | none => some ⟨.unclosedBlock ⟨.structural, rest, []⟩, false, []⟩
    else match scanOpening? glued (c :: rest) with
      | none => some ⟨.plain c, glues c, rest⟩
      | some (opening, after) => some (cutConstruct opening after)

/-- The syntax tree of a body. -/
def Body.tree (body : Body) : Template := parse body.mode false body.text

/-- The syntax tree of a piece in front of that of the rest. -/
def Piece.tree (mode : Mode) (rest : Template) : Piece → Template
  | plain c => Template.plain mode c rest
  | escaped c =>
    match mode with
    | .literal inQuotes => .text (unescape inQuotes c) rest
    | .structural => rest
  | backslash => Template.plain mode '\\' rest
  | enclosing => .enclosing rest
  | dollar => .text '$' rest
  | value tag => .value tag rest
  | joined list => .joined (words list) rest
  | present tag body => .present tag body.tree rest
  | absent tag body => .absent tag body.tree rest
  | branch tag yes => .branch tag yes.tree rest
  | branches tag yes no => .branches tag yes.tree no.tree rest
  | quoted inside => .nested (parse (.literal true) false inside) rest
  | block body => .nested body.tree rest
  | unclosed _ => rest
  | unclosedElse tag yes => .branch tag yes.tree rest
  | unclosedQuote inside => .nested (parse (.literal true) false inside) rest
  | unclosedBlock body => .nested body.tree rest

/-- The syntax tree of a text whose first piece is given. -/
def Cut.tree (mode : Mode) (cut : Cut) : Template :=
  cut.piece.tree mode (parse mode cut.glued cut.rest)

/-- The first piece of a text that does not start with a backslash. -/
theorem piece?_cons {c : Char} (noEscape : c ≠ '\\') (mode : Mode) (glued : Bool)
    (rest : List Char) :
    piece? mode glued (c :: rest) =
      if mode == .structural && c == '"' then
        match quoteEnd? rest with
        | some after => some ⟨.quoted (rest.take (rest.length - after.length - 1)), false, after⟩
        | none => some ⟨.unclosedQuote rest, false, []⟩
      else if mode == .structural && c == '{' then
        match close? .structural rest with
        | some closed => some ⟨.block (closed.read .structural), false, closed.rest⟩
        | none => some ⟨.unclosedBlock ⟨.structural, rest, []⟩, false, []⟩
      else match scanOpening? glued (c :: rest) with
        | none => some ⟨.plain c, glues c, rest⟩
        | some (opening, after) => some (cutConstruct opening after) := by
  unfold piece?
  split
  · contradiction
  · simp_all
  · simp_all
  · rename_i same
    obtain ⟨rfl, rfl⟩ := List.cons.inj same
    rfl

/-- The first piece of a text that starts with neither an escape nor a quoted run or a block. -/
theorem piece?_of_opening {mode : Mode} {glued : Bool} {c : Char} {text : List Char}
    (noEscape : c ≠ '\\') (noQuote : ¬(mode = .structural ∧ c = '"'))
    (noBlock : ¬(mode = .structural ∧ c = '{')) :
    piece? mode glued (c :: text) =
      match scanOpening? glued (c :: text) with
      | none => some ⟨.plain c, glues c, text⟩
      | some (opening, after) => some (cutConstruct opening after) := by
  have cuts := piece?_cons noEscape mode glued text
  rw [if_neg (by simpa using noQuote), if_neg (by simpa using noBlock)] at cuts
  exact cuts

theorem parse_nil (mode : Mode) (glued : Bool) : parse mode glued [] = .done := by
  rw [parse.eq_def]

/-- A text is read piece by piece. -/
theorem parse_eq_piece? (mode : Mode) (glued : Bool) (text : List Char) :
    parse mode glued text = ((piece? mode glued text).map (Cut.tree mode)).getD .done := by
  rw [parse.eq_def]
  split
  · rfl
  · rename_i rest
    rcases mode with inQuotes | _ <;> rcases rest with _ | ⟨c, rest⟩
    · simp [piece?, Cut.tree, Piece.tree, Template.plain, parse_nil]
    · simp [piece?, Cut.tree, Piece.tree]
    · simp [piece?, Cut.tree, Piece.tree, Template.plain, parse_nil]
    · simp [piece?, Cut.tree, Piece.tree]
  · rename_i c rest noEscape
    rw [piece?_cons noEscape]
    split
    · rename_i quote
      obtain ⟨rfl, -⟩ : mode = .structural ∧ c = '"' := by simpa using quote
      split <;> rename_i found <;> rw [found]
      · rfl
      · simp only [Option.map_some, Option.getD_some, Cut.tree, Piece.tree, parse_nil]
    · split
      · rename_i brace
        obtain ⟨rfl, -⟩ : mode = .structural ∧ c = '{' := by simpa using brace
        split <;> rename_i found <;> rw [found]
        · rfl
        · simp only [Option.map_some, Option.getD_some, Cut.tree, Piece.tree, Body.tree, parse_nil]
      · split <;> rename_i found <;> rw [found]
        case h_1 => rfl
        case h_2 => rfl
        case h_3 => rfl
        case h_4 => rfl
        case h_8 =>
          simp only [cutConstruct]
          split <;> rename_i first <;> rw [first]
          · simp only [Option.map_some, Option.getD_some, Cut.tree, Piece.tree, parse_nil]
          · simp only [cutElse]
            split <;> rename_i other <;> rw [other]
            · rfl
            · simp only
              split <;> rename_i second <;> rw [second]
              · simp only [Option.map_some, Option.getD_some, Cut.tree, Piece.tree, Body.tree,
                  Closed.read, parse_nil]
              · rfl
        all_goals
          simp only [cutConstruct, cutBody]
          split <;> rename_i closed <;> rw [closed]
          · rfl
          · simp only [Option.map_some, Option.getD_some, Cut.tree, Piece.tree, parse_nil]

end TitleBar.Template
