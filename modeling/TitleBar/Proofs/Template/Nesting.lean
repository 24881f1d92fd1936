import TitleBar.Proofs.Template.Piece

/-! # The pieces of a body

The end of a body is searched in the whole text, and the body is then read on its own. Each of its
pieces is closed there, and ends where it ends in the whole text and where the search stepped behind
it: `piece?_cut` says so for the first piece, and leaves a rest to which it applies again.
-/

namespace TitleBar.Template

open Text

/-- The brace that opens a body of a mode. -/
def Mode.brace : Mode → Brace
  | .literal _ => .literal
  | .structural => .structural

/-- Whether nothing of a piece is missing at the end of the text. -/
def Piece.isClosed : Piece → Bool
  | backslash | unclosed _ | unclosedElse _ _ | unclosedQuote _ | unclosedBlock _ => false
  | _ => true

/-- The bodies of a piece that are read on their own. What a quoted run holds is not among them. -/
def Piece.bodies : Piece → List Body
  | present _ body | absent _ body | block body | unclosedBlock body => [body]
  | branch _ yes | unclosedElse _ yes => [yes]
  | branches _ yes no => [yes, no]
  | _ => []

/-- A body of a text that goes on. -/
def Body.before (behind : List Char) (body : Body) : Body :=
  { body with behind := body.behind ++ behind }

/-- A piece of a text that goes on. -/
def Piece.before (behind : List Char) : Piece → Piece
  | present tag body => present tag (body.before behind)
  | absent tag body => absent tag (body.before behind)
  | branch tag yes => branch tag (yes.before behind)
  | branches tag yes no => branches tag (yes.before behind) (no.before behind)
  | block body => block (body.before behind)
  | piece => piece

/-- The first piece of a text that goes on. -/
def Cut.before (behind : List Char) (cut : Cut) : Cut :=
  ⟨cut.piece.before behind, cut.glued, cut.rest ++ behind⟩

section Cuts

variable {outer : List Brace} {text rest : List Char}

theorem cutBody_cut (opening : Opening) (piece : Closed → Piece)
    (before : ∀ closed : Closed, (piece closed).before ('}' :: rest) =
      piece ⟨closed.body, closed.rest ++ '}' :: rest⟩)
    (closed : ∀ body : Closed, (piece body).isClosed) (nested : outer ≠ [])
    (found : closing? (.literal :: outer) false (text ++ '}' :: rest) = some rest) :
    (cutBody opening piece text).piece.isClosed ∧
      cutBody opening piece (text ++ '}' :: rest) =
        (cutBody opening piece text).before ('}' :: rest) ∧
      closing? outer (cutBody opening piece text).glued
        ((cutBody opening piece text).rest ++ '}' :: rest) = some rest := by
  obtain ⟨body, alone, whole, behind⟩ := close?_cut nested found
  simp only [cutBody, alone, whole]
  exact ⟨closed body, by rw [Cut.before, before], behind⟩

theorem Closed.read_before (closed : Closed) (mode : Mode) :
    (closed.read mode).before ('}' :: rest) =
      Closed.read ⟨closed.body, closed.rest ++ '}' :: rest⟩ mode := by
  simp [Closed.read, Body.before]

/-- Inside of another body, a first branch is closed at the same place as in the whole text, and the
search goes on behind it. -/
theorem close?_cut_first (nested : outer ≠ [])
    (found : closing? (.first :: outer) false (text ++ '}' :: rest) = some rest) :
    ∃ yes, close? .structural text = some yes ∧
      close? .structural (text ++ '}' :: rest) = some ⟨yes.body, yes.rest ++ '}' :: rest⟩ ∧
      match scanElse? yes.rest with
      | some inside => closing? (.structural :: outer) false (inside ++ '}' :: rest) = some rest
      | none => closing? outer false (yes.rest ++ '}' :: rest) = some rest := by
  obtain ⟨brace, outer, rfl⟩ := List.exists_cons_of_ne_nil nested
  have first : closing? ([] ++ .first :: brace :: outer) false (text ++ '}' :: rest) = some rest :=
    found
  obtain ⟨middle, ends⟩ := exists_closing?_of_first first
  have reaches : Search.Reaches ⟨[] ++ .first :: brace :: outer, false, text ++ '}' :: rest⟩
      (Search.behindFirst (brace :: outer) middle) := Search.reaches_behindFirst ends
  have behind := (closing?_of_reaches reaches).symm.trans found
  rw [List.nil_append] at ends
  obtain ⟨lead, rfl⟩ : '}' :: rest <:+ middle := by
    simp only [Search.behindFirst] at behind
    split at behind
    · rename_i other
      exact (closing?_suffix behind).trans (scanElse?_suffix other)
    · exact closing?_suffix behind
  have alone := closing?_cut ends
  obtain ⟨body, rfl⟩ := closing?_suffix alone
  refine ⟨⟨body, lead⟩, close?_eq_some_iff.2 ⟨rfl, alone⟩, close?_eq_some_iff.2 ⟨?_, ends⟩, ?_⟩
  · rw [List.append_assoc, List.cons_append]
  · rw [Search.behindFirst, scanElse?_append_brace] at behind
    rcases other : scanElse? lead with _ | inside
    · rw [other] at behind
      exact behind
    · rw [other] at behind
      exact behind

theorem cutElse_cut {tag : List Char} {yes : Closed} (nested : outer ≠ [])
    (found : match scanElse? yes.rest with
      | some inside => closing? (.structural :: outer) false (inside ++ '}' :: rest) = some rest
      | none => closing? outer false (yes.rest ++ '}' :: rest) = some rest) :
    (cutElse tag yes).piece.isClosed ∧
      cutElse tag ⟨yes.body, yes.rest ++ '}' :: rest⟩ = (cutElse tag yes).before ('}' :: rest) ∧
      closing? outer (cutElse tag yes).glued ((cutElse tag yes).rest ++ '}' :: rest) =
        some rest := by
  simp only [cutElse, scanElse?_append_brace]
  rcases other : scanElse? yes.rest with _ | inside
  · rw [other] at found
    refine ⟨rfl, ?_, found⟩
    simp only [Option.map_none, Cut.before, Piece.before, Closed.read_before]
  · rw [other] at found
    obtain ⟨no, alone, whole, behind⟩ := close?_cut nested found
    simp only [Option.map_some, alone, whole]
    refine ⟨rfl, ?_, behind⟩
    simp only [Cut.before, Piece.before, Closed.read_before]

/-- A construct that the search steps over inside of a body is closed when the body is read on its
own, and ends where it ends in the whole text. -/
theorem cutConstruct_cut {opening : Opening} (nested : outer ≠ [])
    (found : closing? (opening.brace?.toList ++ outer) false (text ++ '}' :: rest) = some rest) :
    (cutConstruct opening text).piece.isClosed ∧
      cutConstruct opening (text ++ '}' :: rest) =
        (cutConstruct opening text).before ('}' :: rest) ∧
      closing? outer (cutConstruct opening text).glued
        ((cutConstruct opening text).rest ++ '}' :: rest) = some rest := by
  cases opening with
  | enclosing => exact ⟨rfl, rfl, found⟩
  | dollar => exact ⟨rfl, rfl, found⟩
  | value tag => exact ⟨rfl, rfl, found⟩
  | joined => exact cutBody_cut _ _ (fun _ => rfl) (fun _ => rfl) nested found
  | present tag =>
    exact cutBody_cut _ _ (fun closed => by rw [Piece.before, Closed.read_before]) (fun _ => rfl)
      nested found
  | absent tag =>
    exact cutBody_cut _ _ (fun closed => by rw [Piece.before, Closed.read_before]) (fun _ => rfl)
      nested found
  | branch tag =>
    obtain ⟨yes, alone, whole, behind⟩ := close?_cut_first nested found
    simp only [cutConstruct, alone, whole]
    exact cutElse_cut nested behind

end Cuts

namespace Search

variable {brace : Brace} {outer : List Brace} {glued : Bool} {text : List Char}

theorem reaches_of_closing? {rest : List Char}
    (found : closing? (brace :: outer) glued text = some rest) :
    Reaches ⟨brace :: outer, glued, text⟩ ⟨[], false, rest⟩ := by
  obtain ⟨final, reaches⟩ := closing?_eq_some_iff.1 found
  rcases Relation.ReflTransGen.cases_tail reaches with same | ⟨last, -, next⟩
  · simp at same
  · generalize there : Search.mk [] final rest = final at next
    cases next with
    | step step =>
      obtain ⟨none, rfl, rfl⟩ := Search.mk.inj there
      obtain ⟨rfl, rfl⟩ := List.append_eq_nil_iff.1 none.symm
      obtain ⟨-, rfl⟩ := step.of_nil
      exact reaches

theorem reaches_of_close? {closed : Closed} (found : close? brace text = some closed) :
    Reaches ⟨brace :: outer, false, text⟩ ⟨outer, false, closed.rest⟩ :=
  (reaches_of_closing? (close?_eq_some_iff.1 found).2).under outer

theorem reaches_of_close?_first {yes : Closed} (found : close? .structural text = some yes) :
    Reaches ⟨.first :: outer, false, text⟩ (behindFirst outer yes.rest) := by
  have ends : closing? ([] ++ [.structural]) false text = some yes.rest :=
    (close?_eq_some_iff.1 found).2
  exact reaches_behindFirst ends

theorem reaches_cutBody {opening : Opening} {piece : Closed → Piece} {after : List Char}
    (closed : (cutBody opening piece after).piece.isClosed) :
    Reaches ⟨.literal :: outer, false, after⟩
      ⟨outer, (cutBody opening piece after).glued, (cutBody opening piece after).rest⟩ := by
  unfold cutBody at closed ⊢
  split at closed
  · rename_i found
    exact reaches_of_close? found
  · contradiction

/-- The search steps over a closed construct. -/
theorem reaches_cutConstruct {opening : Opening} {after : List Char}
    (closed : (cutConstruct opening after).piece.isClosed) :
    Reaches ⟨opening.brace?.toList ++ outer, false, after⟩
      ⟨outer, (cutConstruct opening after).glued, (cutConstruct opening after).rest⟩ := by
  cases opening with
  | enclosing => exact .refl
  | dollar => exact .refl
  | value tag => exact .refl
  | joined => exact reaches_cutBody closed
  | present tag => exact reaches_cutBody closed
  | absent tag => exact reaches_cutBody closed
  | branch tag =>
    simp only [cutConstruct] at closed ⊢
    split at closed
    · rename_i yes first
      have reaches : Reaches ⟨.first :: outer, false, after⟩ _ := reaches_of_close?_first first
      simp only [cutElse, behindFirst] at closed reaches ⊢
      split at closed
      · rename_i other
        rw [other] at reaches
        exact reaches
      · rename_i other
        rw [other] at reaches
        split at closed
        · contradiction
        · rename_i second
          exact reaches.trans (reaches_of_close? second)
    · contradiction

end Search

/-- The braces between a place and the end of its body: literal text counts plain pairs of braces,
and a branch takes them for blocks. -/
def Mode.stack (mode : Mode) (pairs : ℕ) : List Brace :=
  match mode with
  | .literal _ => List.replicate (pairs + 1) .literal
  | .structural => [.structural]

/-- The innermost braces of a search at a place in a body. The brace of a first branch is told from
that of another one by the search only. -/
def Mode.Holds (mode : Mode) (pairs : ℕ) (stack : List Brace) : Prop :=
  match mode with
  | .literal _ => List.replicate (pairs + 1) .literal <+: stack
  | .structural => ∃ brace outer, stack = brace :: outer ∧ brace.quotes

theorem Mode.exists_stack_eq_cons (mode : Mode) (pairs : ℕ) :
    ∃ outer, mode.stack pairs = mode.brace :: outer := by
  cases mode with
  | literal => exact ⟨_, List.replicate_succ⟩
  | structural => exact ⟨[], rfl⟩

theorem Mode.stack_ne_nil (mode : Mode) (pairs : ℕ) : mode.stack pairs ≠ [] := by
  obtain ⟨outer, same⟩ := mode.exists_stack_eq_cons pairs
  rw [same]
  exact List.cons_ne_nil _ _

theorem Mode.Holds.exists_cons {mode : Mode} {pairs : ℕ} {stack : List Brace}
    (holds : mode.Holds pairs stack) :
    ∃ brace outer, stack = brace :: outer ∧ (brace.quotes ↔ mode = .structural) := by
  cases mode with
  | literal =>
    obtain ⟨outer, rfl⟩ := holds
    exact ⟨.literal, _, rfl, by simp [Brace.quotes]⟩
  | structural =>
    obtain ⟨brace, outer, rfl, quotes⟩ := holds
    exact ⟨brace, outer, rfl, by simp [quotes]⟩

/-- The first piece of a text that is cut off in front of the closing brace of its body, seen in the
whole text. Only a last `$` is another piece there. -/
def Cut.inWhole (text behind : List Char) (cut : Cut) : Cut :=
  if text = ['$'] then ⟨.dollar, false, behind⟩ else cut.before behind

/-- What a quoted run holds does not depend on what follows it. -/
private theorem take_quoted {text after : List Char} (shorter : after.length < text.length)
    (behind : List Char) :
    (text ++ behind).take ((text ++ behind).length - (after ++ behind).length - 1) =
      text.take (text.length - after.length - 1) := by
  have length : (text ++ behind).length - (after ++ behind).length - 1 =
      text.length - after.length - 1 := by
    simp only [List.length_append]
    omega
  rw [length, List.take_append_of_le_length]
  omega

section Pieces

variable {glued : Bool} {text rest : List Char}

theorem piece?_quoted_cut
    (found : closing? [.structural] glued ('"' :: text ++ '}' :: rest) = some rest) :
    ∃ inside after, piece? .structural glued ('"' :: text) = some ⟨.quoted inside, false, after⟩ ∧
      piece? .structural glued ('"' :: text ++ '}' :: rest) =
        some ⟨.quoted inside, false, after ++ '}' :: rest⟩ ∧
      quoteEnd? (text ++ '}' :: rest) = some (after ++ '}' :: rest) ∧
      closing? [.structural] false (after ++ '}' :: rest) = some rest := by
  rw [List.cons_append, closing?_cons (by decide) (by decide) (by decide), if_pos (by decide)]
    at found
  obtain ⟨behind, ends, found⟩ := Option.bind_eq_some_iff.1 found
  obtain ⟨after, rfl⟩ := closing?_suffix found
  have alone := quoteEnd?_append_brace ends
  refine ⟨text.take (text.length - after.length - 1), after, ?_, ?_, ends, found⟩
  · rw [piece?_cons (by decide), if_pos (by decide), alone]
  · rw [List.cons_append, piece?_cons (by decide), if_pos (by decide), ends]
    simp only [take_quoted (quoteEnd?_length_lt alone)]

theorem piece?_block_cut
    (found : closing? [.structural] glued ('{' :: text ++ '}' :: rest) = some rest) :
    ∃ closed : Closed, piece? .structural glued ('{' :: text) =
        some ⟨.block (closed.read .structural), false, closed.rest⟩ ∧
      piece? .structural glued ('{' :: text ++ '}' :: rest) =
        some ⟨.block ((closed.read .structural).before ('}' :: rest)), false,
          closed.rest ++ '}' :: rest⟩ ∧
      close? .structural (text ++ '}' :: rest) = some ⟨closed.body, closed.rest ++ '}' :: rest⟩ ∧
      closing? [.structural] false (closed.rest ++ '}' :: rest) = some rest := by
  have inner : closing? [.structural, .structural] false (text ++ '}' :: rest) = some rest :=
    (closing?_of_step (.opened (text ++ '}' :: rest)) []).symm.trans found
  obtain ⟨closed, alone, whole, behind⟩ := close?_cut (List.cons_ne_nil _ _) inner
  refine ⟨closed, ?_, ?_, whole, behind⟩
  · rw [piece?_cons (by decide), if_neg (by decide), if_pos (by decide), alone]
  · rw [List.cons_append, piece?_cons (by decide), if_neg (by decide), if_pos (by decide), whole,
      Closed.read_before]

end Pieces

/-- Reading and the search go on alike behind a piece of a body: the rest of the body ends at the same
brace, and the search steps over the piece. A single character may change which braces are open. -/
def Mode.Onward (mode : Mode) (pairs : ℕ) (glued : Bool) (text rest : List Char) (cut : Cut) : Prop :=
  ∃ pairs', closing? (mode.stack pairs') cut.glued (cut.rest ++ '}' :: rest) = some rest ∧
    ∀ stack, mode.Holds pairs stack → ∃ stack', mode.Holds pairs' stack' ∧
      Search.Reaches ⟨stack, glued, text ++ '}' :: rest⟩ ⟨stack', cut.glued, cut.rest ++ '}' :: rest⟩ ∧
      ((∀ c, cut.piece ≠ .plain c) → stack' = stack)

/-- Going on is immediate behind a piece that leaves the braces as they are. -/
theorem Mode.Onward.of_same {mode : Mode} {pairs : ℕ} {glued : Bool} {text rest : List Char} {cut : Cut}
    (found : closing? (mode.stack pairs) cut.glued (cut.rest ++ '}' :: rest) = some rest)
    (reaches : ∀ brace outer, (brace.quotes ↔ mode = .structural) →
      Search.Reaches ⟨brace :: outer, glued, text ++ '}' :: rest⟩
        ⟨brace :: outer, cut.glued, cut.rest ++ '}' :: rest⟩) :
    mode.Onward pairs glued text rest cut := by
  refine ⟨pairs, found, fun stack holds => ⟨stack, holds, ?_, fun _ => rfl⟩⟩
  obtain ⟨brace, outer, rfl, quotes⟩ := holds.exists_cons
  exact reaches brace outer quotes

/-- A character that opens nothing leaves a search open at a place of the same kind. -/
theorem Mode.onward_plain {mode : Mode} {glued : Bool} {c : Char} {text rest : List Char}
    {pairs : ℕ} (noEscape : c ≠ '\\') (noQuote : ¬(mode = .structural ∧ c = '"'))
    (noBlock : ¬(mode = .structural ∧ c = '{'))
    (nothing : scanOpening? glued (c :: (text ++ '}' :: rest)) = none)
    (found : closing? (mode.stack pairs) glued (c :: (text ++ '}' :: rest)) = some rest) :
    mode.Onward pairs glued (c :: text) rest ⟨.plain c, glues c, text⟩ := by
  have past : ∀ glued, closing? [] glued (text ++ '}' :: rest) ≠ some rest := by
    intro glued same
    rw [closing?_nil] at same
    have := congrArg List.length (Option.some.inj same)
    simp only [List.length_append, List.length_cons] at this
    omega
  have noPlain : ¬∀ d, Piece.plain c ≠ .plain d := fun none => none c rfl
  by_cases opens : c = '{'
  · subst opens
    cases mode with
    | structural => exact (noBlock ⟨rfl, rfl⟩).elim
    | literal =>
      have opened : Step .literal glued ('{' :: (text ++ '}' :: rest)) _ false _ := .opened _
      refine ⟨pairs + 1, (closing?_of_step opened _).symm.trans found, ?_⟩
      rintro _ ⟨outer, rfl⟩
      exact ⟨_, List.prefix_append _ outer, .single (.step opened), fun none => (noPlain none).elim⟩
  by_cases closes : c = '}'
  · subst closes
    cases mode with
    | structural =>
      have closed : Step .structural glued ('}' :: (text ++ '}' :: rest)) [] false _ :=
        .closed nofun
      exact (past false ((closing?_of_step closed []).symm.trans found)).elim
    | literal =>
      have closed : Step .literal glued ('}' :: (text ++ '}' :: rest)) [] false _ := .closed nofun
      cases pairs with
      | zero => exact (past false ((closing?_of_step closed []).symm.trans found)).elim
      | succ pairs =>
        refine ⟨pairs, (closing?_of_step closed _).symm.trans found, ?_⟩
        rintro _ ⟨outer, rfl⟩
        exact ⟨_, List.prefix_append _ outer, .single (.step closed),
          fun none => (noPlain none).elim⟩
  obtain ⟨outer, stacked⟩ := mode.exists_stack_eq_cons pairs
  have step : ∀ brace : Brace, (brace.quotes ↔ mode = .structural) →
      Step brace glued (c :: (text ++ '}' :: rest)) [brace] (glues c) (text ++ '}' :: rest) :=
    fun brace quotes => .plain noEscape opens closes (fun quote => noQuote ⟨quotes.1 quote.1, quote.2⟩)
      nothing
  refine .of_same ?_ fun brace outer quotes => .single (.step (step brace quotes))
  rw [stacked] at found ⊢
  exact (closing?_of_step (step mode.brace (by cases mode <;> simp [Mode.brace, Brace.quotes]))
    outer).symm.trans found

theorem Piece.isClosed_before (piece : Piece) (behind : List Char) :
    (piece.before behind).isClosed = piece.isClosed := by
  cases piece <;> rfl

/-- A construct in a body that the search finds the end of. -/
theorem piece?_construct_cut {mode : Mode} {glued : Bool} {c : Char} {text rest after : List Char}
    {pairs : ℕ} {opening : Opening} (noEscape : c ≠ '\\')
    (noQuote : ¬(mode = .structural ∧ c = '"')) (noBlock : ¬(mode = .structural ∧ c = '{'))
    (opened : scanOpening? glued (c :: (text ++ '}' :: rest)) = some (opening, after))
    (found : closing? (mode.stack pairs) glued (c :: (text ++ '}' :: rest)) = some rest) :
    ∃ cut, piece? mode glued (c :: text) = some cut ∧ cut.piece.isClosed ∧
      piece? mode glued (c :: (text ++ '}' :: rest)) =
        some (cut.inWhole (c :: text) ('}' :: rest)) ∧
      mode.Onward pairs glued (c :: text) rest cut := by
  obtain ⟨outer, stacked⟩ := mode.exists_stack_eq_cons pairs
  rw [piece?_of_opening noEscape noQuote noBlock, piece?_of_opening noEscape noQuote noBlock, opened]
  rw [stacked, closing?_of_step (.construct opened) outer, List.append_assoc,
    List.singleton_append, ← stacked] at found
  obtain ⟨after, rfl⟩ : '}' :: rest <:+ after := by
    rw [stacked] at found
    rcases leaves : opening.brace? with _ | brace
    · rw [leaves] at found
      exact closing?_suffix found
    · rw [leaves] at found
      exact closing?_suffix found
  have alone := scanOpening?_of_append_brace opened
  have head : ∀ brace outer, Search.Next ⟨brace :: outer, glued, c :: (text ++ '}' :: rest)⟩
      ⟨opening.brace?.toList ++ brace :: outer, false, after ++ '}' :: rest⟩ := by
    intro brace outer
    have step : Search.Next ⟨brace :: outer, _, _⟩ _ := .step (.construct opened)
    rwa [List.append_assoc] at step
  by_cases last : c = '$' ∧ text = []
  · obtain ⟨rfl, rfl⟩ := last
    obtain ⟨rfl, same⟩ := Prod.mk.inj (Option.some.inj opened)
    obtain rfl : after = [] := by simpa using same.symm
    exact ⟨_, rfl, rfl, rfl, .of_same found fun brace outer _ => .single (head brace outer)⟩
  · rw [if_neg last] at alone
    obtain ⟨closed, whole, behind⟩ := cutConstruct_cut (mode.stack_ne_nil pairs) found
    have noDollar : c :: text ≠ ['$'] := by simpa using last
    simp only [alone, whole, Cut.inWhole, if_neg noDollar]
    refine ⟨_, rfl, closed, rfl, .of_same behind fun brace outer _ => ?_⟩
    have reaches : Search.Reaches ⟨opening.brace?.toList ++ brace :: outer, false, after ++ '}' :: rest⟩
        ⟨brace :: outer, (cutConstruct opening (after ++ '}' :: rest)).glued, _⟩ :=
      Search.reaches_cutConstruct (by rw [whole, Cut.before, Piece.isClosed_before]; exact closed)
    rw [whole] at reaches
    exact .head (head brace outer) reaches

/-- What a piece is in a body that the search finds the end of: it is closed, it ends where it ends
in the whole text, and reading goes on as the search does. -/
theorem piece?_cut {mode : Mode} {glued : Bool} {text rest : List Char} {pairs : ℕ}
    (nonempty : text ≠ [])
    (found : closing? (mode.stack pairs) glued (text ++ '}' :: rest) = some rest) :
    ∃ cut, piece? mode glued text = some cut ∧ cut.piece.isClosed ∧
      piece? mode glued (text ++ '}' :: rest) = some (cut.inWhole text ('}' :: rest)) ∧
      mode.Onward pairs glued text rest cut := by
  obtain ⟨c, text, rfl⟩ := List.exists_cons_of_ne_nil nonempty
  obtain ⟨outer, stacked⟩ := mode.exists_stack_eq_cons pairs
  by_cases escape : c = '\\'
  · subst escape
    rw [stacked, List.cons_append] at found
    rcases text with _ | ⟨d, text⟩
    · have past := (closing?_suffix ((closing?_of_step (.escaped '}' rest) outer).symm.trans
        found)).length_le
      simp only [List.length_cons] at past
      omega
    · refine ⟨⟨.escaped d, glues d, text⟩, rfl, rfl, rfl, .of_same ?_ ?_⟩
      · rw [stacked]
        exact (closing?_of_step (.escaped d (text ++ '}' :: rest)) outer).symm.trans found
      · exact fun brace outer _ => .single (.step (.escaped d (text ++ '}' :: rest)))
  by_cases quote : mode = .structural ∧ c = '"'
  · obtain ⟨rfl, rfl⟩ := quote
    obtain ⟨inside, after, alone, whole, ends, behind⟩ := piece?_quoted_cut found
    refine ⟨_, alone, rfl, ?_, .of_same behind fun brace outer quotes => ?_⟩
    · rw [whole, Cut.inWhole, if_neg (by simp)]
      rfl
    · exact .single (.step (.quoted (quotes.2 rfl) ends))
  by_cases block : mode = .structural ∧ c = '{'
  · obtain ⟨rfl, rfl⟩ := block
    obtain ⟨closed, alone, whole, ends, behind⟩ := piece?_block_cut found
    refine ⟨_, alone, rfl, ?_, .of_same behind fun brace outer quotes => ?_⟩
    · rw [whole, Cut.inWhole, if_neg (by simp)]
      rfl
    · have inner : brace.inner = .structural := by
        cases brace with
        | literal => simp [Brace.quotes] at quotes
        | structural => rfl
        | first => rfl
      rw [← inner] at ends
      exact .head (.step (.opened _)) (Search.reaches_of_close? ends)
  rcases opened : scanOpening? glued (c :: (text ++ '}' :: rest)) with _ | ⟨opening, after⟩
  · have alone : scanOpening? glued (c :: text) = none := scanOpening?_none_of_append_brace opened
    rw [List.cons_append, piece?_of_opening escape quote block,
      piece?_of_opening escape quote block, opened, alone]
    refine ⟨_, rfl, rfl, ?_, Mode.onward_plain escape quote block opened found⟩
    have noDollar : c :: text ≠ ['$'] := by
      rintro same
      obtain ⟨rfl, rfl⟩ := List.cons.inj same
      contradiction
    rw [Cut.inWhole, if_neg noDollar]
    rfl
  · exact piece?_construct_cut escape quote block opened found

/-- A search stands at the start of a body, whose end it finds. -/
def Body.Entered (here : Search) (outer : List Brace) (body : Body) : Prop :=
  ∃ bottom inner, (bottom.quotes ↔ body.mode = .structural) ∧
    here.Reaches ⟨bottom :: outer, false, body.text ++ body.behind⟩ ∧
    close? body.mode.brace (body.text ++ body.behind) = some inner ∧ body = inner.read body.mode

theorem Body.Entered.of_close? {here : Search} {outer : List Brace} {text : List Char}
    {closed : Closed} {mode : Mode} {bottom : Brace} (quotes : bottom.quotes ↔ mode = .structural)
    (found : close? mode.brace text = some closed)
    (reaches : here.Reaches ⟨bottom :: outer, false, text⟩) :
    (closed.read mode).Entered here outer := by
  obtain ⟨rfl, -⟩ := close?_eq_some_iff.1 found
  exact ⟨bottom, closed, quotes, reaches, found, rfl⟩

theorem Body.Entered.head {here there : Search} {outer : List Brace} {body : Body}
    (next : here.Next there) (entered : body.Entered there outer) : body.Entered here outer := by
  obtain ⟨bottom, inner, quotes, reaches, found, same⟩ := entered
  exact ⟨bottom, inner, quotes, .head next reaches, found, same⟩

theorem Body.Entered.of_cutBody {opening : Opening} {tag : List Char}
    {piece : List Char → Body → Piece} {after : List Char} {body : Body} (outer : List Brace)
    (bodies : ∀ tag body, (piece tag body).bodies = [body])
    (inside : body ∈ (cutBody opening (fun closed => piece tag (closed.read (.literal false)))
      after).piece.bodies) :
    body.Entered ⟨.literal :: outer, false, after⟩ outer := by
  unfold cutBody at inside
  split at inside
  · rename_i found
    rw [bodies, List.mem_singleton] at inside
    subst inside
    exact .of_close? (by simp [Brace.quotes]) found .refl
  · simp [Piece.bodies] at inside

/-- The search comes into the bodies of a construct. -/
theorem Body.Entered.of_cutConstruct {opening : Opening} {after : List Char} {body : Body}
    (outer : List Brace) (inside : body ∈ (cutConstruct opening after).piece.bodies) :
    body.Entered ⟨opening.brace?.toList ++ outer, false, after⟩ outer := by
  cases opening with
  | enclosing => simp [cutConstruct, Piece.bodies] at inside
  | dollar => simp [cutConstruct, Piece.bodies] at inside
  | value tag => simp [cutConstruct, Piece.bodies] at inside
  | joined =>
    simp only [cutConstruct, cutBody] at inside
    split at inside <;> simp [Piece.bodies] at inside
  | present tag => exact .of_cutBody outer (fun _ _ => rfl) inside
  | absent tag => exact .of_cutBody outer (fun _ _ => rfl) inside
  | branch tag =>
    simp only [cutConstruct] at inside
    split at inside
    · rename_i yes first
      have firstEntered : (yes.read .structural).Entered ⟨.first :: outer, false, after⟩ outer :=
        .of_close? (by simp [Brace.quotes]) first .refl
      simp only [cutElse] at inside
      split at inside
      · rw [Piece.bodies, List.mem_singleton] at inside
        exact inside ▸ firstEntered
      · rename_i other
        split at inside
        · rw [Piece.bodies, List.mem_singleton] at inside
          exact inside ▸ firstEntered
        · rename_i second
          have reaches : Search.Reaches ⟨.first :: outer, false, after⟩ _ :=
            Search.reaches_of_close?_first first
          rw [Search.behindFirst, other] at reaches
          simp only [Piece.bodies, List.mem_cons, List.not_mem_nil, or_false] at inside
          rcases inside with rfl | rfl
          · exact firstEntered
          · exact .of_close? (by simp [Brace.quotes]) second reaches
    · simp [Piece.bodies] at inside

/-- The search comes into the bodies of a closed piece. -/
theorem Body.Entered.of_piece? {mode : Mode} {glued : Bool} {text : List Char} {cut : Cut}
    {body : Body} {brace : Brace} (outer : List Brace) (quotes : brace.quotes ↔ mode = .structural)
    (found : piece? mode glued text = some cut) (closed : cut.piece.isClosed)
    (inside : body ∈ cut.piece.bodies) :
    body.Entered ⟨brace :: outer, glued, text⟩ (brace :: outer) := by
  rcases text with _ | ⟨c, text⟩
  · contradiction
  by_cases escape : c = '\\'
  · subst escape
    rcases text with _ | ⟨d, text⟩
    · obtain rfl := Option.some.inj found
      contradiction
    · obtain rfl := Option.some.inj found
      simp [Piece.bodies] at inside
  by_cases quote : mode = .structural ∧ c = '"'
  · obtain ⟨rfl, rfl⟩ := quote
    rw [piece?_cons escape, if_pos (by decide)] at found
    split at found
    · obtain rfl := Option.some.inj found
      simp [Piece.bodies] at inside
    · obtain rfl := Option.some.inj found
      contradiction
  by_cases block : mode = .structural ∧ c = '{'
  · obtain ⟨rfl, rfl⟩ := block
    rw [piece?_cons escape, if_neg (by decide), if_pos (by decide)] at found
    split at found
    · rename_i ends
      obtain rfl := Option.some.inj found
      rw [Piece.bodies, List.mem_singleton] at inside
      subst inside
      have inner : brace.inner.quotes ↔ Mode.structural = .structural := by
        cases brace <;> simp_all [Brace.quotes, Brace.inner]
      exact .head (.step (.opened text)) (.of_close? inner ends .refl)
    · obtain rfl := Option.some.inj found
      contradiction
  rw [piece?_of_opening escape quote block] at found
  split at found
  · obtain rfl := Option.some.inj found
    simp [Piece.bodies] at inside
  · rename_i opened
    obtain rfl := Option.some.inj found
    have step : Search.Next ⟨brace :: outer, _, _⟩ _ := .step (.construct opened)
    rw [List.append_assoc] at step
    exact .head step (.of_cutConstruct _ inside)

end TitleBar.Template
