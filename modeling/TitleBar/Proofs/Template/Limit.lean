import TitleBar.Proofs.Template.Opaque

/-! # The limit of nesting

A template lies at level 0, and each text that its evaluation enters one level below the text that
holds it: a body or a branch that is taken, a quoted run, a block. Expansion is aborted exactly where
this leads below the limit. In all other cases the limit cannot be noticed, and without a limit no
expansion is aborted at all.
-/

namespace TitleBar.Template

/-- The text one level below that the evaluation of the first piece of a template enters, if any. -/
def entered? (isEmpty : String → Bool) : Template → Option Template
  | .present tag body _ => if isEmpty (String.ofList tag) then none else some body
  | .absent tag body _ => if isEmpty (String.ofList tag) then some body else none
  | .branch tag yes _ => if isEmpty (String.ofList tag) then none else some yes
  | .branches tag yes no _ => some (if isEmpty (String.ofList tag) then no else yes)
  | .nested body _ => some body
  | .done | .text .. | .enclosing _ | .value .. | .joined .. => none

/-- What follows the first piece of a template. -/
def behind? : Template → Option Template
  | .done => none
  | .text _ rest | .enclosing rest | .value _ rest | .joined _ rest | .present _ _ rest
  | .absent _ _ rest | .branch _ _ rest | .branches _ _ _ rest | .nested _ rest => some rest

/-- The evaluation of a text enters another one right below it. -/
inductive Inner (isEmpty : String → Bool) : Template → Template → Prop
  | first {text inner : Template} (enters : entered? isEmpty text = some inner) :
    Inner isEmpty text inner
  | later {text rest inner : Template} (behind : behind? text = some rest)
    (inside : Inner isEmpty rest inner) : Inner isEmpty text inner

/-- The evaluation of a text enters another one that lies some levels below it. -/
inductive Enters (isEmpty : String → Bool) : ℕ → Template → Template → Prop
  | here (text : Template) : Enters isEmpty 0 text text
  | deeper {level : ℕ} {text inner deep : Template} (inside : Inner isEmpty text inner)
    (enters : Enters isEmpty level inner deep) : Enters isEmpty (level + 1) text deep

/-- The evaluation of a text goes down to some level below it. -/
def Descends (isEmpty : String → Bool) (level : ℕ) (text : Template) : Prop :=
  ∃ deep, Enters isEmpty level text deep

theorem descends_zero (isEmpty : String → Bool) (text : Template) : Descends isEmpty 0 text :=
  ⟨text, .here text⟩

/-- A level is reached through the first piece of a text or behind it. -/
theorem descends_succ_iff {isEmpty : String → Bool} {level : ℕ} {text : Template} :
    Descends isEmpty (level + 1) text ↔
      (∃ inner, entered? isEmpty text = some inner ∧ Descends isEmpty level inner) ∨
        ∃ rest, behind? text = some rest ∧ Descends isEmpty (level + 1) rest := by
  constructor
  · rintro ⟨deep, _ | ⟨inside, enters⟩⟩
    cases inside with
    | first first => exact .inl ⟨_, first, deep, enters⟩
    | later behind inside => exact .inr ⟨_, behind, deep, .deeper inside enters⟩
  · rintro (⟨inner, first, deep, enters⟩ | ⟨rest, behind, deep, _ | ⟨inside, enters⟩⟩)
    · exact ⟨deep, .deeper (.first first) enters⟩
    · exact ⟨deep, .deeper (.later behind inside) enters⟩

theorem descends_of_plain {isEmpty : String → Bool} {level : ℕ} {text rest : Template}
    (plain : entered? isEmpty text = none) (behind : behind? text = some rest) :
    Descends isEmpty (level + 1) text ↔ Descends isEmpty (level + 1) rest := by
  rw [descends_succ_iff, plain, behind]
  simp

theorem descends_of_construct {isEmpty : String → Bool} {level : ℕ} {text inner rest : Template}
    (enters : entered? isEmpty text = some inner) (behind : behind? text = some rest) :
    Descends isEmpty (level + 1) text ↔
      Descends isEmpty level inner ∨ Descends isEmpty (level + 1) rest := by
  rw [descends_succ_iff, enters, behind]
  simp

theorem not_descends_done (isEmpty : String → Bool) (level : ℕ) :
    ¬Descends isEmpty (level + 1) .done := by
  rw [descends_succ_iff]
  simp [entered?, behind?]

/-- An expansion under a limit beside the one without: it is aborted if it would go too deep, and else
they are the same. -/
structure Limited (limit : ℕ) (deep : Prop) (limited free : Expansion) : Prop where
  completes : ∃ shown, free.run.answer = .ok shown
  aborted : deep → limited.run.answer = .error (.tooDeep limit)
  same : ¬deep → limited = free

namespace Limited

variable {limit : ℕ} {deep : Prop} {limited free : Expansion}

theorem pure (shown : List Char) : Limited limit False (Pure.pure shown) (Pure.pure shown) where
  completes := ⟨shown, rfl⟩
  aborted := False.elim
  same _ := rfl

theorem congr {deeper : Prop} (expansion : Limited limit deep limited free) (iff : deeper ↔ deep) :
    Limited limit deeper limited free := by
  rwa [propext iff]

theorem ask_bind {question : Trace String} {behind freely : String → Expansion}
    (expansion : Limited limit deep (behind question.answer) (freely question.answer)) :
    Limited limit deep (liftM question >>= behind) (liftM question >>= freely) where
  completes := expansion.completes
  aborted := expansion.aborted
  same shallow := by
    change (liftM question >>= fun _ => behind question.answer : Expansion) =
      liftM question >>= fun _ => freely question.answer
    rw [expansion.same shallow]

theorem mapM_bind {ask : String → Trace String} {tags : List (List Char)}
    {behind freely : List String → Expansion}
    (expansion : ∀ values, Limited limit deep (behind values) (freely values)) :
    Limited limit deep ((tags.mapM fun tag => liftM (ask (String.ofList tag))) >>= behind)
      ((tags.mapM fun tag => liftM (ask (String.ofList tag))) >>= freely) := by
  induction tags generalizing behind freely with
  | nil => exact expansion []
  | cons tag tags ih =>
    rw [List.mapM_cons, bind_assoc, bind_assoc]
    refine ask_bind ?_
    rw [bind_assoc, bind_assoc]
    refine ih fun values => ?_
    rw [pure_bind, pure_bind]
    exact expansion _

theorem map (expansion : Limited limit deep limited free) (front : List Char → List Char) :
    Limited limit deep (do return front (← limited)) (do return front (← free)) where
  completes := by
    obtain ⟨shown, completes⟩ := expansion.completes
    refine ⟨front shown, ?_⟩
    rw [ExceptT.run_bind, Trace.answer_bind, completes]
    rfl
  aborted tooDeep := by
    rw [ExceptT.run_bind, Trace.answer_bind, expansion.aborted tooDeep]
    rfl
  same shallow := by rw [expansion.same shallow]

/-- A construct and what follows it. -/
theorem append {deeper : Prop} {rest restFree : Expansion}
    (front : Limited limit deep limited free) (behind : Limited limit deeper rest restFree) :
    Limited limit (deep ∨ deeper) (do return (← limited) ++ (← rest))
      (do return (← free) ++ (← restFree)) where
  completes := by
    obtain ⟨shown, completes⟩ := front.completes
    obtain ⟨more, ends⟩ := (behind.map (shown ++ ·)).completes
    refine ⟨more, ?_⟩
    rw [ExceptT.run_bind, Trace.answer_bind, completes]
    exact ends
  aborted tooDeep := by
    rw [ExceptT.run_bind, Trace.answer_bind]
    by_cases first : deep
    · rw [front.aborted first]
      rfl
    · obtain ⟨shown, completes⟩ := front.completes
      rw [front.same first, completes]
      exact (behind.map (shown ++ ·)).aborted (tooDeep.resolve_left first)
  same shallow := by
    rw [not_or] at shallow
    rw [front.same shallow.1, behind.same shallow.2]

end Limited

variable (ask : String → Trace String)

/-- The expansion of a text under a limit beside the one without. -/
def LimitedAt (limit : ℕ) (text : Template) : Prop :=
  ∀ left bound, Limited limit (Descends (empties ask) (left + 1) text)
    (expandAt ask (.limited limit left) bound text) (expandAt ask .unlimited bound text)

variable {ask} {limit : ℕ}

/-- Where no level is left, no text below is entered. -/
theorem LimitedAt.below {inner : Template} (expansion : LimitedAt ask limit inner) (left : ℕ)
    (bound : List Char) :
    Limited limit (Descends (empties ask) left inner)
      (do expandAt ask (← (Depth.limited limit left).descend) bound inner)
      (do expandAt ask (← Depth.unlimited.descend) bound inner) := by
  cases left with
  | zero =>
    have descends : Descends (empties ask) 0 inner := descends_zero _ _
    exact ⟨(expansion 0 bound).completes, fun _ => rfl, fun none => (none descends).elim⟩
  | succ left => exact expansion left bound

/-- A construct that enters a text, and what follows it. -/
theorem LimitedAt.construct {text inner rest : Template} (body : LimitedAt ask limit inner)
    (behind : LimitedAt ask limit rest) (enters : entered? (empties ask) text = some inner)
    (follows : behind? text = some rest) (left : ℕ) (inside bound : List Char) :
    Limited limit (Descends (empties ask) (left + 1) text)
      (do
        let shown ← expandAt ask (← (Depth.limited limit left).descend) inside inner
        return shown ++ (← expandAt ask (.limited limit left) bound rest))
      (do
        let shown ← expandAt ask (← Depth.unlimited.descend) inside inner
        return shown ++ (← expandAt ask .unlimited bound rest)) := by
  rw [← bind_assoc, ← bind_assoc]
  exact ((body.below left inside).append (behind left bound)).congr
    (descends_of_construct enters follows)

/-- A construct that shows nothing, and what follows it. -/
theorem LimitedAt.skip {text rest : Template} (behind : LimitedAt ask limit rest)
    (plain : entered? (empties ask) text = none) (follows : behind? text = some rest) (left : ℕ)
    (bound front : List Char) :
    Limited limit (Descends (empties ask) (left + 1) text)
      (do return front ++ (← expandAt ask (.limited limit left) bound rest))
      (do return front ++ (← expandAt ask .unlimited bound rest)) :=
  ((behind left bound).map (front ++ ·)).congr (descends_of_plain plain follows)

/-- Each piece of a template is expanded like without a limit, unless that leads too deep. -/
theorem expandAt_limited (ask : String → Trace String) (limit : ℕ) (template : Template) :
    LimitedAt ask limit template := by
  induction template with
  | done =>
    intro left bound
    exact (Limited.pure []).congr (iff_false_intro (not_descends_done _ _))
  | text c rest ih => exact fun left bound => ih.skip rfl rfl left bound [c]
  | enclosing rest ih => exact fun left bound => ih.skip rfl rfl left bound bound
  | value tag rest ih => exact fun left bound => .ask_bind (ih.skip rfl rfl left bound _)
  | joined tags rest ih =>
    exact fun left bound => .mapM_bind fun values => ih.skip rfl rfl left bound _
  | present tag body rest bodyIh restIh =>
    intro left bound
    refine .ask_bind ?_
    by_cases empty : (ask (String.ofList tag)).answer.isEmpty
    · have plain : entered? (empties ask) (.present tag body rest) = none := if_pos empty
      simp only [empty, if_true, pure_bind]
      exact restIh.skip plain rfl left bound []
    · have enters : entered? (empties ask) (.present tag body rest) = some body := if_neg empty
      simp only [empty, if_false, Bool.false_eq_true]
      exact bodyIh.construct restIh enters rfl left _ bound
  | absent tag body rest bodyIh restIh =>
    intro left bound
    refine .ask_bind ?_
    by_cases empty : (ask (String.ofList tag)).answer.isEmpty
    · have enters : entered? (empties ask) (.absent tag body rest) = some body := if_pos empty
      simp only [empty, if_true]
      exact bodyIh.construct restIh enters rfl left bound bound
    · have plain : entered? (empties ask) (.absent tag body rest) = none := if_neg empty
      simp only [empty, if_false, Bool.false_eq_true, pure_bind]
      exact restIh.skip plain rfl left bound []
  | branch tag yes rest yesIh restIh =>
    intro left bound
    refine .ask_bind ?_
    by_cases empty : (ask (String.ofList tag)).answer.isEmpty
    · have plain : entered? (empties ask) (.branch tag yes rest) = none := if_pos empty
      simp only [empty, if_true, pure_bind]
      exact restIh.skip plain rfl left bound []
    · have enters : entered? (empties ask) (.branch tag yes rest) = some yes := if_neg empty
      simp only [empty, if_false, Bool.false_eq_true]
      exact yesIh.construct restIh enters rfl left bound bound
  | branches tag yes no rest yesIh noIh restIh =>
    intro left bound
    refine .ask_bind ?_
    by_cases empty : (ask (String.ofList tag)).answer.isEmpty
    · have enters : entered? (empties ask) (.branches tag yes no rest) = some no :=
        congrArg some (if_pos empty)
      simp only [empty, if_true]
      exact noIh.construct restIh enters rfl left bound bound
    · have enters : entered? (empties ask) (.branches tag yes no rest) = some yes :=
        congrArg some (if_neg empty)
      simp only [empty, if_false, Bool.false_eq_true]
      exact yesIh.construct restIh enters rfl left bound bound
  | nested body rest bodyIh restIh =>
    intro left bound
    exact bodyIh.construct restIh rfl rfl left bound bound

/-- Expands a template without a limit. -/
def expandFreely? (ask : String → Trace String) (template : String) :
    Trace (Except ExpandError String) := do
  let result ← (expandAt ask .unlimited [] (ofString template)).run
  return result.map String.ofList

/-- The limit is exact, and nothing else of it is to be seen: expansion is aborted exactly if the
evaluation of the template would enter a text at level 33. Otherwise the result is that of an expansion
without a limit, to which the same questions lead and which always has a result. -/
theorem expand?_aborted_iff (ask : String → Trace String) (template : String) :
    ((expand? ask template).answer = .error (.tooDeep 32) ↔
        ∃ deep, Enters (empties ask) 33 (ofString template) deep) ∧
      ((expand? ask template).answer = .error (.tooDeep 32) ∨
        expand? ask template = expandFreely? ask template) ∧
      ∃ shown, (expandFreely? ask template).answer = .ok shown := by
  have limited := expandAt_limited ask maxDepth (ofString template) maxDepth []
  obtain ⟨shown, completes⟩ := limited.completes
  have freely : (expandFreely? ask template).answer = .ok (String.ofList shown) := by
    simp only [expandFreely?, Trace.answer_bind, Trace.answer_pure, completes]
    rfl
  by_cases deep : Descends (empties ask) 33 (ofString template)
  · have aborted : (expand? ask template).answer = .error (.tooDeep 32) := by
      simp only [expand?, Trace.answer_bind, Trace.answer_pure, limited.aborted deep]
      rfl
    exact ⟨iff_of_true aborted deep, .inl aborted, _, freely⟩
  · have same : expand? ask template = expandFreely? ask template := by
      rw [expand?, limited.same deep, expandFreely?]
    refine ⟨iff_of_false ?_ deep, .inr same, _, freely⟩
    rw [same, freely]
    intro aborted
    contradiction

end TitleBar.Template
