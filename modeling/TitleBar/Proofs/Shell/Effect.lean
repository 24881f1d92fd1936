import TitleBar.Shell.Effect

/-! # The course of effects

What effects come to, step by step, and what is known of all that they give.
-/

namespace TitleBar.Shell.Effect

variable {α β : Type}

section Course

theorem run_bind (effect : Effect α) (next : α → Effect β) (state : State) :
    (effect >>= next).run.run state =
      match effect.run.run state with
      | (.ok a, after) => (next a).run.run after
      | (.error escape, after) => (.error escape, after) := by
  change StateT.run (ExceptT.run (effect >>= next)) state = _
  rw [ExceptT.run_bind, StateT.run_bind]
  rcases effect.run.run state with ⟨escape | a, after⟩ <;> rfl

theorem run_modify (change : State → State) (state : State) :
    (modify change : Effect PUnit).run.run state = (.ok (), change state) := rfl

theorem run_attempt_bind {effect : Effect Unit} {next : Except Escape Unit → Effect β}
    (state : State) :
    (attempt effect >>= next).run.run state =
      (next (effect.run.run state).1).run.run (effect.run.run state).2 := by
  rw [run_bind]
  rfl

theorem run_andThen (effect : Effect Unit) (change : State → State) (state : State) :
    (andThen effect change).run.run state =
      ((effect.run.run state).1, change (effect.run.run state).2) := by
  rw [andThen, run_attempt_bind]
  generalize effect.run.run state = result
  rcases result with ⟨escape | a, after⟩ <;> rfl

theorem ext_run {effect other : Effect α}
    (same : ∀ state, effect.run.run state = other.run.run state) : effect = other :=
  ExceptT.ext (StateT.ext same)

end Course

section Yields

/-- Whether all that an effect gives, wherever it starts, has a property. -/
def Yields (property : α → Prop) (effect : Effect α) : Prop :=
  ∀ state a after, effect.run.run state = (.ok a, after) → property a

theorem yields_pure {property : α → Prop} {a : α} (holds : property a) :
    Yields property (pure a) := by
  intro state b after ends
  obtain ⟨same, -⟩ := Prod.mk.inj ends
  obtain rfl := Except.ok.inj same
  exact holds

theorem yields_throw (property : α → Prop) (escape : Escape) :
    Yields property (throw escape) := by
  intro state a after ends
  obtain ⟨same, -⟩ := Prod.mk.inj ends
  cases same

theorem Yields.bind {between : α → Prop} {property : β → Prop} {effect : Effect α}
    {next : α → Effect β} (first : Yields between effect)
    (rest : ∀ a, between a → Yields property (next a)) : Yields property (effect >>= next) := by
  intro state b after ends
  have before := first state
  rw [run_bind] at ends
  generalize effect.run.run state = result at before ends
  rcases result with ⟨escape | a, middle⟩
  · cases (Prod.mk.inj ends).1
  · exact rest a (before a middle rfl) middle b after ends

theorem Yields.of_bind {property : β → Prop} {effect : Effect α} {next : α → Effect β}
    (rest : ∀ a, Yields property (next a)) : Yields property (effect >>= next) := by
  have any : Yields (fun _ => True) effect := fun _ _ _ _ => trivial
  exact any.bind fun a _ => rest a

theorem yields_leave (property : α → Prop) (status : Nat) :
    Yields property (leave status) := .of_bind fun _ => yields_throw property .leaves

theorem yields_mapM {property : β → Prop} {step : α → Effect β} {list : List α}
    (each : ∀ a ∈ list, Yields property (step a)) :
    Yields (fun results => ∀ b ∈ results, property b) (list.mapM step) := by
  induction list with
  | nil => exact yields_pure nofun
  | cons a list ih =>
    rw [List.mapM_cons]
    refine (each a (List.mem_cons_self ..)).bind fun b holds => ?_
    refine (ih fun a member => each a (List.mem_cons_of_mem _ member)).bind fun results hold => ?_
    exact yields_pure (List.forall_mem_cons.mpr ⟨holds, hold⟩)

theorem exists_yields_mapM {property : β → Prop} {step : α → Effect β} {list : List α} {a : α}
    (member : a ∈ list) (one : Yields property (step a)) :
    Yields (fun results => ∃ b ∈ results, property b) (list.mapM step) := by
  induction list with
  | nil => cases member
  | cons head list ih =>
    rw [List.mapM_cons]
    rcases List.mem_cons.mp member with rfl | member
    · refine one.bind fun b holds => .of_bind fun results => ?_
      exact yields_pure ⟨b, List.mem_cons_self .., holds⟩
    · refine .of_bind fun first => (ih member).bind fun results found => ?_
      obtain ⟨b, among, holds⟩ := found
      exact yields_pure ⟨b, List.mem_cons_of_mem _ among, holds⟩

theorem Yields.and {property other : α → Prop} {effect : Effect α} (yields : Yields property effect)
    (yields' : Yields other effect) : Yields (fun a => property a ∧ other a) effect :=
  fun state a after ends => ⟨yields state a after ends, yields' state a after ends⟩

/-- What follows an effect only counts for what the effect gives. -/
theorem Yields.bind_congr {property : α → Prop} {effect : Effect α} {next other : α → Effect β}
    (yields : Yields property effect) (same : ∀ a, property a → next a = other a) :
    effect >>= next = effect >>= other := by
  refine ext_run fun state => ?_
  have holds := yields state
  rw [run_bind, run_bind]
  generalize effect.run.run state = result at holds ⊢
  rcases result with ⟨escape | a, after⟩
  · rfl
  · dsimp only
    rw [same a (holds a after rfl)]

end Yields

end TitleBar.Shell.Effect
