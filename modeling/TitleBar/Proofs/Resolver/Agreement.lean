import TitleBar.Aggregate
import Mathlib.Tactic.Common

/-! # What a title bar depends on

A title bar is computed from the values of tags and from predicates, and from nothing else: two
lookups that agree on these lead to the same title bar, and ask the same questions on the way.
-/

namespace TitleBar

namespace Trace

variable {α β : Type}

/-- The answers of a list of questions are those of its elements. -/
@[simp] theorem answer_mapM (ask : α → Trace β) (list : List α) :
    (list.mapM ask).answer = list.map fun a => (ask a).answer := by
  induction list with
  | nil => rfl
  | cons a rest ih =>
    rw [List.mapM_cons, List.map_cons, ← ih]
    rfl

/-- Elements that fail a test without a question do not count. -/
theorem anyOf_eq_pure_false {test : α → Trace Bool} {list : List α}
    (fail : ∀ a ∈ list, test a = pure false) : anyOf test list = pure false := by
  induction list with
  | nil => rfl
  | cons a rest ih =>
    rw [List.forall_mem_cons] at fail
    rw [anyOf, fail.1, pure_bind]
    exact ih fail.2

/-- A test that all other elements fail without a question is decided by the remaining one. -/
theorem anyOf_append_cons {test : α → Trace Bool} {before after : List α} {a : α}
    (fail : ∀ other ∈ before ++ after, test other = pure false) :
    anyOf test (before ++ a :: after) = test a := by
  rw [List.forall_mem_append] at fail
  induction before with
  | nil =>
    rw [List.nil_append, anyOf, anyOf_eq_pure_false fail.2]
    refine Trace.ext ?_ ?_
    · cases answer : (test a).answer <;> simp [answer]
    · cases answer : (test a).answer <;> simp [answer]
  | cons other before ih =>
    rw [List.forall_mem_cons] at fail
    rw [List.cons_append, anyOf, fail.1.1, pure_bind]
    exact ih ⟨fail.1.2, fail.2⟩

theorem anyOf_map (test : β → Trace Bool) (f : α → β) (list : List α) :
    anyOf test (list.map f) = anyOf (fun a => test (f a)) list := by
  induction list with
  | nil => rfl
  | cons a rest ih => rw [List.map_cons, anyOf, ih, anyOf]

end Trace

/-- A resolver without work outstanding that answers like another one. -/
def Resolver.calm (resolver : Resolver) : Resolver := { resolver with settled := true }

namespace Lookup

variable {first second : Lookup}

theorem value_congr (resolved : first.resolve? = second.resolve?) : first.value = second.value := by
  funext tag
  rw [value, resolved, value]

theorem satisfiesAll_congr (satisfied : first.satisfies = second.satisfies) :
    first.satisfiesAll = second.satisfiesAll := by
  funext predicates
  rw [satisfiesAll, satisfied, satisfiesAll]

theorem expandOption_congr (values : first.value = second.value) :
    first.expandOption = second.expandOption := by
  funext template
  cases template with
  | none => rfl
  | some template => rw [expandOption, expand, values, expandOption, expand]

theorem blocksOf_congr (values : first.value = second.value)
    (satisfied : first.satisfies = second.satisfies) : first.blocksOf = second.blocksOf := by
  have shown : first.blockOf = second.blockOf := by
    funext block
    rw [blockOf, expand, values, expandOption_congr values, blockOf, expand]
  funext blocks
  induction blocks with
  | nil => rfl
  | cons block rest ih =>
    rw [blocksOf, satisfiesAll_congr satisfied, shown, ih, blocksOf]

/-- Lookups that agree on the values of tags and on predicates lead to the same title bar. -/
theorem titleBar_congr (values : first.value = second.value)
    (satisfied : first.satisfies = second.satisfies) : first.titleBar = second.titleBar := by
  have blocks : first.blocksOption = second.blocksOption := by
    funext blocks
    cases blocks with
    | none => rfl
    | some blocks => rw [blocksOption, blocksOf_congr values satisfied, blocksOption]
  funext sets
  rw [titleBar, matched, satisfiesAll_congr satisfied, expandOption_congr values, blocks, titleBar,
    matched]

theorem resolve?_eq_calm (lookup : Lookup) (tag : String) :
    lookup.resolve? tag =
      match (lookup.resolvers.map Resolver.calm).find? (·.resolvable lookup.situation tag) with
      | some resolver => do return some (← resolver.resolve lookup.situation tag)
      | none => pure none := by
  have found : (lookup.resolvers.map Resolver.calm).find? (·.resolvable lookup.situation tag) =
      (lookup.resolvers.find? (·.resolvable lookup.situation tag)).map Resolver.calm :=
    List.find?_map ..
  rw [found, resolve?]
  cases lookup.resolvers.find? (·.resolvable lookup.situation tag) <;> rfl

theorem satisfies_eq_calm (lookup : Lookup) (predicate : Predicate) :
    lookup.satisfies predicate =
      Trace.anyOf (fun resolver => resolver.satisfies lookup.situation predicate.tag predicate.glob)
        (lookup.resolvers.map Resolver.calm) := by
  rw [Trace.anyOf_map]
  rfl

/-- Work that is outstanding does not matter for a title bar. -/
theorem titleBar_eq_of_calm (situation : first.situation = second.situation)
    (alike : first.resolvers.map Resolver.calm = second.resolvers.map Resolver.calm) :
    first.titleBar = second.titleBar := by
  have resolved : first.resolve? = second.resolve? := by
    funext tag
    rw [resolve?_eq_calm, alike, situation, resolve?_eq_calm]
  have satisfied : first.satisfies = second.satisfies := by
    funext predicate
    rw [satisfies_eq_calm, alike, situation, satisfies_eq_calm]
  exact titleBar_congr (value_congr resolved) satisfied

end Lookup

end TitleBar
