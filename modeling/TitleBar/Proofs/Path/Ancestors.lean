import Mathlib.Data.List.Nodup
import TitleBar.Proofs.Path.Parts

/-! # A path and the paths above it

The paths above a path have ever fewer of its first parts, down to the root or to the empty path. So
what is found first among them is what is deepest.
-/

namespace TitleBar.Path

/-! ## The way up -/

/-- A path has one part more than the path above it. -/
theorem exists_parts_eq_concat {path above : Path} (found : path.parent? = some above) :
    ∃ last, path.parts = above.parts ++ [last] := by
  rcases List.eq_nil_or_concat path.parts with none | ⟨before, last, whole⟩
  · rw [parent?_eq_none_iff.2 (.inl none)] at found
    contradiction
  · rw [List.concat_eq_append] at whole
    exact ⟨last, by rw [parts_parent? found, whole, List.dropLast_concat]⟩

theorem length_parent? {path above : Path} (found : path.parent? = some above) :
    path.parts.length = above.parts.length + 1 := by
  obtain ⟨last, whole⟩ := exists_parts_eq_concat found
  rw [whole, List.length_append, List.length_singleton]

theorem prefix_parent? {path above : Path} (found : path.parent? = some above) :
    above.parts <+: path.parts :=
  parts_parent? found ▸ List.dropLast_prefix _

theorem ancestors_of_top {path : Path} (top : path.parent? = none) : path.ancestors = [path] := by
  rw [ancestors]
  cases path.parts.length with
  | zero => rfl
  | succ fuel => rw [ancestors.go, top]

theorem ancestors_of_parent? {path above : Path} (found : path.parent? = some above) :
    path.ancestors = path :: above.ancestors := by
  rw [ancestors, length_parent? found, ancestors.go, found]
  rfl

/-- What holds at the top and carries over from the path above holds of every path. -/
theorem upward {holds : Path → Prop} (top : ∀ path, path.parent? = none → holds path)
    (step : ∀ path above, path.parent? = some above → holds above → holds path) (path : Path) :
    holds path := by
  induction length : path.parts.length generalizing path with
  | zero => exact top path (parent?_eq_none_iff.2 (.inl (List.length_eq_zero_iff.1 length)))
  | succ count ih =>
    rcases found : path.parent? with _ | above
    · exact top path found
    · have shorter := length_parent? found
      exact step path above found (ih above (by omega))

/-- The paths above a path have its first parts. -/
theorem prefix_of_mem_ancestors {path above : Path} (member : above ∈ path.ancestors) :
    above.parts <+: path.parts := by
  induction path using upward with
  | top path top =>
    rw [ancestors_of_top top, List.mem_singleton] at member
    exact member ▸ List.prefix_rfl
  | step path next found ih =>
    rw [ancestors_of_parent? found, List.mem_cons] at member
    rcases member with rfl | member
    · exact List.prefix_rfl
    · exact (ih member).trans (prefix_parent? found)

/-- Each of the paths above a path has fewer parts than those before it. -/
theorem pairwise_ancestors (path : Path) : path.ancestors.Pairwise fun lower upper =>
    upper.parts <+: lower.parts ∧ upper.parts.length < lower.parts.length := by
  induction path using upward with
  | top path top =>
    rw [ancestors_of_top top]
    exact List.pairwise_singleton _ path
  | step path next found ih =>
    rw [ancestors_of_parent? found, List.pairwise_cons]
    refine ⟨?_, ih⟩
    intro upper member
    have above := prefix_of_mem_ancestors member
    have bound := above.length_le
    have less := length_parent? found
    exact ⟨above.trans (prefix_parent? found), by omega⟩

/-! ## What is deepest -/

/-- Whether a directory is the deepest one, at or above a start, that something is true of. -/
structure Deepest (holds : Path → Prop) (start found : Path) : Prop where
  member : found ∈ start.ancestors
  true_of : holds found
  within : ∀ other ∈ start.ancestors, holds other → other.parts <+: found.parts

variable {start : Path}

/-- Paths above a start that have the same parts are the same. -/
theorem eq_of_parts_eq {one other : Path} (member : one ∈ start.ancestors)
    (also : other ∈ start.ancestors) (same : one.parts = other.parts) : one = other := by
  have distinct : (start.ancestors.map parts).Nodup := by
    apply List.pairwise_map.2
    refine (pairwise_ancestors start).imp ?_
    rintro lower upper ⟨-, shorter⟩ equal
    rw [equal] at shorter
    exact Nat.lt_irrefl _ shorter
  exact List.inj_on_of_nodup_map distinct member also same

theorem Deepest.unique {holds : Path → Prop} {one other : Path} (deepest : Deepest holds start one)
    (also : Deepest holds start other) : one = other := by
  have inside := also.within one deepest.member deepest.true_of
  have outside := deepest.within other also.member also.true_of
  exact eq_of_parts_eq deepest.member also.member
    (inside.eq_of_length (inside.length_le.antisymm outside.length_le))

section Search

variable {α : Type} {find : Path → Option α} {answer : α}

theorem deepest_of_findSome? (found : start.ancestors.findSome? find = some answer) :
    ∃ directory, Deepest (fun path => find path ≠ none) start directory ∧
      find directory = some answer := by
  obtain ⟨before, directory, after, whole, here, none⟩ := List.findSome?_eq_some_iff.1 found
  refine ⟨directory, ⟨?_, ?_, ?_⟩, here⟩
  · simp [whole]
  · simp [here]
  · intro other member some
    rw [whole, List.mem_append, List.mem_cons] at member
    rcases member with earlier | rfl | later
    · exact absurd (none other earlier) some
    · exact List.prefix_rfl
    · have apart := pairwise_ancestors start
      rw [whole, List.pairwise_append, List.pairwise_cons] at apart
      exact (apart.2.1.1 other later).1

/-- What is found on the way up is found at the deepest place where something is found. -/
theorem findSome?_ancestors_eq_some_iff :
    start.ancestors.findSome? find = some answer ↔
      ∃ directory, Deepest (fun path => find path ≠ none) start directory ∧
        find directory = some answer := by
  constructor
  · exact deepest_of_findSome?
  · rintro ⟨directory, deepest, here⟩
    rcases found : start.ancestors.findSome? find with _ | other
    · rw [List.findSome?_eq_none_iff] at found
      exact absurd (found directory deepest.member) deepest.true_of
    · obtain ⟨place, also, there⟩ := deepest_of_findSome? found
      rw [deepest.unique also, there] at here
      exact here

/-- The first path on the way up that passes a test is the deepest one that does. -/
theorem find?_ancestors_eq_some_iff {test : Path → Bool} {found : Path} :
    start.ancestors.find? test = some found ↔ Deepest (fun path => test path = true) start found := by
  have passes (path : Path) : Option.guard test path ≠ none ↔ test path = true := by
    rw [Option.guard]
    split <;> simp_all
  rw [List.find?_eq_findSome?_guard, findSome?_ancestors_eq_some_iff]
  simp only [passes, Option.guard_eq_some_iff]
  constructor
  · rintro ⟨_, deepest, rfl, -⟩
    exact deepest
  · intro deepest
    exact ⟨found, deepest, rfl, deepest.true_of⟩

end Search

end TitleBar.Path
