import TitleBar.Digest
import TitleBar.Rule.Document
import TitleBar.Toml.Document

/-! # The libraries that rule files are read with

The program reads TOML documents and makes digests of their texts itself. Whatever is added to a table, no
key stands twice in it, as the users of a reader expect.
-/

namespace TitleBar

namespace Toml

/-- Whether a change keeps the keys of a table distinct. -/
def KeepsDistinct (change : Entries → Option Entries) : Prop :=
  ∀ entries after, change entries = some after → Distinct entries → Distinct after

/-- A changed table has the keys that it had, and perhaps a new one. -/
theorem keys_of_alter {key : String} {change : Option Toml → Option Toml} {entries after : Entries}
    (altered : alter key change entries = some after) :
    after.map Prod.fst = entries.map Prod.fst ∨
      key ∉ entries.map Prod.fst ∧ after.map Prod.fst = entries.map Prod.fst ++ [key] := by
  induction entries generalizing after with
  | nil =>
    obtain ⟨value, -, rfl⟩ := Option.map_eq_some_iff.1 altered
    exact .inr ⟨List.not_mem_nil, rfl⟩
  | cons entry rest ih =>
    obtain ⟨k, value⟩ := entry
    rw [alter] at altered
    split at altered
    · obtain ⟨changed, -, rfl⟩ := Option.map_eq_some_iff.1 altered
      exact .inl rfl
    · rename_i other
      obtain ⟨behind, found, rfl⟩ := Option.map_eq_some_iff.1 altered
      rcases ih found with same | ⟨new, more⟩
      · exact .inl (congrArg (k :: ·) same)
      · refine .inr ⟨?_, congrArg (k :: ·) more⟩
        rw [List.map_cons, List.mem_cons, not_or]
        exact ⟨Ne.symm other, new⟩

theorem keepsDistinct_alter (key : String) (change : Option Toml → Option Toml) :
    KeepsDistinct (alter key change) := by
  intro entries after altered distinct
  rcases keys_of_alter altered with same | ⟨new, more⟩
  · rwa [Distinct, same]
  · rw [Distinct, more, List.nodup_append]
    refine ⟨distinct, List.pairwise_singleton _ key, ?_⟩
    rintro k member _ last rfl
    exact new (List.mem_singleton.1 last ▸ member)

theorem keepsDistinct_addDotted (key : String) (value : Toml) (path : List String) :
    KeepsDistinct (addDotted key value path) := by
  cases path with
  | nil => exact keepsDistinct_alter key _
  | cons first path => exact keepsDistinct_alter first _

theorem keepsDistinct_underHeader {change : Entries → Option Entries} (keeps : KeepsDistinct change)
    (path : List String) : KeepsDistinct (underHeader change path) := by
  cases path with
  | nil => exact keeps
  | cons key path => exact keepsDistinct_alter key _

theorem distinct_of_add? {draft next : Draft} {expression : Expression}
    (added : draft.add? expression = some next) (distinct : Distinct draft.entries) :
    Distinct next.entries := by
  cases expression with
  | value path key value =>
    obtain ⟨after, changed, same⟩ := Option.bind_eq_some_iff.1 added
    obtain rfl := Option.some.inj same
    exact keepsDistinct_underHeader (keepsDistinct_addDotted key value path) _ _ _ changed distinct
  | table path key =>
    obtain ⟨after, changed, same⟩ := Option.bind_eq_some_iff.1 added
    obtain rfl := Option.some.inj same
    exact keepsDistinct_underHeader (keepsDistinct_alter key _) _ _ _ changed distinct
  | element path key =>
    obtain ⟨after, changed, same⟩ := Option.bind_eq_some_iff.1 added
    obtain rfl := Option.some.inj same
    exact keepsDistinct_underHeader (keepsDistinct_alter key _) _ _ _ changed distinct

theorem distinct_of_foldlM {expressions : List Expression} {draft last : Draft}
    (added : expressions.foldlM Draft.add? draft = some last) (distinct : Distinct draft.entries) :
    Distinct last.entries := by
  induction expressions generalizing draft with
  | nil =>
    obtain rfl := Option.some.inj added
    exact distinct
  | cons expression expressions ih =>
    rw [List.foldlM_cons, Option.bind_eq_bind, Option.bind_eq_some_iff] at added
    obtain ⟨next, first, rest⟩ := added
    exact ih rest (distinct_of_add? first distinct)

/-- No key stands twice in a document. -/
theorem distinct_of_ofString? {text : String} {entries : Entries}
    (read : ofString? text = some entries) : Distinct entries := by
  simp only [ofString?, Option.bind_eq_bind, Option.bind_eq_some_iff] at read
  obtain ⟨expressions, -, draft, built, same⟩ := read
  obtain rfl := Option.some.inj same
  exact distinct_of_foldlM built List.nodup_nil

end Toml

/-- The libraries that the program reads rule files with. -/
instance RuleFormat.program : RuleFormat where
  entries? := Toml.ofString?
  distinct := Toml.distinct_of_ofString?
  digest := Digest.ofString

end TitleBar
