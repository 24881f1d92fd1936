import Mathlib.Data.List.Forall2
import TitleBar.Rule.Document

/-! # What a rule document holds

No key stands twice in a document, so that a rule document is a table without entries, or one whose only
entry is the array of its rules. Its rules are those of the array: all of them, in their order, or none if
one of them is no rule.
-/

namespace TitleBar

namespace Toml

theorem bind_eq_ok_iff {α β : Type} {part : Decoded α} {rest : α → Decoded β} {b : β} :
    part >>= rest = .ok b ↔ ∃ a, part = .ok a ∧ rest a = .ok b := by
  cases part with
  | error offence =>
    constructor
    · intro read
      contradiction
    · rintro ⟨_, read, -⟩
      contradiction
  | ok a =>
    constructor
    · intro read
      exact ⟨a, rfl, read⟩
    · rintro ⟨_, same, read⟩
      obtain rfl := Except.ok.inj same
      exact read

/-- A list is read element by element, and only as a whole. -/
theorem mapM_eq_ok_iff {α : Type} {item? : Toml → Decoded α} {items : List Toml} {all : List α} :
    items.mapM item? = .ok all ↔ List.Forall₂ (fun item a => item? item = .ok a) items all := by
  induction items generalizing all with
  | nil =>
    rw [List.forall₂_nil_left_iff]
    constructor
    · intro same
      exact (Except.ok.inj same).symm
    · rintro rfl
      rfl
  | cons item items ih =>
    rw [List.mapM_cons, bind_eq_ok_iff, List.forall₂_cons_left_iff]
    simp only [bind_eq_ok_iff, ih]
    constructor
    · rintro ⟨a, first, more, others, same⟩
      exact ⟨a, more, first, others, (Except.ok.inj same).symm⟩
    · rintro ⟨a, more, first, others, rfl⟩
      exact ⟨a, first, more, others, rfl⟩

theorem list?_eq_ok_iff {α : Type} {item? : Toml → Decoded α} {value : Toml} {all : List α} :
    value.list? item? = .ok all ↔ ∃ growing items, value = .array growing items ∧
      List.Forall₂ (fun item a => item? item = .ok a) items all := by
  constructor
  · intro read
    cases value with
    | array growing items => exact ⟨growing, items, rfl, mapM_eq_ok_iff.1 read⟩
    | _ => contradiction
  · rintro ⟨growing, items, rfl, read⟩
    exact mapM_eq_ok_iff.2 read

end Toml

namespace Rule

/-- Whether a text is a document of these rules. -/
inductive IsDocument [RuleFormat] (text : String) : List Rule → Prop
  | empty (read : RuleFormat.entries? text = some []) : IsDocument text []
  | rules {growing : Bool} {items : List Toml} {rules : List Rule}
    (read : RuleFormat.entries? text = some [("rules", .array growing items)])
    (all : List.Forall₂ (fun item rule => ofToml? item = .ok rule) items rules) :
    IsDocument text rules

/-- A table of rules has no other keys. -/
theorem key_of_listOf? {entries : Toml.Entries} {rules : List Rule}
    (read : listOf? entries = .ok rules) : ∀ entry ∈ entries, entry.1 = "rules" := by
  suffices sorted : ∀ entry ∈ Toml.fieldsInOrder entries, entry.1 = "rules" by
    intro entry member
    exact sorted entry (List.mem_mergeSort.2 member)
  rw [listOf?] at read
  generalize Toml.fieldsInOrder entries = fields at read
  generalize ([] : List Rule) = before at read
  induction fields generalizing before with
  | nil => exact List.forall_mem_nil _
  | cons field fields ih =>
    obtain ⟨key, value⟩ := field
    rw [List.foldlM_cons] at read
    dsimp only at read
    by_cases named : key = "rules"
    · refine List.forall_mem_cons.2 ⟨named, ?_⟩
      rw [Toml.bind_eq_ok_iff] at read
      obtain ⟨next, -, rest⟩ := read
      exact ih next rest
    · rw [if_neg named] at read
      contradiction

theorem listOf?_nil : listOf? [] = .ok [] := by
  rw [listOf?, Toml.fieldsInOrder, List.mergeSort_nil]
  rfl

theorem listOf?_singleton (value : Toml) : listOf? [("rules", value)] = value.list? ofToml? := by
  rw [listOf?, Toml.fieldsInOrder, List.mergeSort_singleton, List.foldlM_cons]
  dsimp only
  rw [if_pos rfl]
  exact bind_pure _

/-- A table of rules is empty, or holds one array of rules. -/
theorem listOf?_eq_ok_iff {entries : Toml.Entries} (distinct : Toml.Distinct entries)
    {rules : List Rule} : listOf? entries = .ok rules ↔ entries = [] ∧ rules = [] ∨
      ∃ growing items, entries = [("rules", .array growing items)] ∧
        List.Forall₂ (fun item rule => ofToml? item = .ok rule) items rules := by
  constructor
  · intro read
    have named := key_of_listOf? read
    rcases entries with _ | ⟨⟨key, value⟩, _ | ⟨⟨other, _⟩, more⟩⟩
    · rw [listOf?_nil] at read
      exact .inl ⟨rfl, (Except.ok.inj read).symm⟩
    · obtain rfl : key = "rules" := named _ List.mem_cons_self
      rw [listOf?_singleton, Toml.list?_eq_ok_iff] at read
      obtain ⟨growing, items, rfl, all⟩ := read
      exact .inr ⟨growing, items, rfl, all⟩
    · obtain rfl : key = "rules" := named _ List.mem_cons_self
      obtain rfl : other = "rules" := named _ (List.mem_cons_of_mem _ List.mem_cons_self)
      exact absurd List.mem_cons_self (List.nodup_cons.1 distinct).1
  · rintro (⟨rfl, rfl⟩ | ⟨growing, items, rfl, all⟩)
    · exact listOf?_nil
    · rw [listOf?_singleton, Toml.list?_eq_ok_iff]
      exact ⟨growing, items, rfl, all⟩

theorem mapError_eq_ok_iff {result : Decoded (List Rule)} {rules : List Rule} :
    result.mapError DocumentError.offence = .ok rules ↔ result = .ok rules := by
  cases result with
  | error offence => exact ⟨nofun, nofun⟩
  | ok all =>
    constructor <;>
    · intro same
      exact congrArg Except.ok (Except.ok.inj same)

/-- The rules that are read from a text are those of the document that it is. -/
theorem ofDocument?_eq_ok_iff [RuleFormat] {text : String} {rules : List Rule} :
    ofDocument? text = .ok rules ↔ IsDocument text rules := by
  rcases table : RuleFormat.entries? text with _ | entries
  · constructor
    · intro read
      rw [ofDocument?, table] at read
      contradiction
    · rintro (read | read) <;> simp [table] at read
  · have read : ofDocument? text = (listOf? entries).mapError .offence := by rw [ofDocument?, table]
    rw [read, mapError_eq_ok_iff, listOf?_eq_ok_iff (RuleFormat.distinct table)]
    constructor
    · rintro (⟨rfl, rfl⟩ | ⟨growing, items, rfl, all⟩)
      · exact .empty table
      · exact .rules table all
    · rintro (same | ⟨same, all⟩)
      · exact .inl ⟨Option.some.inj (table.symm.trans same), rfl⟩
      · exact .inr ⟨_, _, Option.some.inj (table.symm.trans same), all⟩

end Rule

end TitleBar
