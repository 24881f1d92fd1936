import TitleBar.Proofs.Shell.Effect
import TitleBar.Shell.Expansion

/-! # Fields and quotes

Splitting a word into fields loses separators and nothing else. What stands between quotes is never
split and never a pattern: a word that consists of nothing but quoted fragments is a single field,
which is its value, whatever the variables hold.
-/

namespace TitleBar.Shell

open Effect

section Splitting

/-- The characters of cells that are no separators. -/
def unseparated (cells : List Cell) : List PatternChar :=
  cells.filterMap fun cell =>
    match cell with
    | .char c => some c
    | .mark | .gap _ => none

/-- Splitting keeps every character except for the separators, and the order of the characters. -/
theorem flatten_fieldsOf (open? : Option (List PatternChar)) (behind : Bool) (cells : List Cell) :
    (fieldsOf open? behind cells).flatten = (open?.getD []).reverse ++ unseparated cells := by
  induction cells generalizing open? behind with
  | nil => cases open? <;> simp [fieldsOf, unseparated]
  | cons cell cells ih =>
    cases cell with
    | char c => simp [fieldsOf, unseparated, ih]
    | mark => simp [fieldsOf, unseparated, ih]
    | gap separator =>
      cases open? with
      | some field => simp [fieldsOf, unseparated, ih]
      | none =>
        rw [fieldsOf, List.flatten_append, ih]
        split <;> rfl

/-- Cells without separators add to the field that has been begun. -/
theorem fieldsOf_some_of_not_gap {cells : List Cell}
    (whole : ∀ separator, .gap separator ∉ cells) (field : List PatternChar) (behind : Bool) :
    fieldsOf (some field) behind cells = [field.reverse ++ plain cells] := by
  induction cells generalizing field behind with
  | nil => simp [fieldsOf, plain]
  | cons cell cells ih =>
    have rest : ∀ separator, .gap separator ∉ cells := fun separator member =>
      whole separator (List.mem_cons_of_mem _ member)
    cases cell with
    | char c => simp [fieldsOf, plain, ih rest]
    | mark => simp [fieldsOf, plain, ih rest]
    | gap separator => exact absurd (List.mem_cons_self ..) (whole separator)

/-- Cells without separators are a single field, even if they have no characters. -/
theorem fieldsOf_of_not_gap {cells : List Cell} (some' : cells ≠ [])
    (whole : ∀ separator, .gap separator ∉ cells) (behind : Bool) :
    fieldsOf none behind cells = [plain cells] := by
  obtain ⟨cell, cells, rfl⟩ := List.exists_cons_of_ne_nil some'
  have rest : ∀ separator, .gap separator ∉ cells := fun separator member =>
    whole separator (List.mem_cons_of_mem _ member)
  cases cell with
  | char c => exact fieldsOf_some_of_not_gap rest [c] false
  | mark => exact fieldsOf_some_of_not_gap rest [] false
  | gap separator => exact absurd (List.mem_cons_self ..) (whole separator)

end Splitting

section Quotes

/-- The fragments that quotes keep together. The list of all parameters is no such fragment: each of
them is a field of its own. -/
inductive Fragment.Sealed : Fragment → Prop where
  | text (text : List Char) : Sealed (.text text true)
  | value (name : List Char) : name ≠ ['@'] → Sealed (.parameter name .value true)
  | arithmetic (expression : List Char) : Sealed (.arithmetic expression true)
  | output (script : List Char) : Sealed (.output script true)

/-- Whether no separator and nothing that could be a wildcard is among cells. -/
def CellsSealed (cells : List Cell) : Prop :=
  ∀ cell ∈ cells, cell = .mark ∨ ∃ c, cell = .char ⟨c, true⟩

theorem CellsSealed.cons_mark {cells : List Cell} (isSealed : CellsSealed cells) :
    CellsSealed (.mark :: cells) := List.forall_mem_cons.mpr ⟨.inl rfl, isSealed⟩

theorem CellsSealed.not_gap {cells : List Cell} (isSealed : CellsSealed cells) (separator : Char) :
    .gap separator ∉ cells := by
  intro member
  rcases isSealed _ member with same | ⟨c, same⟩ <;> cases same

theorem CellsSealed.not_hasWildcard {cells : List Cell} (isSealed : CellsSealed cells) :
    hasWildcard (plain cells) = false := by
  rw [hasWildcard, List.any_eq_false]
  intro c member
  obtain ⟨cell, among, shown⟩ := List.mem_filterMap.mp member
  rcases isSealed cell among with rfl | ⟨d, rfl⟩
  · cases shown
  · obtain rfl := Option.some.inj shown
    exact Bool.false_ne_true

theorem cellsSealed_map (text : List Char) :
    CellsSealed (text.map fun c => .char ⟨c, true⟩) := by
  intro cell member
  obtain ⟨c, -, rfl⟩ := List.mem_map.mp member
  exact .inr ⟨c, rfl⟩

theorem cellsSealed_valueCells (state : State) (value : List Char) :
    CellsSealed (state.valueCells true value) := by
  rw [State.valueCells]
  exact cellsSealed_map value

theorem yields_parameterCells {name : List Char} (single : name ≠ ['@']) (capture : Capture)
    (fuel : Nat) : Yields CellsSealed (parameterCells capture fuel name .value true) := by
  cases fuel with
  | zero =>
    rw [parameterCells]
    exact yields_pure nofun
  | succ fuel =>
    rw [parameterCells]
    refine .of_bind fun state => .of_bind fun _ => ?_
    have one : (decide (name = ['@']) || decide (name = ['*']) && !true) = false := by
      rw [decide_eq_false single, Bool.not_true, Bool.and_false, Bool.or_false]
    rw [if_neg (Bool.eq_false_iff.mp one)]
    exact yields_pure (cellsSealed_valueCells state _)

theorem Fragment.Sealed.yields_cells {fragment : Fragment} (isSealed : fragment.Sealed)
    (capture : Capture) (fuel : Nat) : Yields CellsSealed (fragment.cells capture fuel) := by
  cases fuel with
  | zero =>
    rw [Fragment.cells]
    exact yields_pure nofun
  | succ fuel =>
    rw [Fragment.cells.eq_def]
    cases isSealed with
    | text text => exact yields_pure (cellsSealed_map text).cons_mark
    | value name single =>
      refine (yields_parameterCells single capture fuel).bind fun cells isSealed => yields_pure ?_
      split
      · exact isSealed.cons_mark
      · exact isSealed
    | arithmetic expression =>
      refine .of_bind fun text => ?_
      split
      · exact .of_bind fun n => .of_bind fun state => yields_pure (cellsSealed_valueCells state _)
      · exact yields_leave _ 2
    | output script =>
      exact .of_bind fun value => .of_bind fun state =>
        yields_pure (cellsSealed_valueCells state value)

/-- A fragment that makes a field even if it stands for nothing. -/
inductive Fragment.Marks : Fragment → Prop where
  | text (text : List Char) : Marks (.text text true)
  | value (name : List Char) : name ≠ ['@'] → Marks (.parameter name .value true)

theorem Fragment.Marks.yields_cells {fragment : Fragment} (marks : fragment.Marks)
    (capture : Capture) {fuel : Nat} (positive : 0 < fuel) :
    Yields (· ≠ []) (fragment.cells capture fuel) := by
  obtain ⟨fuel, rfl⟩ := Nat.exists_eq_succ_of_ne_zero (Nat.ne_zero_of_lt positive)
  rw [Fragment.cells.eq_def]
  cases marks with
  | text text => exact yields_pure (List.cons_ne_nil _ _)
  | value name single =>
    refine .of_bind fun cells => yields_pure ?_
    rw [if_pos (by rw [Bool.true_and]; exact bne_iff_ne.mpr single)]
    exact List.cons_ne_nil _ _

theorem Word.withHome_of_sealed {word : Word} (isSealed : ∀ fragment ∈ word, fragment.Sealed)
    (state : State) : word.withHome state = word := by
  rw [Word.withHome.eq_def]
  split
  · cases isSealed _ (List.mem_cons_self ..)
  · rfl

theorem Word.yields_cells {word : Word} (isSealed : ∀ fragment ∈ word, fragment.Sealed)
    (capture : Capture) : Yields CellsSealed (word.cells capture) := by
  refine .of_bind fun state => ?_
  rw [Word.withHome_of_sealed isSealed]
  refine (yields_mapM fun fragment member =>
    (isSealed fragment member).yields_cells capture maxPlaces).bind fun cells each => yields_pure ?_
  intro cell member
  obtain ⟨part, among, within⟩ := List.mem_flatten.mp member
  exact each part among cell within

theorem Word.yields_cells_ne_nil {word : Word} (isSealed : ∀ fragment ∈ word, fragment.Sealed)
    {fragment : Fragment} (member : fragment ∈ word) (marks : fragment.Marks) (capture : Capture) :
    Yields (· ≠ []) (word.cells capture) := by
  refine .of_bind fun state => ?_
  rw [Word.withHome_of_sealed isSealed]
  have marked := marks.yields_cells capture (show 0 < maxPlaces by decide)
  refine (exists_yields_mapM member marked).bind fun cells found => yields_pure ?_
  obtain ⟨part, among, shown⟩ := found
  exact fun empty => shown (List.flatten_eq_nil_iff.mp empty part among)

theorem State.spread_of_not_hasWildcard {field : List PatternChar}
    (plain : hasWildcard field = false) (state : State) :
    state.spread field = [String.ofList (field.map PatternChar.char)] := by
  rw [State.spread, plain]
  rfl

/-- A word of quoted fragments is one field, its value: values between quotes are never split and
their characters are never wildcards. -/
theorem Word.fields_of_sealed {word : Word} (isSealed : ∀ fragment ∈ word, fragment.Sealed)
    {fragment : Fragment} (member : fragment ∈ word) (marks : fragment.Marks) (capture : Capture) :
    word.fields capture = do return [← word.value capture] := by
  have yields := (Word.yields_cells isSealed capture).and
    (Word.yields_cells_ne_nil isSealed member marks capture)
  simp only [Word.fields, Word.value, Word.pattern, bind_assoc, pure_bind]
  refine yields.bind_congr fun cells holds => ext_run fun state => ?_
  have one : (fieldsOf none false cells).flatMap state.spread =
      [String.ofList ((plain cells).map PatternChar.char)] := by
    rw [fieldsOf_of_not_gap holds.2 holds.1.not_gap, List.flatMap_singleton,
      State.spread_of_not_hasWildcard holds.1.not_hasWildcard]
  exact congrArg (fun fields => (Except.ok fields, state)) one

end Quotes

end TitleBar.Shell
