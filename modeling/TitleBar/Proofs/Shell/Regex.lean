import TitleBar.Shell.Regex

/-! # Where regular expressions match

A match goes over characters that stand one behind the other, and a search takes a text apart into
what stands before the match, the match and what is behind it. No match starts at an earlier place,
and none that starts at the same place is longer.
-/

namespace TitleBar.Shell

namespace Cursor

/-- Whether one place lies behind another one in a text, by the characters between them. -/
def Reaches (cursor other : Cursor) : Prop :=
  ∃ run, cursor.after = run ++ other.after ∧ other.index = cursor.index + run.length

theorem Reaches.refl (cursor : Cursor) : cursor.Reaches cursor := ⟨[], rfl, rfl⟩

theorem Reaches.trans {cursor other last : Cursor} (first : cursor.Reaches other)
    (second : other.Reaches last) : cursor.Reaches last := by
  obtain ⟨run, whole, index⟩ := first
  obtain ⟨further, rest, index'⟩ := second
  refine ⟨run ++ further, ?_, ?_⟩
  · rw [whole, rest, List.append_assoc]
  · rw [index', index, List.length_append, Nat.add_assoc]

theorem reaches_of_mem_step {accepts : Char → Bool} {cursor other : Cursor}
    (member : other ∈ cursor.step accepts) : cursor.Reaches other := by
  rw [step] at member
  split at member
  · rename_i c rest whole
    split at member
    · obtain rfl := List.mem_singleton.mp member
      exact ⟨[c], whole, rfl⟩
    · cases member
  · cases member

theorem reaches_of_mem_steps {same : Char → Char → Bool} {text : List Char} {cursor other : Cursor}
    (member : other ∈ cursor.steps same text) : cursor.Reaches other := by
  have course : ∀ (cursors : List Cursor),
      other ∈ text.foldl (fun cursors c => cursors.flatMap (step (same c))) cursors →
      ∃ first ∈ cursors, first.Reaches other := by
    clear member
    induction text with
    | nil => exact fun _ member => ⟨other, member, .refl other⟩
    | cons c text ih =>
      intro cursors member
      obtain ⟨next, among, reaches⟩ := ih _ member
      obtain ⟨first, before, stepped⟩ := List.mem_flatMap.mp among
      exact ⟨first, before, (reaches_of_mem_step stepped).trans reaches⟩
  obtain ⟨first, among, reaches⟩ := course [cursor] member
  obtain rfl := List.mem_singleton.mp among
  exact reaches

theorem mem_of_mem_distinct {cursors : List Cursor} {cursor : Cursor}
    (member : cursor ∈ distinct cursors) : cursor ∈ cursors := by
  have course : ∀ (cursors kept : List Cursor),
      cursor ∈ cursors.foldl (fun kept cursor =>
        if kept.any fun other => other.index == cursor.index && other.groups == cursor.groups
        then kept else cursor :: kept) kept → cursor ∈ kept ∨ cursor ∈ cursors := by
    intro cursors
    induction cursors with
    | nil => exact fun _ member => .inl member
    | cons first cursors ih =>
      intro kept member
      rw [List.foldl_cons] at member
      rcases ih _ member with found | found
      · split at found
        · exact .inl found
        · rcases List.mem_cons.mp found with rfl | found
          · exact .inr (List.mem_cons_self ..)
          · exact .inl found
      · exact .inr (List.mem_cons_of_mem _ found)
  rcases course cursors [] (List.mem_reverse.mp member) with none' | found
  · cases none'
  · exact found

end Cursor

open Cursor

theorem reaches_of_mem_repeatFrom {ends : Cursor → List Cursor}
    (each : ∀ cursor, ∀ other ∈ ends cursor, cursor.Reaches other) {fuel least : Nat}
    {most : Option Nat} {cursors : List Cursor} {other : Cursor}
    (member : other ∈ repeatFrom ends fuel least most cursors) :
    ∃ cursor ∈ cursors, cursor.Reaches other := by
  have there {least : Nat} {cursors : List Cursor}
      (member : other ∈ if least = 0 then cursors else []) :
      ∃ cursor ∈ cursors, cursor.Reaches other := by
    split at member
    · exact ⟨other, member, .refl other⟩
    · cases member
  induction fuel generalizing least most cursors with
  | zero => exact there member
  | succ fuel ih =>
    rw [repeatFrom] at member
    rcases List.mem_append.mp member with further | found
    · dsimp only at further
      split at further
      · cases further
      · obtain ⟨next, among, reaches⟩ := ih further
        obtain ⟨first, before, passed⟩ := List.mem_flatMap.mp (mem_of_mem_distinct among)
        exact ⟨first, before, (each first next (List.mem_filter.mp passed).1).trans reaches⟩
    · exact there found

namespace Regex

/-- A match ends behind the place where it starts, in the same text. -/
theorem reaches_of_mem_ends {fold : Bool} {regex : Regex} {cursor other : Cursor}
    (member : other ∈ regex.ends fold cursor) : cursor.Reaches other := by
  induction regex generalizing cursor other with
  | nothing =>
    obtain rfl := List.mem_singleton.mp member
    exact .refl _
  | char c => exact reaches_of_mem_step member
  | anyChar => exact reaches_of_mem_step member
  | member negated ranges => exact reaches_of_mem_step member
  | start | stop | between test =>
    rw [ends] at member
    split at member
    · obtain rfl := List.mem_singleton.mp member
      exact .refl _
    · cases member
  | sequence first second ihFirst ihSecond =>
    obtain ⟨middle, before, behind⟩ := List.mem_flatMap.mp (mem_of_mem_distinct member)
    exact (ihFirst before).trans (ihSecond behind)
  | either first second ihFirst ihSecond =>
    rcases List.mem_append.mp member with found | found
    · exact ihFirst found
    · exact ihSecond found
  | repeated least most part ih =>
    obtain ⟨first, among, reaches⟩ := reaches_of_mem_repeatFrom (fun _ _ found => ih found) member
    obtain rfl := List.mem_singleton.mp among
    exact reaches
  | group number part ih =>
    obtain ⟨closed, found, rfl⟩ := List.mem_map.mp member
    have reaches : cursor.Reaches closed := ih found
    exact reaches
  | same number =>
    rw [ends] at member
    split at member
    · exact reaches_of_mem_steps member
    · cases member

/-- One step of the search for the longest match. -/
def farther (best? : Option Cursor) (other : Cursor) : Option Cursor :=
  match best? with
  | some best => if best.index < other.index then some other else some best
  | none => some other

theorem farther_spec (best? : Option Cursor) (other : Cursor) :
    ∃ best, farther best? other = some best ∧ (best = other ∨ best? = some best) ∧
      other.index ≤ best.index ∧ ∀ old, best? = some old → old.index ≤ best.index := by
  cases best? with
  | none => exact ⟨other, rfl, .inl rfl, Nat.le_refl _, nofun⟩
  | some old =>
    by_cases further : old.index < other.index
    · refine ⟨other, if_pos further, .inl rfl, Nat.le_refl _, fun earlier same => ?_⟩
      obtain rfl := Option.some.inj same
      exact Nat.le_of_lt further
    · refine ⟨old, if_neg further, .inr rfl, Nat.le_of_not_lt further, fun earlier same => ?_⟩
      obtain rfl := Option.some.inj same
      exact Nat.le_refl _

theorem foldl_farther_spec {cursors : List Cursor} {best? : Option Cursor} {next : Cursor}
    (chosen : cursors.foldl farther best? = some next) :
    (best? = some next ∨ next ∈ cursors) ∧ (∀ old, best? = some old → old.index ≤ next.index) ∧
      ∀ other ∈ cursors, other.index ≤ next.index := by
  induction cursors generalizing best? with
  | nil =>
    refine ⟨.inl chosen, fun old same => ?_, nofun⟩
    obtain rfl := Option.some.inj (same.symm.trans chosen)
    exact Nat.le_refl _
  | cons other cursors ih =>
    obtain ⟨best, same, origin, farthest, least⟩ := farther_spec best? other
    rw [List.foldl_cons, same] at chosen
    obtain ⟨from', bound, rest⟩ := ih chosen
    have best_le := bound best rfl
    refine ⟨?_, fun old was => Nat.le_trans (least old was) best_le, ?_⟩
    · rcases from' with found | found
      · obtain rfl := Option.some.inj found
        rcases origin with rfl | was
        · exact .inr (List.mem_cons_self ..)
        · exact .inl was
      · exact .inr (List.mem_cons_of_mem _ found)
    · exact List.forall_mem_cons.mpr ⟨Nat.le_trans farthest best_le, rest⟩

theorem longest?_eq_foldl (fold : Bool) (regex : Regex) (cursor : Cursor) :
    regex.longest? fold cursor = (regex.ends fold cursor).foldl farther none := rfl

/-- The match that is chosen is one of those that there are, and none of them is longer. -/
theorem longest?_eq_some {fold : Bool} {regex : Regex} {cursor next : Cursor}
    (chosen : regex.longest? fold cursor = some next) :
    next ∈ regex.ends fold cursor ∧
      ∀ other ∈ regex.ends fold cursor, other.index ≤ next.index := by
  obtain ⟨origin, -, bound⟩ := foldl_farther_spec (longest?_eq_foldl fold regex cursor ▸ chosen)
  refine ⟨?_, bound⟩
  rcases origin with none' | member
  · cases none'
  · exact member

theorem longest?_eq_none {fold : Bool} {regex : Regex} {cursor : Cursor}
    (none' : regex.longest? fold cursor = none) : regex.ends fold cursor = [] := by
  rw [longest?_eq_foldl] at none'
  cases matches' : regex.ends fold cursor with
  | nil => rfl
  | cons first cursors =>
    have course : ∀ (cursors : List Cursor) (best : Cursor),
        cursors.foldl farther (some best) ≠ none := by
      intro cursors
      induction cursors with
      | nil => exact nofun
      | cons other cursors ih =>
        intro best
        obtain ⟨next, same, -⟩ := farther_spec (some best) other
        rw [List.foldl_cons, same]
        exact ih next
    rw [matches', List.foldl_cons] at none'
    exact absurd none' (course cursors first)

/-- The place behind some characters of a text that starts at a place. -/
def placeIn (cursor : Cursor) (text : List Char) (count : Nat) : Cursor :=
  { cursor with
    index := cursor.index + count
    before := if count = 0 then cursor.before else text[count - 1]?
    after := text.drop count }

theorem placeIn_succ (cursor : Cursor) (c : Char) (text : List Char) (count : Nat) :
    placeIn cursor (c :: text) (count + 1) =
      placeIn { cursor with index := cursor.index + 1, before := some c } text count := by
  have before : (if count + 1 = 0 then cursor.before else (c :: text)[count + 1 - 1]?) =
      if count = 0 then some c else text[count - 1]? := by
    cases count <;> rfl
  simp only [placeIn, before, List.drop_succ_cons, Nat.add_assoc, Nat.add_comm 1 count]

/-- A search takes the text apart, and the match is the longest one at the first place with any. -/
theorem searchFrom?_eq_some {fold : Bool} {regex : Regex} {cursor : Cursor} {text : List Char}
    {found : RegexMatch} (search : regex.searchFrom? fold cursor text = some found) :
    text = found.before ++ (found.text ++ found.next.after) ∧
      found.next ∈ regex.ends fold (placeIn cursor text found.before.length) ∧
      (∀ other ∈ regex.ends fold (placeIn cursor text found.before.length),
        other.index ≤ found.next.index) ∧
      ∀ count < found.before.length, regex.ends fold (placeIn cursor text count) = [] := by
  induction text generalizing cursor found with
  | nil =>
    obtain ⟨next, chosen, rfl⟩ := Option.map_eq_some_iff.mp search
    obtain ⟨member, longest⟩ := longest?_eq_some chosen
    obtain ⟨run, whole, -⟩ := reaches_of_mem_ends member
    exact ⟨(List.append_eq_nil_iff.mp whole.symm).2.symm, member, longest, nofun⟩
  | cons c rest ih =>
    rw [searchFrom?] at search
    split at search
    · rename_i next chosen
      obtain rfl := Option.some.inj search
      obtain ⟨member, longest⟩ := longest?_eq_some chosen
      obtain ⟨run, whole, index⟩ := reaches_of_mem_ends member
      refine ⟨?_, member, longest, nofun⟩
      change c :: rest = run ++ next.after at whole
      change next.index = cursor.index + run.length at index
      change c :: rest = (c :: rest).take (next.index - cursor.index) ++ next.after
      rw [index, Nat.add_sub_cancel_left, whole, List.take_left]
    · rename_i nothing
      obtain ⟨later, further, rfl⟩ := Option.map_eq_some_iff.mp search
      obtain ⟨whole, member, longest, first⟩ := ih further
      refine ⟨congrArg (c :: ·) whole, ?_, ?_, ?_⟩
      · exact placeIn_succ cursor c rest _ ▸ member
      · exact placeIn_succ cursor c rest _ ▸ longest
      · intro count earlier
        cases count with
        | zero => exact longest?_eq_none nothing
        | succ count =>
          rw [placeIn_succ]
          exact first count (Nat.lt_of_succ_lt_succ earlier)

/-- A search that finds nothing has tried every place up to the end of the text. -/
theorem searchFrom?_eq_none {fold : Bool} {regex : Regex} {cursor : Cursor} {text : List Char}
    (search : regex.searchFrom? fold cursor text = none) :
    ∀ count ≤ text.length, regex.ends fold (placeIn cursor text count) = [] := by
  induction text generalizing cursor with
  | nil =>
    intro count bound
    obtain rfl := Nat.le_zero.mp bound
    exact longest?_eq_none (Option.map_eq_none_iff.mp search)
  | cons c rest ih =>
    rw [searchFrom?] at search
    split at search
    · cases search
    · rename_i nothing
      intro count bound
      cases count with
      | zero => exact longest?_eq_none nothing
      | succ count =>
        rw [placeIn_succ]
        exact ih (Option.map_eq_none_iff.mp search) count (Nat.le_of_succ_le_succ bound)

end Regex

end TitleBar.Shell
