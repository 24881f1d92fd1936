import TitleBar.Glob.Expression

/-! # What a wildcard pattern matches

`Wild` says how a text can be split among the characters of a pattern. The matcher decides this by going
through the suffixes of the text, and so does the regular expression that a pattern is rewritten to: no
backslash of the pattern can be taken for one of those that escaping puts in front of a wildcard.
-/

namespace TitleBar.Glob

open Text

section Splitting

variable {p : Char} {pattern text : List Char}

theorem wild_nil_iff : Wild [] text ↔ text = [] := by
  constructor
  · rintro ⟨⟩
    rfl
  · rintro rfl
    exact .nil

theorem wild_star_iff : Wild ('*' :: pattern) text ↔ ∃ run rest, text = run ++ rest ∧ Wild pattern rest := by
  constructor
  · intro wild
    cases wild with
    | run run rest => exact ⟨run, _, rfl, rest⟩
    | same star => exact absurd rfl star
  · rintro ⟨run, rest, rfl, wild⟩
    exact .run run wild

theorem wild_mark_iff : Wild ('?' :: pattern) text ↔ ∃ c rest, text = c :: rest ∧ Wild pattern rest := by
  constructor
  · intro wild
    cases wild with
    | one c rest => exact ⟨c, _, rfl, rest⟩
    | same _ mark => exact absurd rfl mark
  · rintro ⟨c, rest, rfl, wild⟩
    exact .one c wild

theorem wild_cons_iff (star : p ≠ '*') (mark : p ≠ '?') :
    Wild (p :: pattern) text ↔
      ∃ c rest, text = c :: rest ∧ sameFolded p c = true ∧ Wild pattern rest := by
  constructor
  · intro wild
    cases wild with
    | run => exact absurd rfl star
    | one => exact absurd rfl mark
    | same _ _ folded rest => exact ⟨_, _, rfl, folded, rest⟩
  · rintro ⟨c, rest, rfl, folded, wild⟩
    exact .same star mark folded wild

/-- A star takes nothing, or one character more. -/
theorem wild_star_cons_iff {c : Char} :
    Wild ('*' :: pattern) (c :: text) ↔ Wild pattern (c :: text) ∨ Wild ('*' :: pattern) text := by
  simp only [wild_star_iff]
  constructor
  · rintro ⟨run, rest, whole, wild⟩
    cases run with
    | nil =>
      rw [List.nil_append] at whole
      exact .inl (whole ▸ wild)
    | cons d run =>
      obtain ⟨-, tail⟩ := List.cons.inj whole
      exact .inr ⟨run, rest, tail, wild⟩
  · rintro (wild | ⟨run, rest, whole, wild⟩)
    · exact ⟨[], c :: text, rfl, wild⟩
    · exact ⟨c :: run, rest, congrArg (c :: ·) whole, wild⟩

end Splitting

section Verdicts

theorem exists_verdicts_eq_cons (pattern text : List Char) :
    ∃ verdict others, verdicts pattern text = verdict :: others := by
  apply List.exists_cons_of_length_pos
  rw [verdicts_length]
  omega

/-- The verdicts on a text are one more than those on the text behind its first character. -/
theorem verdicts_cons (pattern : List Char) (c : Char) (text : List Char) :
    ∃ verdict, verdicts pattern (c :: text) = verdict :: verdicts pattern text := by
  induction pattern with
  | nil => exact ⟨false, rfl⟩
  | cons p pattern ih =>
    obtain ⟨first, whole⟩ := ih
    obtain ⟨second, others, behind⟩ := exists_verdicts_eq_cons pattern text
    simp only [verdicts, whole, behind]
    split
    · exact ⟨_, rfl⟩
    · split
      · exact ⟨_, rfl⟩
      · exact ⟨_, rfl⟩

theorem verdicts_nil (pattern : List Char) : ∃ verdict, verdicts pattern [] = [verdict] := by
  apply List.length_eq_one_iff.1
  rw [verdicts_length]
  rfl

theorem headD_anyLater (verdicts : List Bool) :
    (anyLater verdicts).headD false = verdicts.any id := by
  cases verdicts with
  | nil => rfl
  | cons verdict verdicts => rfl

theorem headD_append_false (verdicts : List Bool) :
    (verdicts ++ [false]).headD false = verdicts.headD false := by
  cases verdicts with
  | nil => rfl
  | cons verdict verdicts => rfl

/-- Some suffix matches behind a star if the whole text does with it. -/
theorem any_verdicts_iff {pattern : List Char}
    (first : ∀ text, (verdicts pattern text).headD false = true ↔ Wild pattern text)
    (text : List Char) : (verdicts pattern text).any id = true ↔ Wild ('*' :: pattern) text := by
  induction text with
  | nil =>
    have alone := first []
    obtain ⟨verdict, whole⟩ := verdicts_nil pattern
    rw [whole, List.headD_cons] at alone
    rw [whole, List.any_cons, List.any_nil, Bool.or_false, id, alone, wild_star_iff]
    constructor
    · intro wild
      exact ⟨[], [], rfl, wild⟩
    · rintro ⟨run, rest, whole, wild⟩
      obtain ⟨-, rfl⟩ := List.append_eq_nil_iff.1 whole.symm
      exact wild
  | cons c text ih =>
    have whole := first (c :: text)
    obtain ⟨verdict, split⟩ := verdicts_cons pattern c text
    rw [split, List.headD_cons] at whole
    rw [split, List.any_cons, Bool.or_eq_true, id, ih, whole, wild_star_cons_iff]

/-- The first verdict is that on the whole text. -/
theorem headD_verdicts_iff (pattern text : List Char) :
    (verdicts pattern text).headD false = true ↔ Wild pattern text := by
  induction pattern generalizing text with
  | nil =>
    rw [wild_nil_iff]
    cases text with
    | nil => simp [verdicts]
    | cons c text => simp [verdicts]
  | cons p pattern ih =>
    by_cases star : p = '*'
    · rw [verdicts, if_pos star, headD_anyLater, star]
      exact any_verdicts_iff ih text
    by_cases mark : p = '?'
    · rw [verdicts, if_neg star, if_pos mark, headD_append_false, mark, wild_mark_iff]
      cases text with
      | nil =>
        obtain ⟨verdict, alone⟩ := verdicts_nil pattern
        simp [alone]
      | cons c text =>
        obtain ⟨verdict, split⟩ := verdicts_cons pattern c text
        rw [split, List.tail_cons, ih]
        constructor
        · intro wild
          exact ⟨c, text, rfl, wild⟩
        · rintro ⟨_, _, same, wild⟩
          obtain ⟨-, rfl⟩ := List.cons.inj same
          exact wild
    · rw [verdicts, if_neg star, if_neg mark, headD_append_false, wild_cons_iff star mark]
      cases text with
      | nil => simp
      | cons c text =>
        obtain ⟨verdict, split⟩ := verdicts_cons pattern c text
        obtain ⟨next, others, behind⟩ := exists_verdicts_eq_cons pattern text
        have first := ih text
        rw [behind, List.headD_cons] at first
        rw [split, List.tail_cons, behind, List.zipWith_cons_cons, List.headD_cons, Bool.and_eq_true,
          first]
        constructor
        · rintro ⟨folded, wild⟩
          exact ⟨c, text, rfl, folded, wild⟩
        · rintro ⟨_, _, same, folded, wild⟩
          obtain ⟨rfl, rfl⟩ := List.cons.inj same
          exact ⟨folded, wild⟩

end Verdicts

instance (pattern text : List Char) : Decidable (Wild pattern text) :=
  decidable_of_iff _ (headD_verdicts_iff pattern text)

example : Wild ['f', '*', '?'] ['F', 'o'] := by decide

end TitleBar.Glob
