import TitleBar.Shell.Pattern

/-! # What patterns of the shell match

The parts of a pattern share a text out among them. Reading the parts takes no more steps than the
pattern has characters, and a pattern without wildcards stands for its own characters and for
nothing else.
-/

namespace TitleBar.Shell

section Parts

/-- How parts share a text out among them: any text to `*`, and a character to each other part. -/
inductive Shares : List PatternPart → List Char → Prop where
  | nil : Shares [] []
  | text (run : List Char) {parts : List PatternPart} {rest : List Char} :
    Shares parts rest → Shares (.anyText :: parts) (run ++ rest)
  | one {part : PatternPart} {c : Char} {parts : List PatternPart} {rest : List Char} :
    part ≠ .anyText → part.accepts c = true → Shares parts rest →
      Shares (part :: parts) (c :: rest)

theorem matchesParts_anyText_iff {parts : List PatternPart} {text : List Char} :
    matchesParts (.anyText :: parts) text = true ↔
      ∃ run rest, text = run ++ rest ∧ matchesParts parts rest = true := by
  rw [matchesParts, List.any_eq_true]
  constructor
  · rintro ⟨n, -, found⟩
    exact ⟨text.take n, text.drop n, (List.take_append_drop n text).symm, found⟩
  · rintro ⟨run, rest, rfl, found⟩
    refine ⟨run.length, ?_, by rwa [List.drop_left]⟩
    rw [List.mem_range, List.length_append]
    omega

theorem matchesParts_cons {part : PatternPart} (single : part ≠ .anyText)
    (parts : List PatternPart) (c : Char) (text : List Char) :
    matchesParts (part :: parts) (c :: text) = (part.accepts c && matchesParts parts text) := by
  cases part with
  | anyText => exact absurd rfl single
  | char | anyChar | member => rfl

theorem matchesParts_cons_nil {part : PatternPart} (single : part ≠ .anyText)
    (parts : List PatternPart) : matchesParts (part :: parts) [] = false := by
  cases part with
  | anyText => exact absurd rfl single
  | char | anyChar | member => rfl

/-- Parts match exactly the texts that can be shared out among them. -/
theorem matchesParts_iff_shares {parts : List PatternPart} {text : List Char} :
    matchesParts parts text = true ↔ Shares parts text := by
  constructor
  · intro found
    induction parts generalizing text with
    | nil =>
      obtain rfl := List.isEmpty_iff.mp found
      exact .nil
    | cons part parts ih =>
      by_cases single : part = .anyText
      · subst single
        obtain ⟨run, rest, rfl, behind⟩ := matchesParts_anyText_iff.mp found
        exact .text run (ih behind)
      · cases text with
        | nil => exact absurd found (by rw [matchesParts_cons_nil single]; exact Bool.false_ne_true)
        | cons c text =>
          rw [matchesParts_cons single, Bool.and_eq_true] at found
          exact .one single found.1 (ih found.2)
  · intro shares
    induction shares with
    | nil => rfl
    | text run _ ih => exact matchesParts_anyText_iff.mpr ⟨run, _, rfl, ih⟩
    | one single accepts _ ih => rw [matchesParts_cons single, accepts, ih]; rfl

end Parts

section Reading

theorem readClass?_shorter {items rest : List PatternChar} {ranges : List (Char × Char)}
    (read : readClass? items = some (ranges, rest)) : rest.length < items.length := by
  simp only [readClass?] at read
  split at read
  · rename_i quoted items
    split at read
    · rename_i colon bracket rest' behind
      obtain ⟨ranges', -, pair⟩ := Option.map_eq_some_iff.mp read
      obtain ⟨-, rfl⟩ := Prod.mk.inj pair
      have shorter := congrArg List.length behind
      simp only [List.length_drop, List.length_cons] at shorter ⊢
      omega
    · cases read
  · cases read

theorem readRanges_shorter {first : Bool} {fuel : Nat} {items rest : List PatternChar}
    {ranges : List (Char × Char)} (read : readRanges first fuel items = some (ranges, rest)) :
    rest.length < items.length := by
  induction fuel generalizing first items rest ranges with
  | zero => cases read
  | succ fuel ih =>
    -- all ways to go on put some ranges in front of what is read next
    have further {items : List PatternChar} (range : List (Char × Char))
        (read : (readRanges false fuel items).bind (fun more => some (range ++ more.1, more.2)) =
          some (ranges, rest)) :
        rest.length < items.length := by
      obtain ⟨more, inner, pair⟩ := Option.bind_eq_some_iff.mp read
      obtain ⟨-, rfl⟩ := Prod.mk.inj (Option.some.inj pair)
      exact ih inner
    cases items with
    | nil => cases read
    | cons a items =>
      rw [readRanges.eq_def] at read
      dsimp only at read
      rw [List.length_cons]
      split at read
      · obtain ⟨-, rfl⟩ := Prod.mk.inj (Option.some.inj read)
        exact Nat.lt_succ_self _
      · split at read
        · rename_i ranges' behind named
          have shorter := readClass?_shorter (Option.ite_none_right_eq_some.mp named).2
          have := further ranges' read
          omega
        · split at read
          · split at read
            · have := further [(a.char, a.char)] read
              omega
            · have := further [(a.char, _)] read
              rw [List.length_cons, List.length_cons]
              omega
          · have := further [(a.char, a.char)] read
            omega

theorem readMembers_le {pattern rest : List PatternChar} {part : PatternPart}
    (read : readMembers pattern = some (part, rest)) : rest.length ≤ pattern.length := by
  simp only [readMembers] at read
  obtain ⟨⟨ranges, left⟩, inner, pair⟩ := Option.map_eq_some_iff.mp read
  obtain ⟨-, rfl⟩ := Prod.mk.inj pair
  have shorter := readRanges_shorter inner
  split at shorter <;> simp only [List.length_cons] at shorter ⊢ <;> omega

/-- Any larger number of steps reads the same parts. -/
theorem patternPartsWithin_eq {pattern : List PatternChar} {fuel other : Nat}
    (enough : pattern.length < fuel) (enough' : pattern.length < other) :
    patternPartsWithin fuel pattern = patternPartsWithin other pattern := by
  induction fuel generalizing pattern other with
  | zero => exact absurd enough (Nat.not_lt_zero _)
  | succ fuel ih =>
    obtain ⟨other, rfl⟩ := Nat.exists_eq_succ_of_ne_zero (Nat.ne_zero_of_lt enough')
    cases pattern with
    | nil => rfl
    | cons c rest =>
      rw [List.length_cons] at enough enough'
      have same {left : List PatternChar} (shorter : left.length ≤ rest.length) :
          patternPartsWithin fuel left = patternPartsWithin other left :=
        ih (by omega) (by omega)
      have next := same (Nat.le_refl _)
      rw [patternPartsWithin.eq_def, patternPartsWithin.eq_def (other + 1)]
      dsimp only
      split
      · rfl
      · rename_i whole
        obtain ⟨-, rfl⟩ := List.cons.inj whole
        rw [next]
      · rename_i whole
        obtain ⟨-, rfl⟩ := List.cons.inj whole
        rw [next]
      · rename_i whole
        obtain ⟨-, rfl⟩ := List.cons.inj whole
        split
        · rename_i read
          rw [same (readMembers_le read)]
        · rw [next]
      · rename_i whole
        obtain ⟨-, rfl⟩ := List.cons.inj whole
        rw [next]

end Reading

section Plain

theorem shares_chars_iff {chars text : List Char} :
    Shares (chars.map PatternPart.char) text ↔ text = chars := by
  constructor
  · intro shares
    induction chars generalizing text with
    | nil =>
      cases shares
      rfl
    | cons c chars ih =>
      cases shares with
      | one single accepts rest =>
        rw [ih rest, beq_iff_eq.mp accepts]
  · rintro rfl
    induction text with
    | nil => exact .nil
    | cons c text ih => exact .one nofun (beq_self_eq_true c) ih

theorem patternPartsWithin_of_plain {c : PatternChar} (fuel : Nat) (rest : List PatternChar)
    (plain : (!c.quoted && ['*', '?', '['].contains c.char) = false) :
    patternPartsWithin (fuel + 1) (c :: rest) = .char c.char :: patternPartsWithin fuel rest := by
  rw [patternPartsWithin.eq_def]
  dsimp only
  split
  · rename_i none
    cases none
  · rename_i whole
    obtain ⟨rfl, -⟩ := List.cons.inj whole
    exact absurd plain (by decide)
  · rename_i whole
    obtain ⟨rfl, -⟩ := List.cons.inj whole
    exact absurd plain (by decide)
  · rename_i whole
    obtain ⟨rfl, -⟩ := List.cons.inj whole
    exact absurd plain (by decide)
  · rename_i whole
    obtain ⟨rfl, rfl⟩ := List.cons.inj whole
    rfl

/-- Without a wildcard every character is a part of its own. -/
theorem patternPartsWithin_of_not_hasWildcard {pattern : List PatternChar} {fuel : Nat}
    (plain : hasWildcard pattern = false) (enough : pattern.length < fuel) :
    patternPartsWithin fuel pattern = (pattern.map PatternChar.char).map .char := by
  induction pattern generalizing fuel with
  | nil =>
    obtain ⟨fuel, rfl⟩ := Nat.exists_eq_succ_of_ne_zero (Nat.ne_zero_of_lt enough)
    rfl
  | cons c rest ih =>
    obtain ⟨fuel, rfl⟩ := Nat.exists_eq_succ_of_ne_zero (Nat.ne_zero_of_lt enough)
    rw [hasWildcard, List.any_cons, Bool.or_eq_false_iff] at plain
    rw [patternPartsWithin_of_plain fuel rest plain.1,
      ih plain.2 (Nat.lt_of_succ_lt_succ enough)]
    rfl

/-- A pattern without wildcards matches its own characters and nothing else, so that it does not
have to be looked for among the names in a directory. -/
theorem matchesPattern_iff_of_not_hasWildcard {pattern : List PatternChar} {text : List Char}
    (plain : hasWildcard pattern = false) :
    matchesPattern pattern text = true ↔ text = pattern.map PatternChar.char := by
  rw [matchesPattern, matchesParts_iff_shares,
    patternPartsWithin_of_not_hasWildcard plain (Nat.lt_succ_self _), shares_chars_iff]

end Plain

section Cutting

/-- The first number that passes is the best one, by the order in which the numbers are tried. -/
theorem find?_best {passes : Nat → Bool} {counts : List Nat} {better : Nat → Nat → Prop}
    (order : counts.Pairwise better) {n : Nat} (found : counts.find? passes = some n) :
    passes n = true ∧ n ∈ counts ∧ ∀ m ∈ counts, passes m = true → m = n ∨ better n m := by
  obtain ⟨passed, before, behind, rfl, failed⟩ := List.find?_eq_some_iff_append.mp found
  refine ⟨passed, List.mem_append_right _ (List.mem_cons_self ..), fun m member passes' => ?_⟩
  rcases List.mem_append.mp member with early | late
  · have fails := failed m early
    rw [passes'] at fails
    cases fails
  · rcases List.mem_cons.mp late with same | late
    · exact .inl same
    · have rest := (List.pairwise_append.mp order).2.1
      exact .inr ((List.pairwise_cons.mp rest).1 m late)

/-- The numbers of characters that are tried, from the best one on. -/
theorem counts_pairwise (longest : Bool) (limit : Nat) :
    (if longest then (List.range limit).reverse else List.range limit).Pairwise
      fun n m => if longest then m ≤ n else n ≤ m := by
  cases longest with
  | false => exact List.pairwise_le_range
  | true => exact List.pairwise_reverse.mpr List.pairwise_le_range

/-- The characters at an end of a text. -/
def atEdge (atEnd : Bool) (text : List Char) (n : Nat) : List Char :=
  if atEnd then text.drop (text.length - n) else text.take n

theorem atEdge_start (first rest : List Char) : atEdge false (first ++ rest) first.length = first :=
  List.take_left

theorem atEdge_end (rest last : List Char) : atEdge true (rest ++ last) last.length = last := by
  rw [atEdge, if_pos rfl, List.length_append, Nat.add_sub_cancel, List.drop_left]

/-- Either the best number of characters that match is removed, or no number of them matches and the
text stays as it is. -/
theorem withoutMatch_cases (atEnd longest : Bool) (pattern : List PatternChar) (text : List Char) :
    (∃ n ≤ text.length,
      withoutMatch atEnd longest pattern text =
        (if atEnd then text.take (text.length - n) else text.drop n) ∧
      matchesPattern pattern (atEdge atEnd text n) = true ∧
      ∀ m ≤ text.length, matchesPattern pattern (atEdge atEnd text m) = true →
        if longest then m ≤ n else n ≤ m) ∨
    (withoutMatch atEnd longest pattern text = text ∧
      ∀ m ≤ text.length, matchesPattern pattern (atEdge atEnd text m) = false) := by
  have mem {n : Nat} : n ∈ (if longest then (List.range (text.length + 1)).reverse
      else List.range (text.length + 1)) ↔ n ≤ text.length := by
    rw [← Nat.lt_succ_iff, ← List.mem_range]
    cases longest with
    | false => exact Iff.rfl
    | true => exact List.mem_reverse
  cases found : (if longest then (List.range (text.length + 1)).reverse
      else List.range (text.length + 1)).find? fun n => matchesPattern pattern (atEdge atEnd text n) with
  | none =>
    refine .inr ⟨?_, fun m bound => ?_⟩
    · simp only [atEdge] at found
      simp only [withoutMatch, found]
    · exact Bool.eq_false_iff.mpr (List.find?_eq_none.mp found m (mem.mpr bound))
  | some n =>
    obtain ⟨passed, member, best⟩ := find?_best (counts_pairwise longest _) found
    refine .inl ⟨n, mem.mp member, ?_, passed, fun m bound passes => ?_⟩
    · simp only [atEdge] at found
      simp only [withoutMatch, found]
    · rcases best m (mem.mpr bound) passes with rfl | better
      · split <;> exact Nat.le_refl _
      · exact better

/-- What is removed at the start is what the pattern matches there, as long or as short as possible;
without such a match the text stays as it is. -/
theorem withoutMatch_start (longest : Bool) (pattern : List PatternChar) (text : List Char) :
    (∃ removed, text = removed ++ withoutMatch false longest pattern text ∧
      matchesPattern pattern removed = true ∧
      ∀ other rest, text = other ++ rest → matchesPattern pattern other = true →
        if longest then other.length ≤ removed.length else removed.length ≤ other.length) ∨
    (withoutMatch false longest pattern text = text ∧
      ∀ other rest, text = other ++ rest → matchesPattern pattern other = false) := by
  rcases withoutMatch_cases false longest pattern text with
    ⟨n, bound, kept, passed, best⟩ | ⟨kept, failed⟩
  · rw [if_neg Bool.false_ne_true] at kept
    refine .inl ⟨text.take n, by rw [kept, List.take_append_drop], passed, ?_⟩
    rintro other rest rfl passes
    rw [List.length_take_of_le bound]
    refine best other.length (by rw [List.length_append]; omega) ?_
    rwa [atEdge_start]
  · refine .inr ⟨kept, ?_⟩
    rintro other rest rfl
    have fails := failed other.length (by rw [List.length_append]; omega)
    rwa [atEdge_start] at fails

/-- What is removed at the end is what the pattern matches there, as long or as short as possible;
without such a match the text stays as it is. -/
theorem withoutMatch_end (longest : Bool) (pattern : List PatternChar) (text : List Char) :
    (∃ removed, text = withoutMatch true longest pattern text ++ removed ∧
      matchesPattern pattern removed = true ∧
      ∀ rest other, text = rest ++ other → matchesPattern pattern other = true →
        if longest then other.length ≤ removed.length else removed.length ≤ other.length) ∨
    (withoutMatch true longest pattern text = text ∧
      ∀ rest other, text = rest ++ other → matchesPattern pattern other = false) := by
  rcases withoutMatch_cases true longest pattern text with
    ⟨n, bound, kept, passed, best⟩ | ⟨kept, failed⟩
  · rw [if_pos rfl] at kept
    refine .inl ⟨text.drop (text.length - n), by rw [kept, List.take_append_drop], passed, ?_⟩
    rintro rest other rfl passes
    rw [List.length_drop, Nat.sub_sub_self bound]
    refine best other.length (by rw [List.length_append]; omega) ?_
    rwa [atEdge_end]
  · refine .inr ⟨kept, ?_⟩
    rintro rest other rfl
    have fails := failed other.length (by rw [List.length_append]; omega)
    rwa [atEdge_end] at fails

end Cutting

end TitleBar.Shell
