import TitleBar.Template.Closing
import Mathlib.Data.List.TakeWhile
import Mathlib.Tactic.Common

/-! # Looking ahead in front of a closing brace

Reading a body means reading a text that was cut off in front of its closing brace. No opening, no
`else` and no quoted run tells the two texts apart, unless it runs past the brace in the whole text:
none of their keywords holds a closing brace, and no run of blanks or word characters goes past one.
An opening runs past the brace only if the text leaves a parenthesis open. Only a `$` right in front
of the brace is read differently, but it ends at the same place.
-/

namespace TitleBar

open Text

theorem dropWhile_append_stop {p : Char → Bool} {c : Char} (stops : p c = false)
    (text rest : List Char) :
    (text ++ c :: rest).dropWhile p = text.dropWhile p ++ c :: rest := by
  induction text with
  | nil => simp [stops]
  | cons d text ih =>
    simp only [List.cons_append, List.dropWhile_cons, ih]
    split <;> rfl

/-- A run of characters ends inside of a text, or goes on behind it. -/
theorem run_append (p : Char → Bool) (text rest : List Char) :
    (∃ c after, text.dropWhile p = c :: after ∧
        (text ++ rest).takeWhile p = text.takeWhile p ∧
        (text ++ rest).dropWhile p = c :: after ++ rest) ∨
      (text.dropWhile p = [] ∧ (text ++ rest).dropWhile p = rest.dropWhile p) := by
  induction text with
  | nil => exact .inr ⟨rfl, rfl⟩
  | cons d text ih =>
    by_cases runs : p d = true
    · simpa only [List.cons_append, List.dropWhile_cons, List.takeWhile_cons, runs, if_true,
        List.cons.injEq, true_and] using ih
    · left
      exact ⟨d, text, by simp [runs], by simp [runs], by simp [runs]⟩

theorem strip?_append_brace {lead : List Char} (free : '}' ∉ lead) (text rest : List Char) :
    strip? lead (text ++ '}' :: rest) = (strip? lead text).map (· ++ '}' :: rest) := by
  induction lead generalizing text with
  | nil => rfl
  | cons l lead ih =>
    simp only [List.mem_cons, not_or] at free
    cases text with
    | nil => simp [strip?, Ne.symm free.1]
    | cons c text =>
      simp only [List.cons_append, strip?]
      split
      · exact ih free.2 text
      · rfl

theorem trimStart_append_brace (text rest : List Char) :
    trimStart (text ++ '}' :: rest) = trimStart text ++ '}' :: rest :=
  dropWhile_append_stop (by decide) text rest

theorem Tag.scanTail_append_brace (text rest : List Char) :
    Tag.scanTail (text ++ '}' :: rest) =
      ((Tag.scanTail text).1, (Tag.scanTail text).2 ++ '}' :: rest) := by
  induction text with
  | nil => rfl
  | cons c text ih =>
    simp only [List.cons_append, Tag.scanTail, ih]
    split
    · rfl
    · split
      · cases text with
        | nil => simp [Tag.isWord]
        | cons n text =>
          simp only [List.cons_append]
          split <;> rfl
      · rfl

theorem Tag.scan_append_brace (text rest : List Char) :
    Tag.scan (text ++ '}' :: rest) = ((Tag.scan text).1, (Tag.scan text).2 ++ '}' :: rest) := by
  cases text with
  | nil => rfl
  | cons c text =>
    simp only [List.cons_append, Tag.scan]
    split
    · exact Tag.scanTail_append_brace (c :: text) rest
    · rfl

namespace Template

/-- Whether each parenthesis that a text opens has a closing one behind it. -/
def Paired (text : List Char) : Prop := ∀ before after, text = before ++ '(' :: after → ')' ∈ after

theorem Paired.of_suffix {text rest : List Char} (paired : Paired text) (suffix : rest <:+ text) :
    Paired rest := by
  obtain ⟨lead, rfl⟩ := suffix
  rintro before after rfl
  exact paired (lead ++ before) after (List.append_assoc ..).symm

theorem paired_nil : Paired [] := by
  intro before after same
  simp at same

theorem paired_cons {c : Char} {text : List Char} :
    Paired (c :: text) ↔ (c = '(' → ')' ∈ text) ∧ Paired text := by
  constructor
  · intro paired
    refine ⟨?_, paired.of_suffix (List.suffix_cons c text)⟩
    rintro rfl
    exact paired [] text rfl
  · rintro ⟨head, paired⟩ before after same
    rcases before with _ | ⟨d, before⟩
    · obtain ⟨rfl, rfl⟩ := List.cons.inj same
      exact head rfl
    · obtain ⟨-, rfl⟩ := List.cons.inj same
      exact paired before after rfl

theorem paired_of_unopened {text : List Char} (unopened : '(' ∉ text) : Paired text := by
  rintro before after rfl
  simp at unopened

theorem Paired.append {first second : List Char} (paired : Paired first) (also : Paired second) :
    Paired (first ++ second) := by
  induction first with
  | nil => exact also
  | cons c first ih =>
    obtain ⟨head, tail⟩ := paired_cons.1 paired
    rw [List.cons_append, paired_cons]
    exact ⟨fun opens => List.mem_append_left second (head opens), ih tail⟩

instance decidablePaired : DecidablePred Paired
  | [] => .isTrue paired_nil
  | _ :: text =>
    have := decidablePaired text
    decidable_of_iff _ paired_cons.symm

/-- What a scanner finds in a text that goes on with a closing brace and `rest`, compared with what
it finds in the text alone: the same, unless it runs past the brace, which takes an open parenthesis. -/
def SameBefore {α : Type} (text rest : List Char) (whole alone : Option (α × List Char)) : Prop :=
  whole = alone.map (fun found => (found.1, found.2 ++ '}' :: rest)) ∨
    ¬Paired text ∧ ∃ found, whole = some found ∧ found.2.length ≤ rest.length

theorem strip?_suffix {lead text rest : List Char} (found : strip? lead text = some rest) :
    rest <:+ text := ⟨lead, (strip?_eq_some_iff.1 found).symm⟩

theorem trimStart_suffix (text : List Char) : trimStart text <:+ text := List.dropWhile_suffix _

/-- A list of arguments that is closed behind the brace only is none in the text alone. -/
theorem scanArguments_append_brace (text rest : List Char) :
    scanArguments (text ++ '}' :: rest) =
        ((scanArguments text).1, (scanArguments text).2 ++ '}' :: rest) ∨
      ¬Paired text ∧ (∃ inside, scanArguments text = ([], '(' :: inside)) ∧
        (scanArguments (text ++ '}' :: rest)).2.length ≤ rest.length := by
  rcases text with _ | ⟨c, text⟩
  · exact .inl rfl
  by_cases opens : c ≠ '('
  · left
    simp [scanArguments, opens]
  obtain rfl : c = '(' := by simpa using opens
  set outside : Char → Bool := fun c => c != ')' && c != '(' with outside_def
  simp only [List.cons_append, scanArguments, ← outside_def]
  rcases run_append outside text ('}' :: rest) with ⟨d, after, ends, run, found⟩ | ⟨ends, found⟩
  · left
    rw [run, found, ends, List.cons_append]
    split <;> simp_all
  · rw [ends, found, List.dropWhile_cons_of_pos rfl]
    have bound := (List.dropWhile_sublist (l := rest) outside).length_le
    split
    · rename_i after beyond
      right
      rw [beyond, List.length_cons] at bound
      refine ⟨fun paired => ?_, ⟨text, rfl⟩, Nat.le_of_succ_le bound⟩
      have runs := List.dropWhile_eq_nil_iff.1 ends ')' (paired [] text rfl)
      contradiction
    · left
      rfl

/-- A tag whose arguments are closed behind the brace only has none in the text alone, where a
parenthesis follows it. -/
theorem scanTag?_append_brace (text rest : List Char) :
    scanTag? (text ++ '}' :: rest) =
        (scanTag? text).map (fun found => (found.1, found.2 ++ '}' :: rest)) ∨
      ¬Paired text ∧ (∃ name inside, scanTag? text = some (name, '(' :: inside)) ∧
        ∃ tag after, scanTag? (text ++ '}' :: rest) = some (tag, after) ∧
          after.length ≤ rest.length := by
  unfold scanTag?
  rw [Tag.scan_append_brace]
  rcases scanned : Tag.scan text with ⟨_ | ⟨c, name⟩, after⟩
  · exact .inl rfl
  · rcases scanArguments_append_brace after rest with same | ⟨unpaired, ⟨inside, alone⟩, past⟩
    · left
      simp [same]
    · right
      simp only [alone]
      have suffix : after <:+ text := ⟨c :: name, by simpa only [scanned] using Tag.scan_append text⟩
      exact ⟨fun paired => unpaired (paired.of_suffix suffix), ⟨_, inside, rfl⟩, _, _, rfl, past⟩

theorem scanQuestion?_append_brace (text rest : List Char) :
    SameBefore text rest (scanQuestion? (text ++ '}' :: rest)) (scanQuestion? text) := by
  unfold scanQuestion?
  rcases scanTag?_append_brace text rest with
    same | ⟨unpaired, ⟨name, inside, alone⟩, tag, after, found, past⟩
  · left
    rw [same]
    rcases scanTag? text with _ | ⟨tag, _ | ⟨c, after⟩⟩
    · rfl
    · rfl
    · simp only [Option.map_some, List.cons_append]
      split <;> simp_all
  · rw [found, alone]
    rcases after with _ | ⟨c, after⟩
    · exact .inl rfl
    · by_cases opens : c = '{'
      · subst opens
        exact .inr ⟨unpaired, _, rfl, Nat.le_of_succ_le past⟩
      · left
        simp [opens]

/-- What a `$` opens in front of a tag, given what follows the tag. -/
def dollarTag (tag : List Char) : List Char → Opening × List Char
  | '?' :: '{' :: inside => (.present tag, inside)
  | '!' :: '{' :: inside => (.absent tag, inside)
  | after => (.value tag, after)

theorem dollarTag_append_brace (tag after rest : List Char) :
    dollarTag tag (after ++ '}' :: rest) =
      ((dollarTag tag after).1, (dollarTag tag after).2 ++ '}' :: rest) := by
  fun_cases dollarTag tag after with
  | case1 => rfl
  | case2 => rfl
  | case3 noPresent noAbsent =>
    rw [dollarTag.eq_3]
    · rintro inside same
      rcases after with _ | ⟨d, _ | ⟨e, after⟩⟩ <;> simp_all
    · rintro inside same
      rcases after with _ | ⟨d, _ | ⟨e, after⟩⟩ <;> simp_all

theorem dollarTag_length_le (tag after : List Char) :
    (dollarTag tag after).2.length ≤ after.length := by
  unfold dollarTag
  split
  · exact (Nat.le_add_right _ 2)
  · exact (Nat.le_add_right _ 2)
  · exact Nat.le_refl _

theorem scanDollar_cons {c : Char} (other : c ≠ '{') (text : List Char) :
    scanDollar (c :: text) =
      if isBlank c || c.isDigit then (.enclosing, c :: text)
      else match scanTag? (c :: text) with
        | none => (.dollar, c :: text)
        | some (tag, after) => dollarTag tag after := by
  unfold scanDollar
  split
  · contradiction
  · simp_all
  · rename_i same
    obtain ⟨rfl, rfl⟩ := List.cons.inj same
    by_cases blank : (isBlank c || c.isDigit) = true
    · rw [if_pos blank, if_pos blank]
    · rw [if_neg blank, if_neg blank]
      split
      · rename_i none
        rw [none]
      · rename_i present
        rw [present]
        rfl
      · rename_i absent
        rw [absent]
        rfl
      · rename_i noPresent noAbsent value
        rw [value]
        exact (dollarTag.eq_3 _ _ noPresent noAbsent).symm

theorem scanDollar_append_brace {text : List Char} (inside : text ≠ []) (rest : List Char) :
    SameBefore text rest (some (scanDollar (text ++ '}' :: rest))) (some (scanDollar text)) := by
  obtain ⟨c, text, rfl⟩ := List.exists_cons_of_ne_nil inside
  by_cases opens : c = '{'
  · subst opens
    exact .inl rfl
  have tagged := scanTag?_append_brace (c :: text) rest
  rw [List.cons_append] at tagged ⊢
  rw [scanDollar_cons opens, scanDollar_cons opens]
  split
  · exact .inl rfl
  · rcases tagged with same | ⟨unpaired, ⟨name, inside, alone⟩, tag, after, found, past⟩
    · left
      rw [same]
      rcases scanTag? (c :: text) with _ | ⟨tag, after⟩
      · rfl
      · simp only [Option.map_some, dollarTag_append_brace]
    · right
      rw [found]
      exact ⟨unpaired, _, rfl, Nat.le_trans (dollarTag_length_le tag after) past⟩

theorem scanIf?_append_brace (text rest : List Char) :
    SameBefore text rest (scanIf? (text ++ '}' :: rest)) (scanIf? text) := by
  simp only [scanIf?, Option.bind_eq_bind]
  rw [strip?_append_brace (by decide)]
  rcases word : strip? ['f'] text with _ | afterWord
  · exact .inl rfl
  simp only [Option.map_some, Option.bind_some, trimStart_append_brace]
  rw [strip?_append_brace (by decide)]
  rcases list : strip? ['('] (trimStart afterWord) with _ | inside
  · exact .inl rfl
  simp only [Option.map_some, Option.bind_some]
  rcases run_append (· != ')') inside ('}' :: rest) with ⟨d, after, ends, run, found⟩ | ⟨ends, found⟩
  · left
    rw [run, found, ends, strip?_append_brace (by decide)]
    rcases strip? [')'] (d :: after) with _ | behind
    · rfl
    simp only [Option.map_some, Option.bind_some, trimStart_append_brace]
    rw [strip?_append_brace (by decide)]
    rcases strip? ['{'] (trimStart behind) with _ | body
    · rfl
    simp only [Option.map_some, Option.bind_some]
    split <;> rfl
  · -- The list of the text alone is never closed; that of the whole text is closed behind the brace.
    rw [ends, found, List.dropWhile_cons_of_pos rfl]
    rcases closes : strip? [')'] (rest.dropWhile (· != ')')) with _ | behind
    · exact .inl rfl
    rcases opens : strip? ['{'] (trimStart behind) with _ | body
    · left
      simp [opens, strip?]
    have := strip?_length closes
    have := strip?_length opens
    have := trimStart_length_le behind
    have := (List.dropWhile_sublist (l := rest) (· != ')')).length_le
    have unpaired : ¬Paired text := by
      intro paired
      have header : Paired (trimStart afterWord) :=
        paired.of_suffix ((trimStart_suffix afterWord).trans (strip?_suffix word))
      have opened : trimStart afterWord = ['('] ++ inside := strip?_eq_some_iff.1 list
      have runs := List.dropWhile_eq_nil_iff.1 ends ')' (header [] inside opened)
      contradiction
    simp only [Option.bind_some, opens]
    split
    · exact .inl rfl
    · exact .inr ⟨unpaired, _, rfl, by simp only; omega⟩

theorem scanElse?_append_brace (text rest : List Char) :
    scanElse? (text ++ '}' :: rest) = (scanElse? text).map (· ++ '}' :: rest) := by
  simp only [scanElse?, Option.bind_eq_bind, trimStart_append_brace]
  rw [strip?_append_brace (by decide)]
  rcases strip? ['e', 'l', 's', 'e'] (trimStart text) with _ | behind
  · rfl
  simp only [Option.map_some, Option.bind_some, trimStart_append_brace]
  exact strip?_append_brace (by decide) (trimStart behind) rest

/-- Nothing but a `$` right in front of the brace opens something else than in the text alone. -/
theorem scanOpening?_append_brace {glued : Bool} {c : Char} {text : List Char}
    (other : ¬(c = '$' ∧ text = [])) (rest : List Char) :
    SameBefore text rest (scanOpening? glued (c :: text ++ '}' :: rest))
      (scanOpening? glued (c :: text)) := by
  rw [List.cons_append]
  by_cases dollar : c = '$'
  · subst dollar
    exact scanDollar_append_brace (by simpa using other) rest
  by_cases question : c = '?'
  · subst question
    exact scanQuestion?_append_brace text rest
  by_cases letter : c = 'i'
  · subst letter
    cases glued with
    | true => exact .inl rfl
    | false => exact scanIf?_append_brace text rest
  · left
    simp [scanOpening?, dollar, question, letter]

/-- What opens in front of the brace opens in the text alone. -/
theorem scanOpening?_of_append_brace {glued : Bool} {c : Char} {text rest after : List Char}
    {opening : Opening}
    (found : scanOpening? glued (c :: text ++ '}' :: rest) = some (opening, after ++ '}' :: rest)) :
    scanOpening? glued (c :: text) =
      some (if c = '$' ∧ text = [] then .enclosing else opening, after) := by
  by_cases last : c = '$' ∧ text = []
  · obtain ⟨rfl, rfl⟩ := last
    obtain ⟨-, same⟩ := Prod.mk.inj (Option.some.inj found)
    obtain rfl : after = [] := by simpa using same.symm
    rfl
  rw [if_neg last]
  rcases scanOpening?_append_brace last rest with same | ⟨-, _, past, short⟩
  · rw [found] at same
    obtain ⟨result, alone, same⟩ := Option.map_eq_some_iff.1 same.symm
    obtain ⟨first, ends⟩ := Prod.mk.inj same
    rw [alone, ← first, ← List.append_cancel_right ends]
  · rw [found] at past
    obtain rfl := Option.some.inj past
    simp only [List.length_append, List.length_cons] at short
    omega

/-- What opens nothing in front of the brace opens nothing in the text alone. -/
theorem scanOpening?_none_of_append_brace {glued : Bool} {c : Char} {text rest : List Char}
    (nothing : scanOpening? glued (c :: text ++ '}' :: rest) = none) :
    scanOpening? glued (c :: text) = none := by
  by_cases last : c = '$' ∧ text = []
  · obtain ⟨rfl, rfl⟩ := last
    contradiction
  rcases scanOpening?_append_brace last rest with same | ⟨-, _, past, -⟩
  · rwa [nothing, eq_comm, Option.map_eq_none_iff] at same
  · rw [nothing] at past
    contradiction

/-- What opens in a text that leaves no parenthesis open also opens in front of the brace; only a `$`
right in front of it stands for itself. -/
theorem scanOpening?_append_brace_of_paired {glued : Bool} {c : Char} {text : List Char}
    (paired : Paired text) (rest : List Char) :
    scanOpening? glued (c :: text ++ '}' :: rest) = (scanOpening? glued (c :: text)).map fun found =>
      (if c = '$' ∧ text = [] then .dollar else found.1, found.2 ++ '}' :: rest) := by
  by_cases last : c = '$' ∧ text = []
  · obtain ⟨rfl, rfl⟩ := last
    rfl
  simp only [if_neg last]
  rcases scanOpening?_append_brace last rest with same | ⟨unpaired, -⟩
  · exact same
  · exact absurd paired unpaired

/-- A quoted run ends at the same place whatever follows it. -/
theorem quoteEnd?_append {text after : List Char} (found : quoteEnd? text = some after)
    (rest : List Char) : quoteEnd? (text ++ rest) = some (after ++ rest) := by
  fun_induction quoteEnd? text with
  | case1 => contradiction
  | case2 c text ih => simpa [quoteEnd?] using ih found
  | case3 text => simp [quoteEnd?, Option.some.inj found]
  | case4 c text noEscape noQuote ih =>
    by_cases escape : c = '\\'
    · subst escape
      rcases text with _ | ⟨d, text⟩
      · contradiction
      · exact (noEscape d text rfl rfl).elim
    · rw [List.cons_append, quoteEnd?.eq_4 c _ (fun _ _ same => absurd same escape) noQuote]
      exact ih found

/-- The text behind a quoted run that is closed in front of the brace. -/
theorem quoteEnd?_append_brace {text rest after : List Char}
    (found : quoteEnd? (text ++ '}' :: rest) = some (after ++ '}' :: rest)) :
    quoteEnd? text = some after := by
  fun_induction quoteEnd? text with
  | case1 =>
    have := quoteEnd?_length_lt found
    simp only [List.nil_append, List.length_append, List.length_cons] at this
    omega
  | case2 c text ih =>
    simp only [List.cons_append, quoteEnd?] at found
    exact ih found
  | case3 text =>
    simpa [quoteEnd?] using found
  | case4 c text noEscape noQuote ih =>
    by_cases escape : c = '\\'
    · -- A backslash at the end of the text takes the brace away, and the run ends behind it.
      subst escape
      cases text with
      | cons d text => exact (noEscape d text rfl rfl).elim
      | nil =>
        simp only [List.cons_append, List.nil_append, quoteEnd?] at found
        have := quoteEnd?_length_lt found
        simp only [List.length_append, List.length_cons] at this
        omega
    · apply ih
      rwa [List.cons_append, quoteEnd?.eq_4 c _ (fun _ _ same => absurd same escape) noQuote] at found

end Template

end TitleBar
