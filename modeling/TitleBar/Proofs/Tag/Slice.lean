import TitleBar.Proofs.Tag.Identifier
import TitleBar.Proofs.Text.Pieces

/-! # Slicing calls

A call of a slicing function is read back as it is written: its arguments are found between its
parentheses, and its numbers are those whose digits stand there.
-/

namespace TitleBar.Tag

open Text

/-! ## Numbers -/

theorem foldlM_digits {digits : List Char} (all : ∀ c ∈ digits, c.isDigit) (start : Nat) :
    digits.foldlM (fun n c => if c.isDigit then some (n * 10 + (c.toNat - 48)) else none) start =
      some (Nat.ofDigitChars 10 digits start) := by
  induction digits generalizing start with
  | nil => simp
  | cons c digits ih =>
    obtain ⟨digit, others⟩ := List.forall_mem_cons.1 all
    rw [List.foldlM_cons, if_pos digit, Option.bind_eq_bind, Option.bind_some, ih others,
      Nat.ofDigitChars_cons, Nat.mul_comm 10]
    rfl

theorem isDigit_of_foldlM {digits : List Char} {start n : Nat}
    (read : digits.foldlM (fun n c => if c.isDigit then some (n * 10 + (c.toNat - 48)) else none)
      start = some n) : ∀ c ∈ digits, c.isDigit := by
  induction digits generalizing start with
  | nil => exact nofun
  | cons c digits ih =>
    rw [List.foldlM_cons] at read
    split at read
    · rename_i digit
      exact List.forall_mem_cons.2 ⟨digit, ih read⟩
    · contradiction

/-- Digits have the value that the decimal system gives them; no other text has one. -/
theorem digitsValue?_eq_some_iff {digits : List Char} {n : Nat} :
    digitsValue? digits = some n ↔
      digits ≠ [] ∧ (∀ c ∈ digits, c.isDigit) ∧ Nat.ofDigitChars 10 digits 0 = n := by
  rw [digitsValue?]
  rcases digits with _ | ⟨c, rest⟩
  · simp
  rw [if_neg (by simp)]
  constructor
  · intro read
    have all := isDigit_of_foldlM read
    rw [foldlM_digits all] at read
    exact ⟨List.cons_ne_nil c rest, all, Option.some.inj read⟩
  · rintro ⟨-, all, rfl⟩
    exact foldlM_digits all 0

theorem digitsValue?_toDigits (n : Nat) : digitsValue? (Nat.toDigits 10 n) = some n := by
  have digits : ∀ c ∈ Nat.toDigits 10 n, c.isDigit :=
    fun _ member => Nat.isDigit_of_mem_toDigits (by decide) (by decide) member
  rw [digitsValue?, if_neg (by simp), foldlM_digits digits, Nat.ofDigitChars_ten_toDigits]

/-- A number that is not too large is read back from its digits. -/
theorem count?_repr {n : Nat} (bound : n ≤ maxCount) : count? n.repr = some n := by
  have unsigned (rest : List Char) : Nat.toDigits 10 n ≠ '+' :: rest := by
    intro same
    have digit : '+'.isDigit := by
      apply Nat.isDigit_of_mem_toDigits (b := 10) (n := n) (by decide) (by decide)
      rw [same]
      exact List.mem_cons_self
    contradiction
  rw [count?, Nat.toList_repr]
  split
  · rename_i rest same
    exact absurd same (unsigned rest)
  · rw [digitsValue?_toDigits, Option.bind_eq_bind, Option.bind_some, if_pos bound]

/-- A text writes a number in decimal digits, perhaps behind a plus sign, with white space around it;
the number is not larger than a count may be. -/
def Writes (text : List Char) (n : Nat) : Prop :=
  n ≤ maxCount ∧ ∃ digits, (trim text = digits ∨ trim text = '+' :: digits) ∧
    digits ≠ [] ∧ (∀ c ∈ digits, c.isDigit) ∧ Nat.ofDigitChars 10 digits 0 = n

theorem count?_eq_some_iff {text : List Char} {n : Nat} :
    count? (String.ofList (trim text)) = some n ↔ Writes text n := by
  have bounded {value? : Option Nat} :
      (value?.bind fun n => if n ≤ maxCount then some n else none) = some n ↔
        n ≤ maxCount ∧ value? = some n := by
    cases value? with
    | none => simp
    | some m =>
      simp only [Option.bind_some, Option.ite_none_right_eq_some, Option.some.injEq]
      constructor
      · rintro ⟨small, rfl⟩
        exact ⟨small, rfl⟩
      · rintro ⟨small, rfl⟩
        exact ⟨small, rfl⟩
  rw [count?, Option.bind_eq_bind, bounded, digitsValue?_eq_some_iff, Writes, String.toList_ofList]
  refine and_congr_right fun _ => ?_
  split
  case h_1 rest signed =>
    rw [signed]
    constructor
    · intro read
      exact ⟨rest, .inr rfl, read⟩
    · rintro ⟨digits, rfl | same, some, all, value⟩
      · exact absurd (all '+' List.mem_cons_self) (by decide)
      · obtain rfl := (List.cons.inj same).2
        exact ⟨some, all, value⟩
  case h_2 unsigned =>
    constructor
    · intro read
      exact ⟨trim text, .inl rfl, read⟩
    · rintro ⟨digits, rfl | same, read⟩
      · exact read
      · exact absurd same (unsigned digits)

/-- The digits of a number hold neither white space nor a comma. -/
theorem plain_toDigits (n : Nat) : ∀ c ∈ Nat.toDigits 10 n, isBlank c = false ∧ c ≠ ',' := by
  intro c member
  have digit := Nat.isDigit_of_mem_toDigits (by decide) (by decide) member
  have word : isWord c := by
    simp only [Char.isDigit, Bool.and_eq_true, decide_eq_true_eq] at digit
    have range : 48 ≤ c.val ∧ c.val ≤ 57 := digit
    simp [isWord, Char.le_def, range]
  refine ⟨(solid_of_isWord_or (.inl word)).1, ?_⟩
  rintro rfl
  contradiction

/-- The digits of a number, with white space around them, write it. -/
theorem writes_toDigits {n : Nat} (bound : n ≤ maxCount) {before after : List Char}
    (blank : ∀ c ∈ before ++ after, isBlank c) : Writes (before ++ Nat.toDigits 10 n ++ after) n := by
  rw [List.forall_mem_append] at blank
  have solid : ∀ c ∈ Nat.toDigits 10 n, isBlank c = false :=
    fun c member => (plain_toDigits n c member).1
  rw [← count?_eq_some_iff, trim_of_blank blank.1 solid blank.2, ← Nat.repr_eq_ofList_toDigits,
    count?_repr bound]

/-! ## Calls -/

/-- The text of a call. -/
def call (function : String) (arguments : List (List Char)) : String :=
  String.ofList (function.toList ++ '(' :: (join [','] arguments ++ [')']))

variable {function : String} {arguments : List (List Char)}

/-- The arguments of a call are what stands between the commas in its parentheses; white space alone
is no argument. -/
theorem arguments?_inside (inside : List Char) :
    arguments? (String.ofList (function.toList ++ '(' :: (inside ++ [')']))) function =
      some (if trim inside = [] then [] else
        (splitAt (· == ',') inside).map fun argument => String.ofList (trim argument)) := by
  have named : strip? function.toList
      (String.ofList (function.toList ++ '(' :: (inside ++ [')']))).toList =
        some ('(' :: (inside ++ [')'])) := by
    rw [String.toList_ofList, strip?_eq_some_iff]
  have opened : trimStart ('(' :: (inside ++ [')'])) = '(' :: (inside ++ [')']) :=
    trimStart_of_solid (by decide) _
  have behind : strip? ['('] ('(' :: (inside ++ [')'])) = some (inside ++ [')']) := rfl
  have closed : stripEnd? [')'] (inside ++ [')']) = some inside := by
    simp [stripEnd?, strip?]
  simp only [arguments?, named, opened, behind, closed, Option.bind_eq_bind, Option.bind_some,
    List.isEmpty_iff]
  split <;> rfl

/-- The arguments of a call are found, if there are any. -/
theorem arguments?_call (some : ∃ c ∈ join [','] arguments, isBlank c = false)
    (uncut : ∀ argument ∈ arguments, ',' ∉ argument) :
    arguments? (call function arguments) function =
      .some (arguments.map fun argument => String.ofList (trim argument)) := by
  obtain ⟨c, member, solid⟩ := some
  have full : trim (join [','] arguments) ≠ [] := by
    intro none
    have blank := trim_eq_nil_iff.1 none c member
    simp [solid] at blank
  have some : arguments ≠ [] := by
    rintro rfl
    exact List.not_mem_nil member
  rw [call, arguments?_inside, if_neg full, splitAt_join (by decide) some
    fun argument member => uncut_of_not_mem (uncut argument member)]

/-- What a slicing call asks for with the texts between its commas: blanks alone ask for the defaults,
one number for where to start, and two for a length as well. What stands behind these is not read. -/
inductive Asks (length : Nat) : List (List Char) → Nat → Nat → Prop
  | default {only : List Char} (blank : ∀ c ∈ only, isBlank c) : Asks length [only] 0 length
  | start {first : List Char} {skipped : Nat} (origin : Writes first skipped) :
    Asks length [first] skipped length
  | both {first second : List Char} {more : List (List Char)} {skipped count : Nat}
    (origin : Writes first skipped) (size : Writes second count) :
    Asks length (first :: second :: more) skipped count

theorem not_writes_of_blank {text : List Char} (blank : trim text = []) (n : Nat) :
    ¬ Writes text n := by
  rintro ⟨-, digits, same | same, some, -⟩
  · exact some (same.symm.trans blank)
  · exact List.cons_ne_nil _ _ (same.symm.trans blank)

/-- A slicing call reads what its arguments ask for, and nothing if they are no such numbers. -/
theorem slice?_eq_some_iff {inside : List Char} {length skipped count : Nat} :
    slice? (String.ofList (function.toList ++ '(' :: (inside ++ [')']))) function length =
        some (skipped, count) ↔
      Asks length (splitAt (· == ',') inside) skipped count := by
  simp only [slice?, arguments?_inside, Option.bind_eq_bind, Option.bind_some]
  have whole := join_splitAt ',' inside
  by_cases none : trim inside = []
  · have blank := trim_eq_nil_iff.1 none
    have uncut : ∀ c ∈ inside, (c == ',') = false := by
      intro c member
      have := blank c member
      rw [beq_eq_false_iff_ne]
      rintro rfl
      contradiction
    rw [if_pos none, splitAt_of_uncut uncut]
    constructor
    · rintro ⟨⟩
      exact .default blank
    · rintro (_ | origin)
      · rfl
      · exact absurd origin (not_writes_of_blank none skipped)
  · rw [if_neg none]
    match splitAt (· == ',') inside, whole with
    | [], whole =>
      subst whole
      exact absurd rfl none
    | [first], whole =>
      obtain rfl : first = inside := whole
      simp only [List.map_cons, List.map_nil, Option.pure_def]
      constructor
      · intro read
        obtain ⟨n, number, same⟩ := Option.bind_eq_some_iff.1 read
        cases same
        exact .start (count?_eq_some_iff.1 number)
      · rintro (blank | origin)
        · exact absurd (trim_eq_nil_iff.2 blank) none
        · rw [count?_eq_some_iff.2 origin]
          rfl
    | first :: second :: more, _ =>
      simp only [List.map_cons, Option.pure_def]
      constructor
      · intro read
        obtain ⟨n, number, read⟩ := Option.bind_eq_some_iff.1 read
        obtain ⟨m, size, same⟩ := Option.bind_eq_some_iff.1 read
        cases same
        exact .both (count?_eq_some_iff.1 number) (count?_eq_some_iff.1 size)
      · rintro (_ | _ | ⟨origin, size⟩)
        rw [count?_eq_some_iff.2 origin, Option.bind_some, count?_eq_some_iff.2 size]
        rfl

/-- The digits of two numbers, as the arguments of a call, ask for a slice. -/
theorem slice?_call {skipped count : Nat} (bound : skipped ≤ maxCount) (bound' : count ≤ maxCount)
    (length : Nat) :
    slice? (call function [Nat.toDigits 10 skipped, Nat.toDigits 10 count]) function length =
      some (skipped, count) := by
  have uncut (n : Nat) : ',' ∉ Nat.toDigits 10 n :=
    fun member => (plain_toDigits n ',' member).2 rfl
  have read (n : Nat) (bound : n ≤ maxCount) :
      count? (String.ofList (trim (Nat.toDigits 10 n))) = some n := by
    rw [(trimmed_of_solid fun c member => (plain_toDigits n c member).1).trim,
      ← Nat.repr_eq_ofList_toDigits, count?_repr bound]
  have found : arguments? (call function [Nat.toDigits 10 skipped, Nat.toDigits 10 count]) function = _ :=
    arguments?_call ⟨',', by simp [join], by decide⟩ (by simpa using ⟨uncut skipped, uncut count⟩)
  simp only [slice?, found, List.map_cons, List.map_nil, Option.bind_eq_bind, Option.bind_some,
    read skipped bound, read count bound', Option.pure_def]

/-! ## Slices -/

/-- The pieces that are left of a list if the last `skipped` ones are dropped and `count` of the
remaining ones are kept, counted from the end. -/
def keptFromEnd (skipped count : Nat) (pieces : List (List Char)) : List (List Char) :=
  ((pieces.reverse.drop skipped).take count).reverse

theorem trailing_eq_keptFromEnd (skipped count : Nat) (pieces : List (List Char)) :
    trailing skipped count pieces = keptFromEnd skipped count pieces := by
  rw [keptFromEnd, List.drop_reverse, List.take_reverse, List.reverse_reverse, List.length_take,
    Nat.min_eq_left (Nat.sub_le _ _)]
  rfl

/-- The difference of two 64-bit numbers, or else zero. -/
def saturatingSub (a b : UInt64) : UInt64 := if b ≤ a then a - b else 0

theorem toNat_saturatingSub (a b : UInt64) : (saturatingSub a b).toNat = a.toNat - b.toNat := by
  rw [saturatingSub]
  split
  · rename_i le
    exact UInt64.toNat_sub_of_le _ _ le
  · rename_i gt
    rw [UInt64.le_iff_toNat_le] at gt
    simp
    omega

/-- The segments kept, as a range of indices in 64-bit numbers: where it starts and where it stops. -/
def range64 (length skipped count : UInt64) : UInt64 × UInt64 :=
  let stop := saturatingSub length skipped
  (saturatingSub stop count, stop)

/-- In 64-bit numbers nothing overflows: the range lies within the pieces, and holds those that are
kept. -/
theorem range64_spec {pieces : List (List Char)} (fits : pieces.length < UInt64.size)
    (skipped count : UInt64) :
    let range := range64 (UInt64.ofNat pieces.length) skipped count
    range.1 ≤ range.2 ∧ range.2.toNat ≤ pieces.length ∧
      (pieces.take range.2.toNat).drop range.1.toNat =
        keptFromEnd skipped.toNat count.toNat pieces := by
  have length : (UInt64.ofNat pieces.length).toNat = pieces.length :=
    UInt64.toNat_ofNat_of_lt' fits
  simp only [range64, UInt64.le_iff_toNat_le, toNat_saturatingSub, length, ← trailing_eq_keptFromEnd]
  exact ⟨Nat.sub_le _ _, Nat.sub_le _ _, rfl⟩

end TitleBar.Tag
