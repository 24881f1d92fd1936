import TitleBar.Shell.Sort

/-! # The order of lines is one

All ways to compare lines are oriented and transitive, so that sorting brings lines into their order
and neither loses nor makes any. What is sorted passes the test for that, also without equal lines.
-/

namespace TitleBar.Shell.LineOrder

open Std

section Parts

variable {α β : Type}

theorem transCmp_on {cmp : β → β → Ordering} (trans : TransCmp cmp) (f : α → β) :
    TransCmp fun a b => cmp (f a) (f b) where
  eq_swap := trans.eq_swap
  isLE_trans := trans.isLE_trans

theorem transCmp_then {first second : α → α → Ordering} (trans : TransCmp first)
    (trans' : TransCmp second) : TransCmp fun a b => (first a b).then (second a b) :=
  inferInstanceAs (TransCmp (compareLex first second))

theorem transCmp_swap {cmp : α → α → Ordering} (trans : TransCmp cmp) :
    TransCmp fun a b => (cmp a b).swap where
  eq_swap {a b} := congrArg Ordering.swap trans.eq_swap
  isLE_trans {a b c} first second := by
    rw [← trans.eq_swap] at first second ⊢
    exact trans.isLE_trans second first

theorem transCmp_eq : TransCmp fun _ _ : α => Ordering.eq where
  eq_swap := rfl
  isLE_trans _ _ := rfl

theorem transCmp_ite (p : Prop) [Decidable p] {cmp other : α → α → Ordering}
    (trans : TransCmp cmp) (trans' : TransCmp other) :
    TransCmp fun a b => if p then cmp a b else other a b := by
  split
  · exact trans
  · exact trans'

theorem transCmp_compare [Ord β] [TransOrd β] (f : α → β) :
    TransCmp fun a b => compare (f a) (f b) := inferInstanceAs (TransCmp (compareOn f))

/-- Comparing by equality first is the same as comparing by order first. -/
theorem threeWay_eq [LT α] [DecidableLT α] [DecidableEq α] (irrefl : ∀ a : α, ¬ a < a) (a b : α) :
    (if a = b then Ordering.eq else if a < b then .lt else .gt) = compareOfLessAndEq a b := by
  rw [compareOfLessAndEq]
  by_cases same : a = b
  · rw [if_pos same, if_neg (same ▸ irrefl a), if_pos same]
  · rw [if_neg same, if_neg same]

theorem transCmp_lists [LT α] [DecidableLT α] [DecidableEq α] [LE α] [IsLinearOrder α]
    [LawfulOrderLT α] : TransCmp fun a b : List α => compareOfLessAndEq a b :=
  TransOrd.compareOfLessAndEq_of_antisymm_of_trans_of_total_of_not_le
    List.le_antisymm List.le_trans List.le_total List.not_le

theorem transCmp_bytes :
    TransCmp fun a b : List UInt8 =>
      if a = b then Ordering.eq else if a < b then .lt else .gt := by
  have same : (fun a b : List UInt8 => if a = b then Ordering.eq else if a < b then .lt else .gt) =
      fun a b => compareOfLessAndEq a b :=
    funext fun a => funext fun b => threeWay_eq List.lt_irrefl a b
  rw [same]
  exact transCmp_lists

/-- Decimals are compared as what they stand for, however many places they are written with. -/
theorem transCmp_compareNumbers : TransCmp compareNumbers where
  eq_swap := OrientedOrd.eq_swap
  isLE_trans {a b c} first second := by
    have positive (n : Nat) : 0 < Int.pow 10 n := Int.pow_pos (by decide)
    simp only [compareNumbers, Int.isLE_compare] at first second ⊢
    refine Int.le_of_mul_le_mul_right ?_ (positive b.2)
    calc a.1 * Int.pow 10 c.2 * Int.pow 10 b.2
      _ = a.1 * Int.pow 10 b.2 * Int.pow 10 c.2 := Int.mul_right_comm ..
      _ ≤ b.1 * Int.pow 10 a.2 * Int.pow 10 c.2 :=
        Int.mul_le_mul_of_nonneg_right first (Int.le_of_lt (positive c.2))
      _ = b.1 * Int.pow 10 c.2 * Int.pow 10 a.2 := Int.mul_right_comm ..
      _ ≤ c.1 * Int.pow 10 b.2 * Int.pow 10 a.2 :=
        Int.mul_le_mul_of_nonneg_right second (Int.le_of_lt (positive a.2))
      _ = c.1 * Int.pow 10 a.2 * Int.pow 10 b.2 := Int.mul_right_comm ..

theorem transCmp_compareTexts (letters : List Char) : TransCmp (compareTexts letters) :=
  transCmp_on transCmp_bytes _

end Parts

section Versions

theorem toNat_of_isAlpha {c : Char} (alpha : c.isAlpha = true) : 65 ≤ c.toNat ∧ c.toNat ≤ 122 := by
  have upper : c.isUpper = decide (65 ≤ c.toNat ∧ c.toNat ≤ 90) := rfl
  have lower : c.isLower = (decide (97 ≤ c.toNat) && decide (c.toNat ≤ 122)) := rfl
  have either : (c.isUpper || c.isLower) = true := alpha
  rw [upper, lower, Bool.or_eq_true, Bool.and_eq_true, decide_eq_true_eq, decide_eq_true_eq,
    decide_eq_true_eq] at either
  omega

theorem versionRank_cases (c : Char) :
    c = '~' ∧ versionRank c = 0 ∨
      65 ≤ c.toNat ∧ c.toNat ≤ 122 ∧ versionRank c = c.toNat + 1 ∨
      versionRank c = c.toNat + 256 := by
  rw [versionRank]
  split
  · exact .inl ⟨‹_›, rfl⟩
  · split
    · rename_i alpha
      have range := toNat_of_isAlpha alpha
      exact .inr (.inl ⟨range.1, range.2, rfl⟩)
    · exact .inr (.inr rfl)

theorem versionRank_ne_one (c : Char) : versionRank c ≠ 1 := by
  rcases versionRank_cases c with ⟨-, rank⟩ | ⟨low, -, rank⟩ | rank <;> omega

/-- No two characters rank the same. -/
theorem versionRank_injective {c d : Char} (same : versionRank c = versionRank d) : c = d := by
  rcases versionRank_cases c with ⟨rfl, rank⟩ | ⟨low, high, rank⟩ | rank <;>
    rcases versionRank_cases d with ⟨rfl, rank'⟩ | ⟨low', high', rank'⟩ | rank' <;>
    first
    | rfl
    | exact Char.toNat_inj.mp (by omega)

/-- The ranks of the characters of a run, and that of its end. -/
def runRanks (text : List Char) : List Nat := text.map versionRank ++ [1]

theorem runRanks_injective {x y : List Char} (same : runRanks x = runRanks y) : x = y := by
  induction x generalizing y with
  | nil =>
    cases y with
    | nil => rfl
    | cons d y => exact absurd (List.cons.inj same).1.symm (versionRank_ne_one d)
  | cons c x ih =>
    cases y with
    | nil => exact absurd (List.cons.inj same).1 (versionRank_ne_one c)
    | cons d y =>
      obtain ⟨head, rest⟩ := List.cons.inj same
      rw [versionRank_injective head, ih rest]

/-- What stands before the first digit, the number behind it, and the rest. -/
def firstRun (text : List Char) : List Char × Nat × List Char :=
  let x := text.takeWhile (!·.isDigit)
  let behind := text.drop x.length
  let digits := behind.takeWhile Char.isDigit
  (x, numeral 10 digits, behind.drop digits.length)

theorem compareVersions_nil (fuel : Nat) : compareVersions fuel [] [] = .eq := by
  cases fuel <;> rfl

theorem compareVersions_succ (fuel : Nat) (a b : List Char) :
    compareVersions (fuel + 1) a b =
      (compareOfLessAndEq (runRanks (firstRun a).1) (runRanks (firstRun b).1)).then
        ((compare (firstRun a).2.1 (firstRun b).2.1).then
          (compareVersions fuel (firstRun a).2.2 (firstRun b).2.2)) := by
  let behind (text : List Char) := text.drop (firstRun text).1.length
  have step : compareVersions (fuel + 1) a b =
      if (firstRun a).1 ≠ (firstRun b).1 then
        if runRanks (firstRun a).1 < runRanks (firstRun b).1 then .lt else .gt
      else if (behind a).isEmpty && (behind b).isEmpty then .eq
      else (compare (firstRun a).2.1 (firstRun b).2.1).then
        (compareVersions fuel (firstRun a).2.2 (firstRun b).2.2) := rfl
  rw [step]
  by_cases same : (firstRun a).1 = (firstRun b).1
  · have equal : compareOfLessAndEq (runRanks (firstRun a).1) (runRanks (firstRun b).1) = .eq := by
      rw [same, ← threeWay_eq List.lt_irrefl, if_pos rfl]
    rw [equal, if_neg (not_not_intro same)]
    split
    · -- two ends count as numbers without digits, which are equal
      rename_i empty
      obtain ⟨endA, endB⟩ := (Bool.and_eq_true ..).mp empty
      have rest {text : List Char} (empty : (behind text).isEmpty = true) :
          (firstRun text).2 = (0, []) := by
        have nil : text.drop (firstRun text).1.length = [] := List.isEmpty_iff.mp empty
        simp only [firstRun] at nil ⊢
        rw [nil]
        rfl
      rw [rest endA, rest endB]
      exact (compareVersions_nil fuel).symm
    · rfl
  · have differ : runRanks (firstRun a).1 ≠ runRanks (firstRun b).1 := fun equal =>
      same (runRanks_injective equal)
    rw [if_pos same, ← threeWay_eq List.lt_irrefl, if_neg differ]
    split <;> rfl

theorem firstRun_le (text : List Char) : (firstRun text).2.2.length ≤ text.length - 1 := by
  cases text with
  | nil => exact Nat.le_refl _
  | cons c rest =>
    simp only [firstRun, List.length_drop, List.length_cons]
    cases digit : c.isDigit with
    | true =>
      rw [List.takeWhile_cons_of_neg (by rw [digit]; decide), List.length_nil, List.drop_zero,
        List.takeWhile_cons_of_pos digit, List.length_cons]
      omega
    | false =>
      rw [List.takeWhile_cons_of_pos (by rw [digit]; rfl), List.length_cons]
      omega

/-- Any larger number of runs makes no difference. -/
theorem compareVersions_eq {a b : List Char} {fuel other : Nat}
    (enough : max a.length b.length < fuel) (enough' : max a.length b.length < other) :
    compareVersions fuel a b = compareVersions other a b := by
  induction fuel generalizing a b other with
  | zero => exact absurd enough (Nat.not_lt_zero _)
  | succ fuel ih =>
    obtain ⟨other, rfl⟩ := Nat.exists_eq_succ_of_ne_zero (Nat.ne_zero_of_lt enough')
    rw [compareVersions_succ, compareVersions_succ]
    have shorterA := firstRun_le a
    have shorterB := firstRun_le b
    by_cases ends : max a.length b.length = 0
    · have endA : (firstRun a).2.2 = [] := List.length_eq_zero_iff.mp (by omega)
      have endB : (firstRun b).2.2 = [] := List.length_eq_zero_iff.mp (by omega)
      rw [endA, endB, compareVersions_nil, compareVersions_nil]
    · have rest : compareVersions fuel (firstRun a).2.2 (firstRun b).2.2 =
          compareVersions other (firstRun a).2.2 (firstRun b).2.2 := ih (by omega) (by omega)
      rw [rest]

theorem transCmp_compareVersions_fuel (fuel : Nat) : TransCmp (compareVersions fuel) := by
  induction fuel with
  | zero => exact transCmp_eq
  | succ fuel ih =>
    have course : compareVersions (fuel + 1) = _ :=
      funext fun a => funext (compareVersions_succ fuel a)
    rw [course]
    exact transCmp_then (transCmp_on transCmp_lists _)
      (transCmp_then (transCmp_compare _) (transCmp_on ih _))

theorem transCmp_compareVersions :
    TransCmp fun a b : List Char => compareVersions (a.length + b.length + 1) a b where
  eq_swap {a b} := by
    rw [Nat.add_comm a.length]
    exact (transCmp_compareVersions_fuel _).eq_swap
  isLE_trans {a b c} first second := by
    -- all three comparisons go as far as the longest one has to
    have upTo {x y : List Char} (bound : x.length + y.length ≤ a.length + b.length + c.length) :
        compareVersions (x.length + y.length + 1) x y =
          compareVersions (a.length + b.length + c.length + 1) x y :=
      compareVersions_eq (by omega) (by omega)
    rw [upTo (by omega)] at first second ⊢
    exact (transCmp_compareVersions_fuel _).isLE_trans first second

end Versions

section Lines

theorem transCmp_compareParts (letters : List Char) : TransCmp (compareParts letters) := by
  have numbers : TransCmp fun a b => compareNumbers (number a) (number b) :=
    transCmp_on transCmp_compareNumbers number
  have versions : TransCmp fun a b : List UInt8 =>
      compareVersions (a.length + b.length + 1) (a.map fun byte => Char.ofNat byte.toNat)
        (b.map fun byte => Char.ofNat byte.toNat) := by
    have chars := transCmp_on transCmp_compareVersions
      fun bytes : List UInt8 => bytes.map fun byte => Char.ofNat byte.toNat
    simpa only [List.length_map] using chars
  have units : TransCmp fun a b =>
      compare (if (number a).1 < 0 then -(unit a : Int) else unit a)
        (if (number b).1 < 0 then -(unit b : Int) else unit b) :=
    transCmp_compare fun bytes => if (number bytes).1 < 0 then -(unit bytes : Int) else unit bytes
  have ways := transCmp_ite (letters.contains 'n' || letters.contains 'g') numbers <|
    transCmp_ite (letters.contains 'h') (transCmp_then units numbers) <|
    transCmp_ite (letters.contains 'M') (transCmp_compare month) <|
    transCmp_ite (letters.contains 'V') versions (transCmp_compareTexts letters)
  have skipped := transCmp_on ways fun bytes =>
    if letters.contains 'b' then bytes.dropWhile isBlankByte else bytes
  exact transCmp_ite (letters.contains 'r') (transCmp_swap skipped) skipped

theorem transCmp_foldl {keys : List SortKey} {cmp : SortKey → List UInt8 → List UInt8 → Ordering}
    (each : ∀ key, TransCmp (cmp key)) {first : List UInt8 → List UInt8 → Ordering}
    (trans : TransCmp first) :
    TransCmp fun a b => keys.foldl (fun result key => result.then (cmp key a b)) (first a b) := by
  induction keys generalizing first with
  | nil => exact trans
  | cons key keys ih => exact ih (transCmp_then trans (each key))

theorem transCmp_compareKeys (order : LineOrder) : TransCmp order.compareKeys := by
  refine transCmp_ite _ (transCmp_compareParts order.letters) (transCmp_foldl ?_ transCmp_eq)
  exact fun key => transCmp_on (transCmp_compareParts _) (part order.separator? key)

/-- Lines are compared in a way that is oriented and transitive, whatever the keys and letters. -/
theorem transCmp_compareLines (order : LineOrder) : TransCmp order.compareLines := by
  have whole := transCmp_ite (order.letters.contains 'r') (transCmp_swap transCmp_bytes)
    transCmp_bytes
  exact transCmp_then (transCmp_compareKeys order) (transCmp_ite order.stable transCmp_eq whole)

end Lines

end TitleBar.Shell.LineOrder

namespace TitleBar.Shell.Utility

open Std LineOrder

variable (order : LineOrder)

section Sorted

/-- What has to hold of two lines one behind the other. -/
def InOrder (strict : Bool) (a b : List UInt8) : Prop :=
  if strict then order.compareKeys a b = .lt else order.compareLines a b ≠ .gt

theorem InOrder.trans {strict : Bool} {a b c : List UInt8} (first : InOrder order strict a b)
    (second : InOrder order strict b c) : InOrder order strict a c := by
  cases strict with
  | true => exact (transCmp_compareKeys order).lt_trans first second
  | false =>
    have le := (transCmp_compareLines order).isLE_trans (Ordering.isLE_iff_ne_gt.mpr first)
      (Ordering.isLE_iff_ne_gt.mpr second)
    exact Ordering.isLE_iff_ne_gt.mp le

theorem neighbours_iff_inOrder (strict : Bool) (a b : List UInt8) :
    ((if strict then order.compareKeys a b else order.compareLines a b) == .lt ||
      !strict && (if strict then order.compareKeys a b else order.compareLines a b) == .eq) = true ↔
      InOrder order strict a b := by
  cases strict with
  | true =>
    change (order.compareKeys a b == .lt || false) = true ↔ order.compareKeys a b = .lt
    rw [Bool.or_false, beq_iff_eq]
  | false =>
    change (order.compareLines a b == .lt || order.compareLines a b == .eq) = true ↔
      order.compareLines a b ≠ .gt
    cases order.compareLines a b <;> decide

/-- The test looks at neighbours only, but that is enough for all pairs of lines. -/
theorem isSorted_iff_pairwise (strict : Bool) (lines : List (List UInt8)) :
    isSorted order strict lines = true ↔ lines.Pairwise (InOrder order strict) := by
  induction lines with
  | nil => exact iff_of_true rfl .nil
  | cons a lines ih =>
    cases lines with
    | nil => exact iff_of_true rfl (List.pairwise_singleton _ a)
    | cons b rest =>
      rw [isSorted, Bool.and_eq_true, List.pairwise_cons, ih]
      constructor
      · rintro ⟨first, sorted⟩
        have first := (neighbours_iff_inOrder order strict a b).mp first
        refine ⟨fun c member => ?_, sorted⟩
        rcases List.mem_cons.mp member with rfl | member
        · exact first
        · exact InOrder.trans order first ((List.pairwise_cons.mp sorted).1 c member)
      · rintro ⟨all, sorted⟩
        have first := all b (List.mem_cons_self ..)
        exact ⟨(neighbours_iff_inOrder order strict a b).mpr first, sorted⟩

end Sorted

/-- Sorting gives the same lines, in an order that passes the test. -/
theorem mergeSort_isSorted (lines : List (List UInt8)) :
    let sorted := lines.mergeSort fun a b => order.compareLines a b != .gt
    sorted.Perm lines ∧ isSorted order false sorted = true := by
  refine ⟨List.mergeSort_perm lines _, (isSorted_iff_pairwise order false _).mpr ?_⟩
  have trans := transCmp_compareLines order
  have inOrder {a b : List UInt8} :
      (order.compareLines a b != .gt) = true ↔ InOrder order false a b := bne_iff_ne
  refine List.Pairwise.imp inOrder.mp (List.pairwise_mergeSort (fun a b c first second => ?_)
    (fun a b => ?_) lines)
  · exact inOrder.mpr (InOrder.trans order (inOrder.mp first) (inOrder.mp second))
  · rw [trans.eq_swap (a := b)]
    cases order.compareLines a b <;> rfl

section Equal

variable {order}

theorem withoutEqual_sublist (lines : List (List UInt8)) :
    (withoutEqual order lines).Sublist lines := by
  induction lines with
  | nil => exact .slnil
  | cons line rest ih => exact ((List.dropWhile_sublist _).trans ih).cons_cons line

/-- Of lines that are equal, one is kept. -/
theorem exists_mem_withoutEqual {lines : List (List UInt8)} {line : List UInt8}
    (member : line ∈ lines) :
    ∃ other ∈ withoutEqual order lines, order.compareKeys other line = .eq := by
  have trans := transCmp_compareKeys order
  induction lines with
  | nil => cases member
  | cons first rest ih =>
    rw [withoutEqual]
    rcases List.mem_cons.mp member with rfl | member
    · exact ⟨line, List.mem_cons_self .., ReflCmp.compare_self⟩
    · obtain ⟨other, kept, same⟩ := ih member
      let equal (other : List UInt8) := order.compareKeys first other == .eq
      have parts := List.takeWhile_append_dropWhile (p := equal) (l := withoutEqual order rest)
      rcases List.mem_append.mp (parts ▸ kept) with dropped | kept
      · have like : equal other = true := List.all_eq_true.mp List.all_takeWhile other dropped
        exact ⟨first, List.mem_cons_self .., trans.eq_trans (beq_iff_eq.mp like) same⟩
      · exact ⟨other, List.mem_cons_of_mem _ kept, same⟩

/-- The lines that are kept of sorted ones rise strictly. -/
theorem withoutEqual_isSorted {lines : List (List UInt8)} (stable : order.stable = true)
    (sorted : isSorted order false lines = true) :
    isSorted order true (withoutEqual order lines) = true := by
  have trans := transCmp_compareKeys order
  have keys (a b : List UInt8) : order.compareLines a b = order.compareKeys a b := by
    rw [compareLines, stable]
    exact Ordering.then_eq
  rw [isSorted_iff_pairwise] at sorted ⊢
  induction lines with
  | nil => exact .nil
  | cons line rest ih =>
    obtain ⟨least, sorted⟩ := List.pairwise_cons.mp sorted
    have rising := ih sorted
    let equal (other : List UInt8) := order.compareKeys line other == .eq
    have kept : (withoutEqual order rest).dropWhile equal <:+ withoutEqual order rest :=
      List.dropWhile_suffix equal
    have differs := List.head?_dropWhile_not equal (withoutEqual order rest)
    have rising := rising.sublist kept.sublist
    rw [withoutEqual, List.pairwise_cons]
    refine ⟨fun other member => ?_, rising⟩
    change other ∈ (withoutEqual order rest).dropWhile equal at member
    change ((withoutEqual order rest).dropWhile equal).Pairwise _ at rising
    cases remain : (withoutEqual order rest).dropWhile equal with
    | nil =>
      rw [remain] at member
      cases member
    | cons next others =>
      rw [remain] at member rising differs kept
      have among : next ∈ rest :=
        (withoutEqual_sublist rest).subset (kept.subset (List.mem_cons_self ..))
      have least := least next among
      have rises : order.compareKeys line next = .lt := by
        have differs : (order.compareKeys line next == .eq) = false := differs
        have least : order.compareKeys line next ≠ .gt := keys line next ▸ least
        cases compared : order.compareKeys line next with
        | lt => rfl
        | eq => rw [compared] at differs; cases differs
        | gt => exact absurd compared least
      rcases List.mem_cons.mp member with rfl | member
      · exact rises
      · exact trans.lt_trans rises ((List.pairwise_cons.mp rising).1 other member)

end Equal

end TitleBar.Shell.Utility
