import TitleBar.Proofs.Shell.Effect
import TitleBar.Shell.Expansion

/-! # Numbers of the shell fit in 64 bits

Whatever expression a text is, every number in it and every value of a part of it is an integer of
64 bits, as long as the values of the variables are.
-/

namespace TitleBar.Shell

open Effect

/-- Whether an integer fits in 64 bits with its sign. -/
def Fits (n : Int) : Prop := -0x8000000000000000 ≤ n ∧ n < 0x8000000000000000

section Operations

theorem fits_wrapped (n : Int) : Fits (wrapped n) := by
  have low := Int.le_bmod (x := n) (m := 0x10000000000000000) (by decide)
  have high := Int.bmod_lt (x := n) (m := 0x10000000000000000) (by decide)
  exact ⟨low, high⟩

theorem fits_truth (holds : Bool) : Fits (truth holds) := by
  cases holds <;> exact ⟨by decide, by decide⟩

theorem fits_toInt (n : BitVec 64) : Fits n.toInt := by
  have low := BitVec.le_toInt n
  have high := BitVec.toInt_lt (x := n)
  exact ⟨low, high⟩

/-- A remainder has the sign of the dividend and is no further from zero. -/
theorem fits_tmod {a : Int} (fits : Fits a) (b : Int) : Fits (a.tmod b) := by
  obtain ⟨low, high⟩ := fits
  have nearer : (a.tmod b).natAbs ≤ a.natAbs := by
    rw [Int.natAbs_tmod]
    exact Nat.mod_le _ _
  rcases Int.le_total 0 a with positive | negative
  · have := Int.tmod_nonneg b positive
    exact ⟨by omega, by omega⟩
  · have := Int.tmod_nonneg b (Int.neg_nonneg_of_nonpos negative)
    rw [Int.neg_tmod] at this
    exact ⟨by omega, by omega⟩

/-- The complement of a number of 64 bits is one, without any wrapping. -/
theorem fits_complement {n : Int} (fits : Fits n) : Fits (-n - 1) := by
  obtain ⟨low, high⟩ := fits
  exact ⟨by omega, by omega⟩

theorem fits_result {operation : Operation} {a b result : Int} (fits : Fits a)
    (value : operation.result? a b = some result) : Fits result := by
  cases operation with
  | bitOr | bitXor | bitAnd | shiftLeft | shiftRight =>
    obtain rfl := Option.some.inj value
    exact fits_toInt _
  | equals | differs | less | greater | atMost | atLeast =>
    obtain rfl := Option.some.inj value
    exact fits_truth _
  | add | subtract | multiply =>
    obtain rfl := Option.some.inj value
    exact fits_wrapped _
  | divide =>
    obtain ⟨-, same⟩ := Option.ite_none_left_eq_some.mp value
    obtain rfl := Option.some.inj same
    exact fits_wrapped _
  | remainder =>
    obtain ⟨-, same⟩ := Option.ite_none_left_eq_some.mp value
    obtain rfl := Option.some.inj same
    exact fits_tmod fits b

end Operations

section Evaluation

/-- The expressions in which all numbers that are written fit. -/
inductive Expression.NumbersFit : Expression → Prop where
  | number {n : Int} : Fits n → NumbersFit (.number n)
  | name (name : String) : NumbersFit (.variable name)
  | opposite {a : Expression} : NumbersFit a → NumbersFit (.opposite a)
  | complement {a : Expression} : NumbersFit a → NumbersFit (.complement a)
  | isZero {a : Expression} : NumbersFit a → NumbersFit (.isZero a)
  | binary (operation : Operation) {a b : Expression} :
    NumbersFit a → NumbersFit b → NumbersFit (.binary operation a b)
  | both {a b : Expression} : NumbersFit a → NumbersFit b → NumbersFit (.both a b)
  | either {a b : Expression} : NumbersFit a → NumbersFit b → NumbersFit (.either a b)
  | choice {test yes no : Expression} :
    NumbersFit test → NumbersFit yes → NumbersFit no → NumbersFit (.choice test yes no)
  | assign (name : String) (operation? : Option Operation) {a : Expression} :
    NumbersFit a → NumbersFit (.assign name operation? a)

theorem yields_result {refuse : Effect Int} (refuses : Yields Fits refuse) (operation : Operation)
    {a : Int} (fits : Fits a) (b : Int) :
    Yields Fits (match operation.result? a b with
      | some result => return result
      | none => refuse) := by
  cases value : operation.result? a b with
  | some result => exact yields_pure (fits_result fits value)
  | none => exact refuses

/-- The value of an expression fits if the values of the variables and the written numbers do. -/
theorem Expression.NumbersFit.yields_evaluate {value : String → Effect Int}
    {assign : String → Int → Effect Unit} {refuse : Effect Int}
    (values : ∀ name, Yields Fits (value name)) (refuses : Yields Fits refuse)
    {expression : Expression} (numbers : expression.NumbersFit) :
    Yields Fits (expression.evaluate value assign refuse) := by
  induction numbers with
  | number fits => exact yields_pure fits
  | name name => exact values name
  | opposite _ _ => exact .of_bind fun n => yields_pure (fits_wrapped _)
  | complement _ ih => exact ih.bind fun n fits => yields_pure (fits_complement fits)
  | isZero _ _ => exact .of_bind fun n => yields_pure (fits_truth _)
  | binary operation _ _ ih _ =>
    exact ih.bind fun n fits => .of_bind fun m => yields_result refuses operation fits m
  | both _ _ _ _ | either _ _ _ _ =>
    refine .of_bind fun n => ?_
    split
    · exact yields_pure ⟨by decide, by decide⟩
    · exact .of_bind fun m => yields_pure (fits_truth _)
  | choice _ _ _ _ ihYes ihNo =>
    refine .of_bind fun n => ?_
    split
    · exact ihYes
    · exact ihNo
  | assign name operation? _ ih =>
    refine ih.bind fun n fits => ?_
    have assigned (result : Int) (fits : Fits result) :
        Yields Fits (do assign name result; return result) := .of_bind fun _ => yields_pure fits
    cases operation? with
    | none => exact (yields_pure fits).bind assigned
    | some operation =>
      refine (values name).bind fun old fits => ?_
      dsimp only
      cases value : operation.result? old n with
      | some result => exact (yields_pure (fits_result fits value)).bind assigned
      | none => exact refuses.bind assigned

end Evaluation

section Reading

/-- Whether all that a reader makes of a text are expressions whose numbers fit. -/
def ReadsFit (read : Option (Expression × List Char)) : Prop :=
  ∀ expression rest, read = some (expression, rest) → expression.NumbersFit

theorem readsFit_none : ReadsFit none := nofun

theorem readsFit_pure {expression : Expression} (numbers : expression.NumbersFit)
    (rest : List Char) : ReadsFit (pure (expression, rest)) := by
  intro other behind read
  obtain ⟨rfl, -⟩ := Prod.mk.inj (Option.some.inj read)
  exact numbers

theorem ReadsFit.bind {read : Option (Expression × List Char)}
    {next : Expression × List Char → Option (Expression × List Char)} (first : ReadsFit read)
    (then' : ∀ expression rest, expression.NumbersFit → ReadsFit (next (expression, rest))) :
    ReadsFit (read >>= next) := by
  cases read with
  | none => exact readsFit_none
  | some result => exact then' result.1 result.2 (first result.1 result.2 rfl)

/-- The readers of all levels, with the same number of levels below them. -/
structure ReadersFit (fuel : Nat) : Prop where
  expression (text : List Char) : ReadsFit (readExpression fuel text)
  either (text : List Char) : ReadsFit (readEither fuel text)
  both (text : List Char) : ReadsFit (readBoth fuel text)
  level (level : Nat) (text : List Char) : ReadsFit (readLevel fuel level text)
  further (level : Nat) {first : Expression} (numbers : first.NumbersFit) (text : List Char) :
    ReadsFit (readFurther fuel level first text)
  operand (text : List Char) : ReadsFit (readOperand fuel text)

theorem ReadersFit.readExpression {fuel : Nat} (readers : ReadersFit fuel) (text : List Char) :
    ReadsFit (readExpression (fuel + 1) text) := by
  rw [readExpression.eq_def]
  dsimp only
  split
  · split
    · exact (readers.expression _).bind fun value rest numbers =>
        readsFit_pure (.assign _ _ numbers) rest
    · exact readsFit_none
  · refine (readers.either _).bind fun test rest numbers => ?_
    dsimp only
    split
    · refine (readers.expression _).bind fun yes rest numbersYes => ?_
      dsimp only
      split
      · exact (readers.expression _).bind fun no rest numbersNo =>
          readsFit_pure (.choice numbers numbersYes numbersNo) rest
      · exact readsFit_none
    · exact readsFit_pure numbers rest

theorem ReadersFit.readOperand {fuel : Nat} (readers : ReadersFit fuel) (text : List Char) :
    ReadsFit (readOperand (fuel + 1) text) := by
  have signed (build : Expression → Expression)
      (kept : ∀ a, a.NumbersFit → (build a).NumbersFit) (rest : List Char) :
      ReadsFit (Shell.readOperand fuel (Text.trimStart rest) >>= fun read =>
        pure (build read.1, read.2)) :=
    (readers.operand _).bind fun a rest numbers => readsFit_pure (kept a numbers) rest
  rw [readOperand.eq_def]
  dsimp only
  split
  · exact signed .opposite (fun _ => .opposite) _
  · exact signed id (fun _ numbers => numbers) _
  · exact signed .isZero (fun _ => .isZero) _
  · exact signed .complement (fun _ => .complement) _
  · refine (readers.expression _).bind fun inside rest numbers => ?_
    dsimp only
    split
    · exact readsFit_pure numbers _
    · exact readsFit_none
  · split
    · split
      · exact readsFit_none
      · exact readsFit_pure (.number (fits_wrapped _)) _
    · split
      · exact readsFit_pure (.name _) _
      · exact readsFit_none
  · exact readsFit_none

theorem readersFit (fuel : Nat) : ReadersFit fuel := by
  induction fuel with
  | zero => exact ⟨nofun, nofun, nofun, nofun, nofun, nofun⟩
  | succ fuel readers =>
    refine ⟨readers.readExpression, fun text => ?_, fun text => ?_, fun level text => ?_,
      fun level first numbers text => ?_, readers.readOperand⟩
    · rw [readEither]
      refine (readers.both text).bind fun first rest numbers => ?_
      dsimp only
      split
      · exact (readers.either _).bind fun second rest numbers' =>
          readsFit_pure (.either numbers numbers') rest
      · exact readsFit_pure numbers rest
    · rw [readBoth]
      refine (readers.level 1 text).bind fun first rest numbers => ?_
      dsimp only
      split
      · exact (readers.both _).bind fun second rest numbers' =>
          readsFit_pure (.both numbers numbers') rest
      · exact readsFit_pure numbers rest
    · rw [readLevel]
      split
      · exact (readers.level _ text).bind fun first rest numbers =>
          readers.further level numbers rest
      · exact readers.operand _
    · rw [readFurther]
      split
      · exact readsFit_pure numbers text
      · exact (readers.level _ _).bind fun second rest numbers' =>
          readers.further level (.binary _ numbers numbers') rest

/-- The numbers of the expression that a text is fit, however long they are written. -/
theorem numbersFit_of_ofText? {text : List Char} {expression : Expression}
    (read : Expression.ofText? text = some expression) : expression.NumbersFit := by
  rw [Expression.ofText?] at read
  split at read
  · obtain rfl := Option.some.inj read
    exact .number ⟨by decide, by decide⟩
  · obtain ⟨⟨found, rest⟩, whole, last⟩ := Option.bind_eq_some_iff.mp read
    obtain ⟨-, same⟩ := Option.ite_none_right_eq_some.mp last
    obtain rfl := Option.some.inj same
    exact (readersFit _).expression text _ _ whole

end Reading

section Places

theorem plainText_valueCells (state : State) (quoted : Bool) (value : List Char) :
    plainText (state.valueCells quoted value) = value := by
  rw [State.valueCells]
  induction value with
  | nil => rfl
  | cons c value ih =>
    simp only [List.map_cons]
    split
    · exact congrArg (c :: ·) ih
    · exact congrArg (c :: ·) ih

/-- What an expression puts into a word is an integer of 64 bits: a variable that holds a larger one
counts as what is left of it. -/
theorem yields_arithmetic (capture : Capture) (fuel : Nat) (expression : List Char)
    (quoted : Bool) :
    Yields (fun cells => ∃ n, Fits n ∧ plainText cells = (toString n).toList)
      (Fragment.cells capture (fuel + 1) (.arithmetic expression quoted)) := by
  rw [Fragment.cells.eq_def]
  refine .of_bind fun text => ?_
  split
  · rename_i expression read
    have refuses : Yields Fits (leave 2) := yields_leave Fits 2
    refine ((numbersFit_of_ofText? read).yields_evaluate (fun name => .of_bind fun state => ?_)
      refuses).bind fun n fits => .of_bind fun state => yields_pure ⟨n, fits, ?_⟩
    · split
      · exact yields_pure ⟨by decide, by decide⟩
      · split
        · exact yields_pure (fits_wrapped _)
        · exact refuses
    · exact plainText_valueCells state quoted _
  · exact yields_leave _ 2

end Places

end TitleBar.Shell
