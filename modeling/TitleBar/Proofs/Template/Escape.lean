import TitleBar.Proofs.Template.Branch

/-! # Escaped text

A backslash in front of each of seven characters makes any text safe to stand in a template: in literal
text, in the body of a conditional, and in the quotes of a branch it shows the text again. The reader
emits it character by character, and the two searches that pass over it, for the brace that closes a
body and for the quote that closes a run, see nothing of what it holds.
-/

namespace TitleBar.Template

open Text

/-- The characters that are escaped. The letter could be the first one of `if`. -/
def isSpecial (c : Char) : Bool := ['\\', '$', '?', '{', '}', '"', 'i'].contains c

/-- Puts a backslash in front of every special character. -/
def escape (text : List Char) : List Char :=
  text.flatMap fun c => if isSpecial c then ['\\', c] else [c]

theorem escape_cons_of_special {c : Char} (special : isSpecial c) (text : List Char) :
    escape (c :: text) = '\\' :: c :: escape text := by
  simp [escape, special]

theorem escape_cons_of_ordinary {c : Char} (ordinary : isSpecial c = false) (text : List Char) :
    escape (c :: text) = c :: escape text := by
  simp [escape, ordinary]

theorem isSpecial_eq_false_iff {c : Char} :
    isSpecial c = false ↔
      c ≠ '\\' ∧ c ≠ '$' ∧ c ≠ '?' ∧ c ≠ '{' ∧ c ≠ '}' ∧ c ≠ '"' ∧ c ≠ 'i' := by
  simp [isSpecial]

/-- The two letters that mean something else behind a backslash are not escaped. -/
theorem unescape_of_special {c : Char} (special : isSpecial c) (quoted : Bool) :
    unescape quoted c = c := by
  have noNewline : c ≠ 'n' := by
    rintro rfl
    contradiction
  have noTab : c ≠ 't' := by
    rintro rfl
    contradiction
  simp [unescape, noNewline, noTab]

theorem scanOpening?_of_ordinary {c : Char} (ordinary : isSpecial c = false) (glued : Bool)
    (text : List Char) : scanOpening? glued (c :: text) = none := by
  obtain ⟨-, noDollar, noQuestion, -, -, -, noKeyword⟩ := isSpecial_eq_false_iff.1 ordinary
  rcases found : scanOpening? glued (c :: text) with _ | ⟨opening, rest⟩
  · rfl
  · rcases scanOpening?_head found with same | same | same
    · exact absurd same noDollar
    · exact absurd same noQuestion
    · exact absurd same noKeyword

/-- Escaped text is read as the text. -/
theorem parse_escape (text : List Char) (quoted glued : Bool) :
    parse (.literal quoted) glued (escape text) = spelled text := by
  induction text generalizing glued with
  | nil => exact parse_nil _ _
  | cons c text ih =>
    by_cases special : isSpecial c
    · rw [escape_cons_of_special special, parse_eq_piece?]
      change Template.text (unescape quoted c) (parse (.literal quoted) (glues c) (escape text)) = _
      rw [unescape_of_special special, ih]
      rfl
    · have ordinary : isSpecial c = false := Bool.eq_false_iff.2 special
      have noEscape := (isSpecial_eq_false_iff.1 ordinary).1
      have nothing := scanOpening?_of_ordinary ordinary glued (escape text)
      rw [escape_cons_of_ordinary ordinary, parse_cons_of_none noEscape nothing, ih]
      rfl

/-- The search for a closing quote passes over escaped text. -/
theorem quoteEnd?_escape (text rest : List Char) :
    quoteEnd? (escape text ++ '"' :: rest) = some rest := by
  induction text with
  | nil => rfl
  | cons c text ih =>
    by_cases special : isSpecial c
    · rw [escape_cons_of_special special]
      exact ih
    · have ordinary : isSpecial c = false := Bool.eq_false_iff.2 special
      obtain ⟨noEscape, -, -, -, -, noQuote, -⟩ := isSpecial_eq_false_iff.1 ordinary
      rw [escape_cons_of_ordinary ordinary, List.cons_append, quoteEnd?.eq_4]
      · exact ih
      · intro _ _ same
        exact absurd same noEscape
      · exact noQuote

theorem closing?_literal_brace (outer : List Brace) (glued : Bool) (rest : List Char) :
    closing? (.literal :: outer) glued ('}' :: rest) = closing? outer false rest := by
  have step : Step .literal glued ('}' :: rest) [] false rest := .closed (by simp)
  exact closing?_of_step step outer

/-- The search for closing braces passes over escaped text. -/
theorem closing?_escape (text : List Char) (outer : List Brace) (glued : Bool) (rest : List Char) :
    closing? (.literal :: outer) glued (escape text ++ '}' :: rest) = closing? outer false rest := by
  induction text generalizing glued with
  | nil => exact closing?_literal_brace outer glued rest
  | cons c text ih =>
    by_cases special : isSpecial c
    · have step : Step .literal glued ('\\' :: c :: (escape text ++ '}' :: rest)) [.literal] (glues c)
          (escape text ++ '}' :: rest) := .escaped c _
      rw [escape_cons_of_special special]
      exact (closing?_of_step step outer).trans (ih _)
    · have ordinary : isSpecial c = false := Bool.eq_false_iff.2 special
      obtain ⟨noEscape, -, -, noOpening, noClosing, -, -⟩ := isSpecial_eq_false_iff.1 ordinary
      have nothing := scanOpening?_of_ordinary ordinary glued (escape text ++ '}' :: rest)
      have step : Step .literal glued (c :: (escape text ++ '}' :: rest)) [.literal] (glues c)
          (escape text ++ '}' :: rest) :=
        .plain noEscape noOpening noClosing (by simp [Brace.quotes]) nothing
      rw [escape_cons_of_ordinary ordinary]
      exact (closing?_of_step step outer).trans (ih _)

/-- Whether the body of a conditional ends at its own brace, whatever follows it and wherever the
conditional stands. -/
def Sealed (body : List Char) : Prop :=
  ∀ outer rest, closing? (.literal :: outer) false (body ++ '}' :: rest) = closing? outer false rest

theorem Sealed.close? {body : List Char} (isSealed : Sealed body) (rest : List Char) :
    Template.close? .literal (body ++ '}' :: rest) = some ⟨body, rest⟩ :=
  close?_eq_some_iff.2 ⟨rfl, (isSealed [] rest).trans (closing?_nil _ _)⟩

theorem sealed_escape (text : List Char) : Sealed (escape text) :=
  fun outer rest => closing?_escape text outer false rest

/-- A text in nested conditionals `?tag{…}`. -/
def wrapped (tag text : List Char) : ℕ → List Char
  | 0 => text
  | n + 1 => '?' :: (tag ++ '{' :: (wrapped tag text n ++ ['}']))

section Wrapping

variable (token : Tag.Token) {body : List Char} (isSealed : Sealed body)

include isSealed

theorem sealed_wrapped (n : ℕ) : Sealed (wrapped token.text body n) := by
  induction n with
  | zero => exact isSealed
  | succ n ih =>
    intro outer rest
    have whole : wrapped token.text body (n + 1) ++ '}' :: rest =
        '?' :: (token.text ++ '{' :: (wrapped token.text body n ++ '}' :: '}' :: rest)) := by
      simp [wrapped]
    have opened : scanOpening? false ('?' :: (token.text ++ '{' ::
        (wrapped token.text body n ++ '}' :: '}' :: rest))) =
        some (.present token.text, wrapped token.text body n ++ '}' :: '}' :: rest) :=
      scanQuestion?_token token _
    have step : Step .literal false _ [.literal, .literal] false
        (wrapped token.text body n ++ '}' :: '}' :: rest) := .construct opened
    rw [whole, closing?_of_step step]
    exact (ih _ _).trans (closing?_literal_brace outer false rest)

theorem parse_wrapped_succ (n : ℕ) (mode : Mode) (glued : Bool) :
    parse mode glued (wrapped token.text body (n + 1)) =
      .present token.text (parse (.literal false) false (wrapped token.text body n)) .done := by
  have closes := (sealed_wrapped token isSealed n).close? []
  exact (parse_question_of_close? token mode glued closes).trans (congrArg _ (parse_nil _ _))

end Wrapping

/-- A branch ends at its brace if the search for its quote passes over what is in the quotes. -/
theorem sealed_ifThen {name text : List Char} (named : Tag.Hyphenated name)
    (ends : ∀ rest, quoteEnd? (text ++ '"' :: rest) = some rest) :
    Sealed (ifThen name (quotation text)) := by
  intro outer rest
  have whole : ifThen name (quotation text) ++ '}' :: rest = 'i' :: 'f' :: '(' ::
      (name ++ ')' :: '{' :: '"' :: (text ++ '"' :: '}' :: '}' :: rest)) := by
    simp [ifThen, quotation]
  have header : Step .literal false ('i' :: 'f' :: '(' ::
      (name ++ ')' :: '{' :: '"' :: (text ++ '"' :: '}' :: '}' :: rest))) [.first, .literal] false
      ('"' :: (text ++ '"' :: '}' :: '}' :: rest)) := .construct (scanOpening?_if named _)
  have quotes : Step .first false ('"' :: (text ++ '"' :: '}' :: '}' :: rest)) [.first] false
      ('}' :: '}' :: rest) := .quoted rfl (ends _)
  have branch : Step .first false ('}' :: '}' :: rest) [] false ('}' :: rest) := .closed fun _ => rfl
  calc closing? (.literal :: outer) false (ifThen name (quotation text) ++ '}' :: rest)
      = closing? (.first :: .literal :: outer) false ('"' :: (text ++ '"' :: '}' :: '}' :: rest)) := by
        rw [whole]
        exact closing?_of_step header outer
    _ = closing? (.first :: .literal :: outer) false ('}' :: '}' :: rest) :=
        closing?_of_step quotes (.literal :: outer)
    _ = closing? (.literal :: outer) false ('}' :: rest) := closing?_of_step branch (.literal :: outer)
    _ = closing? outer false rest := closing?_literal_brace outer false rest

theorem parse_ifThen_escape {name : List Char} (named : Tag.Hyphenated name) (text : List Char) :
    parse (.literal false) false (ifThen name (quotation (escape text))) =
      .branch name (.nested (spelled text) .done) .done := by
  have noElse : ¬OpensElse [] := scanElse?_eq_none_iff.1 rfl
  have read := parse_ifThen named (.literal false) (close?_quoted (quoteEnd?_escape text) []) noElse
  rwa [List.append_nil, parse_quoted (quoteEnd?_escape text), parse_escape, parse_nil] at read

section Showing

variable (lookup : Lookup) {token : Tag.Token}
  (held : (lookup.value (String.ofList token.text)).answer ≠ "")

include held

/-- Each conditional around a body takes one level and shows what the body shows. -/
theorem answer_wrapped {body shown : List Char} (isSealed : Sealed body) {limit left : ℕ}
    (shows : ∀ bound, (expandAt lookup.value (.limited limit left) bound
      (parse (.literal false) false body)).run.answer = .ok shown) (n : ℕ) (bound : List Char) :
    (expandAt lookup.value (.limited limit (left + n)) bound
      (parse (.literal false) false (wrapped token.text body n))).run.answer = .ok shown := by
  induction n generalizing bound with
  | zero => exact shows bound
  | succ n ih =>
    have inside : (do
        expandAt lookup.value (← (Depth.limited limit (left + (n + 1))).descend)
          (lookup.value (String.ofList token.text)).answer.toList
          (parse (.literal false) false (wrapped token.text body n)) : Expansion).run.answer =
        .ok shown := ih _
    rw [parse_wrapped_succ token isSealed, expandAt_present, if_neg held, run_taken, inside]
    exact congrArg Except.ok (List.append_nil shown)

theorem answer_branch_quoted (limit left : ℕ) (bound text : List Char) :
    (expandAt lookup.value (.limited limit (left + 2)) bound
      (.branch token.text (.nested (spelled text) .done) .done)).run.answer = .ok text := by
  have holds : (lookup.condition (String.ofList token.text)).answer = true := by
    rw [← Bool.not_eq_false, condition_eq_false_iff]
    exact held
  rw [expandAt_branch, run_decided, holds, if_pos rfl, Depth.descend, liftM_ok, pure_bind,
    expandAt_nested_spelled]
  exact congrArg Except.ok (List.append_nil text)

end Showing

/-- Escaped text shows the text, in literal text without asking for anything, in up to 32 conditionals
around it, and in the quotes of a branch in up to 30 conditionals: these take two levels themselves. -/
theorem expand?_escape (lookup : Lookup) (text : List Char) :
    expand? lookup.value (String.ofList (escape text)) = pure (.ok (String.ofList text)) ∧
      ∀ token : Tag.Token, (lookup.value (String.ofList token.text)).answer ≠ "" →
        (∀ n ≤ 32, (expand? lookup.value
          (String.ofList (wrapped token.text (escape text) n))).answer = .ok (String.ofList text)) ∧
        (token.arguments = none → ∀ n ≤ 30, (expand? lookup.value (String.ofList
          (wrapped token.text (ifThen token.text (quotation (escape text))) n))).answer =
            .ok (String.ofList text)) := by
  refine ⟨?_, fun token held => ⟨?_, ?_⟩⟩
  · rw [expand?, ofString, String.toList_ofList, parse_escape, expandAt_spelled]
    rfl
  · intro n bounded
    obtain ⟨left, total⟩ := Nat.exists_eq_add_of_le' bounded
    have shows (bound : List Char) : (expandAt lookup.value (.limited maxDepth left) bound
        (parse (.literal false) false (escape text))).run.answer = .ok text := by
      rw [parse_escape, expandAt_spelled]
      rfl
    have outcome := answer_wrapped lookup held (sealed_escape text) shows n []
    rw [← total] at outcome
    exact answer_expand? rfl outcome
  · intro bare n bounded
    -- The branch and its quotes lie two levels below the innermost conditional.
    obtain ⟨left, total⟩ := Nat.exists_eq_add_of_le' bounded
    have named : Tag.Hyphenated token.text := by
      rw [Tag.Token.text, bare]
      exact token.hyphenated
    have shows (bound : List Char) : (expandAt lookup.value (.limited maxDepth (left + 2)) bound
        (parse (.literal false) false (ifThen token.text (quotation (escape text))))).run.answer =
          .ok text := by
      rw [parse_ifThen_escape named]
      exact answer_branch_quoted lookup held maxDepth left bound text
    have outcome := answer_wrapped lookup held (sealed_ifThen named (quoteEnd?_escape text)) shows n []
    have levels : left + 2 + n = maxDepth := by
      rw [maxDepth]
      omega
    rw [levels] at outcome
    exact answer_expand? rfl outcome

/-- The tag `path`. -/
def barePathToken : Tag.Token :=
  { pathToken with arguments := none, flat := fun _ member => (Option.not_mem_none _ member).elim }

/-- A text that opens and closes everything. -/
theorem expand?_escape_path :
    let text := ['}', '"', '\\', '{', 'i', 'f', '(', '?', '$', '\\']
    let shows (template : List Char) := (expand? solutionLookup.value (String.ofList template)).answer
    (solutionLookup.value (String.ofList barePathToken.text)).answer ≠ "" ∧
      barePathToken.arguments = none ∧
      shows (wrapped barePathToken.text (escape text) 32) = .ok (String.ofList text) ∧
      shows (wrapped barePathToken.text (ifThen barePathToken.text (quotation (escape text))) 30) =
        .ok (String.ofList text) := by
  intro text shows
  have held : (solutionLookup.value (String.ofList barePathToken.text)).answer ≠ "" := by
    decide +kernel
  obtain ⟨-, inside⟩ := expand?_escape solutionLookup text
  obtain ⟨literal, branch⟩ := inside barePathToken held
  exact ⟨held, rfl, literal 32 le_rfl, branch rfl 30 le_rfl⟩

end TitleBar.Template
