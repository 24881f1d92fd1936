import TitleBar.Proofs.Template.Conditional
import TitleBar.Proofs.Text.Pieces
import TitleBar.Resolver.Lookup
import TitleBar.Resolver.OpenSolution

/-! # One condition for all conditionals

`?tag{…}`, `$tag?{…}` and `$tag!{…}` are decided by whether their tag has a value that is not empty,
and so is `if(tag){…}else{…}` for a tag without arguments. The header of an `if` ends at the first
closing parenthesis, though, so that a tag with arguments makes no header: there the `i` of the `if`
stands for itself, whatever the value of the tag.
-/

namespace TitleBar

open Text

namespace Template

/-- Characters that are emitted as they are. -/
def spelled (text : List Char) : Template := text.foldr .text .done

/-- Whether a character starts neither a construct nor an escape and is neither a brace nor a quote. -/
def isPlain (c : Char) : Bool := !(['\\', '$', '?', '{', '}', '"'].contains c)

/-- A text in quotes. -/
def quotation (text : List Char) : List Char := '"' :: (text ++ ['"'])

/-- Only a brace can open the body of an `if`. -/
theorem brace_mem_of_scanIf? {text rest : List Char} {opening : Opening}
    (found : scanIf? text = some (opening, rest)) : '{' ∈ text := by
  simp only [scanIf?, Option.bind_eq_bind, Option.bind_eq_some_iff] at found
  obtain ⟨afterWord, word, inside, opened, behind, closed, body, braced, -⟩ := found
  have mem : '{' ∈ trimStart behind := by
    rw [strip?_eq_some_iff.1 braced]
    exact List.mem_cons_self
  have suffix := ((trimStart_suffix behind).trans (strip?_suffix closed)).trans
    ((List.dropWhile_suffix _).trans ((strip?_suffix opened).trans
      ((trimStart_suffix afterWord).trans (strip?_suffix word))))
  exact suffix.mem mem

theorem scanOpening?_eq_none {c : Char} (noDollar : c ≠ '$') (noQuestion : c ≠ '?')
    {text : List Char} (noBrace : '{' ∉ text) (glued : Bool) :
    scanOpening? glued (c :: text) = none := by
  unfold scanOpening?
  split
  · simp_all
  · simp_all
  · rename_i rest same
    obtain ⟨rfl, rfl⟩ := List.cons.inj same
    split
    · rfl
    · rcases found : scanIf? text with _ | ⟨opening, rest⟩
      · rfl
      · exact (noBrace (brace_mem_of_scanIf? found)).elim
  · rfl

/-- Text without constructs and escapes is emitted as it is. -/
theorem parse_eq_spelled {text : List Char}
    (plain : ∀ c ∈ text, c ≠ '\\' ∧ c ≠ '$' ∧ c ≠ '?' ∧ c ≠ '{') (quoted glued : Bool) :
    parse (.literal quoted) glued text = spelled text := by
  induction text generalizing glued with
  | nil => exact parse_nil _ _
  | cons c text ih =>
    obtain ⟨⟨noEscape, noDollar, noQuestion, -⟩, others⟩ := List.forall_mem_cons.1 plain
    have noBrace : '{' ∉ text := fun member => (others _ member).2.2.2 rfl
    rw [parse_eq_piece?, piece?_of_opening noEscape (by simp) (by simp),
      scanOpening?_eq_none noDollar noQuestion noBrace]
    exact congrArg (Template.text c) (ih others _)

theorem expandAt_spelled (ask : String → Trace String) (depth : Depth) (bound text : List Char) :
    expandAt ask depth bound (spelled text) = pure text := by
  induction text with
  | nil => rfl
  | cons c text ih =>
    rw [spelled, List.foldr_cons, expandAt]
    change (do return c :: (← expandAt ask depth bound (spelled text)) : Expansion) = _
    rw [ih, pure_bind]

/-- A body without constructs, escapes and braces ends at its brace. -/
theorem close?_of_plain {text : List Char}
    (plain : ∀ c ∈ text, c ≠ '\\' ∧ c ≠ '$' ∧ c ≠ '?' ∧ c ≠ '{' ∧ c ≠ '}') :
    close? .literal (text ++ ['}']) = some ⟨text, []⟩ := by
  have closes (glued : Bool) : closing? [.literal] glued (text ++ ['}']) = some [] := by
    induction text generalizing glued with
    | nil =>
      have step : Step .literal glued ['}'] [] false [] := .closed nofun
      rw [List.nil_append, closing?_of_step step]
      exact closing?_nil _ _
    | cons c text ih =>
      obtain ⟨⟨noEscape, noDollar, noQuestion, noOpening, noClosing⟩, others⟩ :=
        List.forall_mem_cons.1 plain
      have noBrace : '{' ∉ text ++ ['}'] := by
        rw [List.mem_append, List.mem_singleton, not_or]
        exact ⟨fun member => (others _ member).2.2.2.1 rfl, by decide⟩
      have none := scanOpening?_eq_none noDollar noQuestion noBrace glued
      rw [List.cons_append,
        closing?_of_step (.plain noEscape noOpening noClosing (by simp [Brace.quotes]) none)]
      exact ih others _
  exact close?_eq_some_iff.2 ⟨rfl, closes false⟩

theorem quoteEnd?_of_plain {text : List Char} (plain : ∀ c ∈ text, c ≠ '\\' ∧ c ≠ '"')
    (rest : List Char) : quoteEnd? (text ++ '"' :: rest) = some rest := by
  induction text with
  | nil => rfl
  | cons c text ih =>
    obtain ⟨⟨noEscape, noQuote⟩, others⟩ := List.forall_mem_cons.1 plain
    rw [List.cons_append, quoteEnd?.eq_4]
    · exact ih others
    · simp_all
    · simp_all

section Quoted

variable {text : List Char} (ends : ∀ rest, quoteEnd? (text ++ '"' :: rest) = some rest)

include ends

/-- A branch shows what is in its quotes. -/
theorem parse_quoted (glued : Bool) :
    parse .structural glued (quotation text) = .nested (parse (.literal true) false text) .done := by
  have run : piece? .structural glued (quotation text) = some ⟨.quoted text, false, []⟩ := by
    rw [quotation, piece?_cons (by decide), if_pos (by decide), ends]
    simp
  rw [parse_eq_piece?, run]
  simp only [Option.map_some, Option.getD_some, Cut.tree, Piece.tree, parse_nil]

theorem close?_quoted (rest : List Char) :
    close? .structural (quotation text ++ '}' :: rest) = some ⟨quotation text, rest⟩ := by
  have whole : quotation text ++ '}' :: rest = '"' :: (text ++ '"' :: '}' :: rest) := by
    simp [quotation]
  have quote : Step .structural false ('"' :: (text ++ '"' :: '}' :: rest)) [.structural] false
      ('}' :: rest) := .quoted rfl (ends _)
  have brace : Step .structural false ('}' :: rest) [] false rest := .closed nofun
  refine close?_eq_some_iff.2 ⟨rfl, ?_⟩
  rw [whole, closing?_of_step quote, List.singleton_append, closing?_of_step brace]
  exact closing?_nil _ _

end Quoted

theorem isPlain_iff {c : Char} :
    isPlain c ↔ c ≠ '\\' ∧ c ≠ '$' ∧ c ≠ '?' ∧ c ≠ '{' ∧ c ≠ '}' ∧ c ≠ '"' := by
  simp [isPlain]

section Quotation

variable {text : List Char} (plain : ∀ c ∈ text, isPlain c)

include plain

theorem parse_of_isPlain (quoted glued : Bool) : parse (.literal quoted) glued text = spelled text := by
  refine parse_eq_spelled (fun c member => ?_) quoted glued
  obtain ⟨noEscape, noDollar, noQuestion, noOpening, -⟩ := isPlain_iff.1 (plain c member)
  exact ⟨noEscape, noDollar, noQuestion, noOpening⟩

theorem quoteEnd?_quotation (rest : List Char) : quoteEnd? (text ++ '"' :: rest) = some rest := by
  refine quoteEnd?_of_plain (fun c member => ?_) rest
  obtain ⟨noEscape, -, -, -, -, noQuote⟩ := isPlain_iff.1 (plain c member)
  exact ⟨noEscape, noQuote⟩

theorem parse_quotation (glued : Bool) :
    parse .structural glued (quotation text) = .nested (spelled text) .done := by
  rw [parse_quoted (quoteEnd?_quotation plain), parse_of_isPlain plain]

theorem close?_quotation (rest : List Char) :
    close? .structural (quotation text ++ '}' :: rest) = some ⟨quotation text, rest⟩ :=
  close?_quoted (quoteEnd?_quotation plain) rest

/-- In literal text the quotes stand for themselves. -/
theorem plain_quotation :
    ∀ c ∈ quotation text, c ≠ '\\' ∧ c ≠ '$' ∧ c ≠ '?' ∧ c ≠ '{' ∧ c ≠ '}' := by
  intro c member
  rcases List.mem_cons.1 member with rfl | member
  · decide
  rcases List.mem_append.1 member with inside | last
  · obtain ⟨noEscape, noDollar, noQuestion, noOpening, noClosing, -⟩ := isPlain_iff.1 (plain c inside)
    exact ⟨noEscape, noDollar, noQuestion, noOpening, noClosing⟩
  · rw [List.mem_singleton.1 last]
    decide

theorem close?_quotation_literal :
    close? .literal (quotation text ++ ['}']) = some ⟨quotation text, []⟩ :=
  close?_of_plain (plain_quotation plain)

theorem parse_quotation_literal (quoted glued : Bool) :
    parse (.literal quoted) glued (quotation text) = spelled (quotation text) := by
  refine parse_eq_spelled (fun c member => ?_) quoted glued
  obtain ⟨noEscape, noDollar, noQuestion, noOpening, -⟩ := plain_quotation plain c member
  exact ⟨noEscape, noDollar, noQuestion, noOpening⟩

end Quotation

section Header

/-- What stands in front of the first closing parenthesis makes the header of an `if`. -/
theorem scanIf?_header {head : List Char} (unclosed : ')' ∉ head) (behind : List Char) :
    scanIf? ('f' :: '(' :: (head ++ ')' :: behind)) =
      (strip? ['{'] (trimStart behind)).bind fun body =>
        if Tag.hyphenated (trim head) = [] then none else some (.branch (trim head), body) := by
  obtain ⟨left, right⟩ := span_of_not_mem unclosed behind
  have solid : isBlank '(' = false := by decide
  simp only [scanIf?, strip?, if_true, Option.bind_eq_bind, Option.bind_some,
    trimStart_of_solid solid, left, right]

variable {token : Tag.Token} {before after : List Char} (front : ∀ c ∈ before, isBlank c)
  (back : ∀ c ∈ after, isBlank c)

include front back

/-- The header of an `if` with an identifier. -/
theorem scanIf?_hyphenated {name : List Char} (hyphenated : Tag.Hyphenated name)
    (inside : List Char) :
    scanIf? ('f' :: '(' :: (before ++ name ++ after ++ ')' :: '{' :: inside)) =
      some (.branch name, inside) := by
  have solid : ∀ c ∈ name, isBlank c = false ∧ c ≠ ')' :=
    fun c member => Tag.solid_of_isWord_or (hyphenated.isWord_or c member)
  have unclosed : ')' ∉ before ++ name ++ after := by
    rw [List.mem_append, List.mem_append]
    rintro ((member | member) | member)
    · exact absurd (front _ member) (by decide)
    · exact (solid _ member).2 rfl
    · exact absurd (back _ member) (by decide)
  have named : Tag.hyphenated name ≠ [] := by
    obtain ⟨c, rest, rfl, word⟩ := hyphenated.exists_cons
    exact Tag.hyphenated_ne_nil word rest
  have trimmed : trim (before ++ name ++ after) = name :=
    trim_of_blank front (fun c member => (solid c member).1) back
  have brace : isBlank '{' = false := by decide
  rw [scanIf?_header unclosed, trimStart_of_solid brace, trimmed]
  simp only [strip?, if_true, Option.bind_some, if_neg named]

/-- The header of an `if` whose tag has no arguments. -/
theorem scanIf?_token (bare : token.arguments = none) (inside : List Char) :
    scanIf? ('f' :: '(' :: (before ++ token.text ++ after ++ ')' :: '{' :: inside)) =
      some (.branch token.text, inside) := by
  have text : token.text = token.name := by rw [Tag.Token.text, bare]
  rw [text]
  exact scanIf?_hyphenated front back token.hyphenated inside

/-- A tag with arguments makes no header of an `if`. -/
theorem scanIf?_call (called : token.arguments ≠ none) (rest : List Char) :
    scanIf? ('f' :: '(' :: (before ++ token.text ++ after ++ ')' :: rest)) = none := by
  obtain ⟨list, arguments⟩ := Option.ne_none_iff_exists'.1 called
  have whole : before ++ token.text ++ after ++ ')' :: rest =
      before ++ token.name ++ '(' :: list ++ ')' :: (after ++ ')' :: rest) := by
    simp [Tag.Token.text, arguments]
  have unclosed : ')' ∉ before ++ token.name ++ '(' :: list := by
    rw [List.mem_append, List.mem_append, List.mem_cons]
    rintro ((member | member) | (same | member))
    · exact absurd (front _ member) (by decide)
    · exact (Tag.solid_of_isWord_or (token.hyphenated.isWord_or _ member)).2 rfl
    · contradiction
    · exact (token.flat list arguments).2 member
  have parenthesis : isBlank ')' = false := by decide
  rw [whole, scanIf?_header unclosed, trimStart_of_blank back, trimStart_of_solid parenthesis]
  rfl

end Header

section Outcome

variable {ask : String → Trace String}

theorem liftM_ok {α : Type} (a : α) :
    (liftM (Except.ok a : Except ExpandError α) : ExceptT ExpandError Trace α) = pure a :=
  rfl

theorem answer_ask_bind (question : Trace String) (behind : String → Expansion) :
    (liftM question >>= behind : Expansion).run.answer = (behind question.answer).run.answer :=
  rfl

/-- What a template shows that is read into a given tree. -/
theorem answer_expand? {text shown : List Char} {tree : Template}
    (parsed : parse (.literal false) false text = tree)
    (outcome : (expandAt ask (.limited maxDepth maxDepth) [] tree).run.answer = .ok shown) :
    (expand? ask (String.ofList text)).answer = .ok (String.ofList shown) := by
  rw [expand?, ofString, String.toList_ofList, parsed, Trace.answer_bind, outcome]
  rfl

theorem descend_maxDepth : (Depth.limited maxDepth maxDepth).descend = .ok (.limited maxDepth 31) :=
  rfl

/-- A taken body that shows a text, with nothing behind it. -/
theorem answer_taken (question : Trace String) (text : List Char) :
    (taken question (pure text) (pure [])).run.answer = .ok text := by
  rw [run_taken]
  exact congrArg Except.ok (List.append_nil text)

variable (ask)

theorem answer_present (tag text : List Char) :
    (expandAt ask (.limited maxDepth maxDepth) [] (.present tag (spelled text) .done)).run.answer =
      .ok (if (ask (String.ofList tag)).answer = "" then [] else text) := by
  rw [expandAt_present, descend_maxDepth, liftM_ok, pure_bind, expandAt_spelled, expandAt]
  split
  · rfl
  · exact answer_taken _ text

theorem answer_absent (tag text : List Char) :
    (expandAt ask (.limited maxDepth maxDepth) [] (.absent tag (spelled text) .done)).run.answer =
      .ok (if (ask (String.ofList tag)).answer = "" then text else []) := by
  rw [expandAt_absent, descend_maxDepth, liftM_ok, pure_bind, expandAt_spelled, expandAt]
  split
  · exact answer_taken _ text
  · rfl

theorem expandAt_nested_spelled (limit left : ℕ) (bound text : List Char) :
    expandAt ask (.limited limit (left + 1)) bound (.nested (spelled text) .done) = pure text := by
  rw [expandAt, Depth.descend, liftM_ok, pure_bind, expandAt_spelled, expandAt, pure_bind, pure_bind,
    List.append_nil]

theorem answer_branches (tag yes no : List Char) :
    (expandAt ask (.limited maxDepth maxDepth) [] (.branches tag (.nested (spelled yes) .done)
      (.nested (spelled no) .done) .done)).run.answer =
      .ok (if (ask (String.ofList tag)).answer = "" then no else yes) := by
  rw [expandAt, answer_ask_bind, descend_maxDepth, liftM_ok, pure_bind]
  simp only [expandAt_nested_spelled ask maxDepth 30, String.isEmpty_iff]
  split
  · exact congrArg Except.ok (List.append_nil no)
  · exact congrArg Except.ok (List.append_nil yes)

end Outcome

/-- The condition of a tag holds if its value is not empty. -/
theorem condition_eq_false_iff (lookup : Lookup) (tag : String) :
    (lookup.condition tag).answer = false ↔ (lookup.value tag).answer = "" := by
  rw [Lookup.condition, Lookup.value, Trace.answer_bind, Trace.answer_bind]
  rcases (lookup.resolve? tag).answer with _ | value
  · simp
  · simp

/-- A letter that opens nothing stands in front of what follows it. -/
theorem parse_cons_of_none {c : Char} (noEscape : c ≠ '\\') {text : List Char} {glued : Bool}
    (nothing : scanOpening? glued (c :: text) = none) (quoted : Bool) :
    parse (.literal quoted) glued (c :: text) = .text c (parse (.literal quoted) (glues c) text) := by
  rw [parse_eq_piece?, piece?_of_opening noEscape (by simp) (by simp), nothing]
  rfl

/-- Where an `if` has no header, its first letter stands for itself and what is behind it is read on. -/
theorem answer_headless (ask : String → Trace String) {rest : List Char}
    (headless : scanIf? ('f' :: rest) = none) :
    (expand? ask (String.ofList ('i' :: 'f' :: rest))).answer =
      (expand? ask (String.ofList ('f' :: rest))).answer.map ("i" ++ ·) := by
  have letter (glued : Bool) : parse (.literal false) glued ('f' :: rest) =
      .text 'f' (parse (.literal false) true rest) := parse_cons_of_none (by decide) rfl false
  have nothing : scanOpening? false ('i' :: 'f' :: rest) = none := headless
  have whole : parse (.literal false) false ('i' :: 'f' :: rest) =
      .text 'i' (parse (.literal false) false ('f' :: rest)) := by
    rw [parse_cons_of_none (by decide) nothing, letter, letter]
  simp only [expand?, ofString, String.toList_ofList, whole, Trace.answer_bind, Trace.answer_pure,
    expandAt, ExceptT.run_bind]
  rcases (expandAt ask (.limited maxDepth maxDepth) []
    (parse (.literal false) false ('f' :: rest))).run.answer with error | shown
  · rfl
  · have front : String.ofList (['i'] ++ shown) = "i" ++ String.ofList shown := String.ofList_append
    exact congrArg Except.ok front

/-- An `if` with two branches. -/
def ifElse (tag first second : List Char) : List Char :=
  'i' :: 'f' :: '(' :: (tag ++ ')' :: '{' :: (first ++
    '}' :: 'e' :: 'l' :: 's' :: 'e' :: '{' :: (second ++ ['}'])))

section Quotations

variable {first second text tag : List Char} {c : Char} (plain : ∀ c ∈ first, isPlain c)

include plain

theorem parse_of_present
    (opened : scanOpening? false (c :: text) = some (.present tag, quotation first ++ ['}'])) :
    parse (.literal false) false (c :: text) = .present tag (spelled (quotation first)) .done := by
  rw [parse_of_opening opened, cutConstruct, cutBody, close?_quotation_literal plain,
    ← parse_quotation_literal plain false false, ← parse_nil (.literal false) false]
  rfl

theorem parse_of_absent
    (opened : scanOpening? false (c :: text) = some (.absent tag, quotation first ++ ['}'])) :
    parse (.literal false) false (c :: text) = .absent tag (spelled (quotation first)) .done := by
  rw [parse_of_opening opened, cutConstruct, cutBody, close?_quotation_literal plain,
    ← parse_quotation_literal plain false false, ← parse_nil (.literal false) false]
  rfl

theorem parse_of_branches (others : ∀ c ∈ second, isPlain c)
    (opened : scanOpening? false (c :: text) = some (.branch tag, quotation first ++
      '}' :: 'e' :: 'l' :: 's' :: 'e' :: '{' :: (quotation second ++ ['}']))) :
    parse (.literal false) false (c :: text) =
      .branches tag (.nested (spelled first) .done) (.nested (spelled second) .done) .done := by
  have other : scanElse? ('e' :: 'l' :: 's' :: 'e' :: '{' :: (quotation second ++ ['}'])) =
    some (quotation second ++ ['}']) := rfl
  rw [parse_of_opening opened]
  simp only [cutConstruct, close?_quotation plain, cutElse, other, close?_quotation others]
  simp only [Cut.tree, Piece.tree, Body.tree, Closed.read, parse_quotation plain,
    parse_quotation others, parse_nil]

end Quotations

/-- A tag has one condition in all conditionals. Only an `if` does not know tags with arguments: there
its first letter stands for itself, and what is behind it is read on. -/
theorem conditions_agree (lookup : Lookup) (token : Tag.Token) {before after first second : List Char}
    (blank : ∀ c ∈ before ++ after, isBlank c) (plain : ∀ c ∈ first ++ second, isPlain c) :
    let holds := (lookup.condition (String.ofList token.text)).answer
    let shows (text : List Char) := (expand? lookup.value (String.ofList text)).answer
    let choice := ifElse (before ++ token.text ++ after) (quotation first) (quotation second)
    shows ('?' :: (token.text ++ '{' :: (quotation first ++ ['}']))) =
        .ok (String.ofList (if holds then quotation first else [])) ∧
      shows ('$' :: (token.text ++ '?' :: '{' :: (quotation first ++ ['}']))) =
        .ok (String.ofList (if holds then quotation first else [])) ∧
      shows ('$' :: (token.text ++ '!' :: '{' :: (quotation first ++ ['}']))) =
        .ok (String.ofList (if holds then [] else quotation first)) ∧
      shows choice = if token.arguments = none then .ok (String.ofList (if holds then first else second))
        else (shows choice.tail).map ("i" ++ ·) := by
  intro holds shows choice
  rw [List.forall_mem_append] at blank plain
  have decided {shown hidden : List Char} :
      (if (lookup.value (String.ofList token.text)).answer = "" then hidden else shown) =
        if holds then shown else hidden := by
    simp only [← condition_eq_false_iff, ← Bool.not_eq_true, ite_not]
    rfl
  refine ⟨?_, ?_, ?_, ?_⟩
  · have opened := scanQuestion?_token token (quotation first ++ ['}'])
    have outcome := answer_expand? (parse_of_present (c := '?') plain.1 opened)
      (answer_present lookup.value _ _)
    rwa [decided] at outcome
  · have opened := congrArg some (scanDollar_token token
      (token.endsBefore_cons (c := '?') (by decide) ('{' :: (quotation first ++ ['}']))))
    have outcome := answer_expand? (parse_of_present (c := '$') plain.1 opened)
      (answer_present lookup.value _ _)
    rwa [decided] at outcome
  · have opened := congrArg some (scanDollar_token token
      (token.endsBefore_cons (c := '!') (by decide) ('{' :: (quotation first ++ ['}']))))
    have outcome := answer_expand? (parse_of_absent (c := '$') plain.1 opened)
      (answer_absent lookup.value _ _)
    rwa [decided] at outcome
  · split
    · rename_i bare
      have opened := scanIf?_token blank.1 blank.2 bare (quotation first ++
        '}' :: 'e' :: 'l' :: 's' :: 'e' :: '{' :: (quotation second ++ ['}']))
      have outcome := answer_expand? (parse_of_branches (c := 'i') plain.1 plain.2 opened)
        (answer_branches lookup.value _ _ _)
      rwa [decided] at outcome
    · rename_i called
      exact answer_headless lookup.value (scanIf?_call blank.1 blank.2 called _)

/-- A state with an open solution. -/
def solutionLookup : Lookup :=
  let solution : Solution := ⟨⟨"/src/app/app.sln"⟩, ⟨"/src/app"⟩, "app"⟩
  ⟨⟨[(OpenSolution.opened solution).resolver], by decide⟩, ⟨.design, some solution⟩⟩

/-- The directory above that of the solution has a name, but an `if` does not see it. -/
theorem conditions_agree_path :
    let shows (text : List Char) := (expand? solutionLookup.value (String.ofList text)).answer
    (∀ c ∈ [] ++ [' '], isBlank c) ∧ (∀ c ∈ ['a'] ++ ['b'], isPlain c) ∧
      (solutionLookup.condition (String.ofList pathToken.text)).answer = true ∧
      shows ('?' :: (pathToken.text ++ '{' :: (quotation ['a'] ++ ['}']))) = .ok "\"a\"" ∧
      shows (ifElse ([] ++ pathToken.text ++ [' ']) (quotation ['a']) (quotation ['b'])) =
        .ok "if(path(1) )\x7b\"a\"\x7delse\x7b\"b\"\x7d" := by
  intro shows
  have blank : ∀ c ∈ [] ++ [' '], isBlank c := List.forall_mem_singleton.2 (by decide)
  have plain : ∀ c ∈ ['a'] ++ ['b'], isPlain c :=
    List.forall_mem_append.2
      ⟨List.forall_mem_singleton.2 (by decide), List.forall_mem_singleton.2 (by decide)⟩
  have holds : (solutionLookup.condition (String.ofList pathToken.text)).answer = true := by
    decide +kernel
  have behind : shows (ifElse ([] ++ pathToken.text ++ [' ']) (quotation ['a'])
      (quotation ['b'])).tail = .ok "f(path(1) )\x7b\"a\"\x7delse\x7b\"b\"\x7d" := by
    decide +kernel
  obtain ⟨question, -, -, choice⟩ := conditions_agree solutionLookup pathToken blank plain
  refine ⟨blank, plain, holds, ?_, ?_⟩
  · rw [holds] at question
    exact question
  · rw [if_neg (by decide)] at choice
    exact choice.trans (congrArg (Except.map ("i" ++ ·)) behind)

end Template

end TitleBar
