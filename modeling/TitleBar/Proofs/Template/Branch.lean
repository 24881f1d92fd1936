import TitleBar.Proofs.Template.Condition

/-! # The choice between two branches

`if(tag){yes}else{no}` asks for its tag once. What the answer decides is which branch is expanded, one
level deeper and with what encloses the construct; it decides nothing else: the text goes on behind both
branches in either case, and the branch that is not taken is not looked into. Without `else` there is
one branch, where nothing that follows may be taken for an `else`.
-/

namespace TitleBar.Template

open Text

section Else

/-- Whether a text goes on with `else` and a brace, perhaps with white space in front of either. -/
def OpensElse (rest : List Char) : Prop :=
  ∃ before between inside, (∀ c ∈ before ++ between, isBlank c) ∧
    rest = before ++ 'e' :: 'l' :: 's' :: 'e' :: (between ++ '{' :: inside)

theorem scanElse?_of_blank {before between : List Char} (blank : ∀ c ∈ before ++ between, isBlank c)
    (inside : List Char) :
    scanElse? (before ++ 'e' :: 'l' :: 's' :: 'e' :: (between ++ '{' :: inside)) = some inside := by
  obtain ⟨front, back⟩ := List.forall_mem_append.1 blank
  have letter : isBlank 'e' = false := by decide
  have brace : isBlank '{' = false := by decide
  rw [scanElse?, trimStart_of_blank front, trimStart_of_solid letter]
  simp only [strip?, if_true, Option.bind_eq_bind, Option.bind_some]
  rw [trimStart_of_blank back, trimStart_of_solid brace]
  rfl

/-- The look-ahead behind the first branch finds an `else` exactly if there is one. -/
theorem scanElse?_eq_none_iff {rest : List Char} : scanElse? rest = none ↔ ¬OpensElse rest := by
  constructor
  · rintro none ⟨before, between, inside, blank, rfl⟩
    rw [scanElse?_of_blank blank] at none
    contradiction
  · intro closed
    rcases found : scanElse? rest with _ | inside
    · rfl
    · simp only [scanElse?, Option.bind_eq_bind, Option.bind_eq_some_iff] at found
      obtain ⟨behind, word, brace⟩ := found
      obtain ⟨before, front, whole⟩ := exists_blank_append_trimStart rest
      obtain ⟨between, back, gap⟩ := exists_blank_append_trimStart behind
      rw [strip?_eq_some_iff.1 word] at whole
      rw [strip?_eq_some_iff.1 brace] at gap
      subst gap
      exact absurd ⟨before, between, inside, List.forall_mem_append.2 ⟨front, back⟩, whole⟩ closed

end Else

section Reading

/-- An `if` with one branch. -/
def ifThen (tag body : List Char) : List Char :=
  'i' :: 'f' :: '(' :: (tag ++ ')' :: '{' :: (body ++ ['}']))

variable {name : List Char} (named : Tag.Hyphenated name)

include named

theorem scanOpening?_if (inside : List Char) :
    scanOpening? false ('i' :: 'f' :: '(' :: (name ++ ')' :: '{' :: inside)) =
      some (.branch name, inside) := by
  have none : ∀ c ∈ ([] : List Char), isBlank c := nofun
  have header := scanIf?_hyphenated none none named inside
  rwa [List.nil_append, List.append_nil] at header

variable {yes rest : List Char}

theorem parse_ifThen (mode : Mode) (closes : close? .structural (yes ++ '}' :: rest) = some ⟨yes, rest⟩)
    (noElse : ¬OpensElse rest) :
    parse mode false (ifThen name yes ++ rest) =
      .branch name (parse .structural false yes) (parse mode false rest) := by
  have whole : ifThen name yes ++ rest =
      'i' :: 'f' :: '(' :: (name ++ ')' :: '{' :: (yes ++ '}' :: rest)) := by
    simp [ifThen]
  rw [whole, parse_of_opening (scanOpening?_if named _)]
  simp only [cutConstruct, closes, cutElse, scanElse?_eq_none_iff.2 noElse]
  rfl

theorem parse_ifElse (mode : Mode) {no behind : List Char}
    (between : behind = 'e' :: 'l' :: 's' :: 'e' :: '{' :: (no ++ '}' :: rest))
    (first : close? .structural (yes ++ '}' :: behind) = some ⟨yes, behind⟩)
    (second : close? .structural (no ++ '}' :: rest) = some ⟨no, rest⟩) :
    parse mode false (ifElse name yes no ++ rest) =
      .branches name (parse .structural false yes) (parse .structural false no)
        (parse mode false rest) := by
  have whole : ifElse name yes no ++ rest =
      'i' :: 'f' :: '(' :: (name ++ ')' :: '{' :: (yes ++ '}' :: behind)) := by
    simp [ifElse, between]
  have other : scanElse? behind = some (no ++ '}' :: rest) := by
    have none : ∀ c ∈ ([] ++ [] : List Char), isBlank c := nofun
    rw [between]
    exact scanElse?_of_blank none _
  rw [whole, parse_of_opening (scanOpening?_if named _)]
  simp only [cutConstruct, first, cutElse, other, second]
  rfl

end Reading

section Deciding

/-- A construct that is decided by a question: what it shows then stands in front of what follows. -/
def decided (question : Trace Bool) (shown : Bool → Expansion) (behind : Expansion) : Expansion := do
  let holds ← question
  return (← shown holds) ++ (← behind)

/-- The answer decides what is shown, and nothing else is expanded in front of what follows. -/
theorem run_decided (question : Trace Bool) (shown : Bool → Expansion) (behind : Expansion) :
    (decided question shown behind).run = match (shown question.answer).run.answer with
      | .error error => ⟨.error error, question.asked ++ (shown question.answer).run.asked⟩
      | .ok first => ⟨behind.run.answer.map (first ++ ·),
          question.asked ++ ((shown question.answer).run.asked ++ behind.run.asked)⟩ := by
  have asks := ExceptT.run_bind_lift question
    fun holds => (do return (← shown holds) ++ (← behind) : Expansion)
  rw [decided]
  refine asks.trans ?_
  rcases outcome : (shown question.answer).run.answer with error | first
  · refine Trace.ext ?_ ?_
    · rw [Trace.answer_bind, run_bind_of_error outcome]
    · rw [Trace.asked_bind, run_bind_of_error outcome]
  · refine Trace.ext ?_ ?_
    · rw [Trace.answer_bind, run_bind_of_ok outcome, run_prepend]
    · rw [Trace.asked_bind, run_bind_of_ok outcome, run_prepend]

/-- To test the value of a tag is to ask for its condition. -/
theorem ask_condition (lookup : Lookup) (tag : String) (behind : Bool → Expansion) :
    (liftM (lookup.condition tag) >>= behind : Expansion) =
      liftM (lookup.value tag) >>= fun value => behind !value.isEmpty := by
  have same : lookup.condition tag = do return !(← lookup.value tag).isEmpty := by
    rw [Lookup.condition, Lookup.value, bind_assoc]
    refine Trace.ext ?_ ?_
    · rw [Trace.answer_bind, Trace.answer_bind]
      rcases (lookup.resolve? tag).answer with _ | value
      · rfl
      · rfl
    · rw [Trace.asked_bind, Trace.asked_bind]
      rcases (lookup.resolve? tag).answer with _ | value
      · rfl
      · rfl
  rw [same, liftM_bind, bind_assoc]
  simp only [liftM_pure, pure_bind]

variable (lookup : Lookup) (depth : Depth) (bound tag : List Char) (yes no rest : Template)

theorem expandAt_branch :
    expandAt lookup.value depth bound (.branch tag yes rest) =
      decided (lookup.condition (String.ofList tag))
        (fun holds => if holds then do expandAt lookup.value (← depth.descend) bound yes else pure [])
        (expandAt lookup.value depth bound rest) := by
  rw [expandAt, decided, ask_condition]
  congr 1
  funext value
  rcases value.isEmpty with _ | _
  · exact (bind_assoc ..).symm
  · rfl

theorem expandAt_branches :
    expandAt lookup.value depth bound (.branches tag yes no rest) =
      decided (lookup.condition (String.ofList tag))
        (fun holds => do
          expandAt lookup.value (← depth.descend) bound (if holds then yes else no))
        (expandAt lookup.value depth bound rest) := by
  rw [expandAt, decided, ask_condition]
  congr 1
  funext value
  rw [bind_assoc]
  rcases value.isEmpty with _ | _
  · rfl
  · rfl

end Deciding

/-- The law of `if`. Its condition is asked once and decides which branch is expanded, one level deeper
and with what encloses the construct; behind it the same text follows in either case. Where no `else`
is opened behind the first branch, nothing is shown if the condition fails. The branch that is not taken
asks nothing and aborts nothing: what is shown and what is asked depends on the other one alone. -/
theorem expandAt_if {name yes : List Char} (named : Tag.Hyphenated name) (yesPaired : Paired yes)
    (yesCloses : close? .structural (yes ++ ['}']) = some ⟨yes, []⟩) (rest : List Char) (mode : Mode)
    (lookup : Lookup) (depth : Depth) (bound : List Char) :
    let question := lookup.condition (String.ofList name)
    let expand (text : List Char) : Expansion :=
      expandAt lookup.value depth bound (parse mode false text)
    let inside (body : List Char) : Expansion := do
      expandAt lookup.value (← depth.descend) bound (parse .structural false body)
    (∀ no, Paired no → close? .structural (no ++ ['}']) = some ⟨no, []⟩ →
      expand (ifElse name yes no ++ rest) =
        decided question (fun holds => inside (if holds then yes else no)) (expand rest)) ∧
      (¬OpensElse rest → expand (ifThen name yes ++ rest) =
        decided question (fun holds => if holds then inside yes else pure []) (expand rest)) ∧
      ∀ shown : Bool → Expansion, (decided question shown (expand rest)).run =
        match (shown question.answer).run.answer with
        | .error error => ⟨.error error, question.asked ++ (shown question.answer).run.asked⟩
        | .ok first => ⟨(expand rest).run.answer.map (first ++ ·),
            question.asked ++ ((shown question.answer).run.asked ++ (expand rest).run.asked)⟩ := by
  intro question expand inside
  refine ⟨?_, ?_, fun shown => run_decided question shown (expand rest)⟩
  · intro no noPaired noCloses
    have read := parse_ifElse named mode rfl (close?_extend (by decide) yesPaired yesCloses _)
      (close?_extend (by decide) noPaired noCloses rest)
    have choice (holds : Bool) : inside (if holds then yes else no) =
        (do
          expandAt lookup.value (← depth.descend) bound
            (if holds then parse .structural false yes else parse .structural false no)) := by
      cases holds with
      | true => rfl
      | false => rfl
    rw [funext choice]
    exact (congrArg _ read).trans (expandAt_branches ..)
  · intro noElse
    have read := parse_ifThen named mode (close?_extend (by decide) yesPaired yesCloses rest) noElse
    exact (congrArg _ read).trans (expandAt_branch ..)

/-- The quoted parenthesis and brace of a branch close nothing, and an `else` that opens no branch is text. -/
theorem expandAt_if_path :
    let name := ['p', 'a', 't', 'h']
    let yes := ['"', '(', '$', ' ', ')', '}', '"']
    let rest := [' ', 'e', 'l', 's', 'e', '!']
    let expand (text : List Char) : Expansion :=
      expandAt solutionLookup.value (.limited 2 2) ['a'] (parse (.literal false) false text)
    Tag.Hyphenated name ∧ Paired yes ∧ close? .structural (yes ++ ['}']) = some ⟨yes, []⟩ ∧
      Paired [] ∧ close? .structural ([] ++ ['}']) = some ⟨[], []⟩ ∧ ¬OpensElse rest ∧
      (expand (ifElse name yes [] ++ rest)).run.answer = .ok "(a )\x7d else!".toList ∧
      (expand (ifThen name yes ++ rest)).run.answer = .ok "(a )\x7d else!".toList := by
  intro name yes rest expand
  have named : Tag.Hyphenated name := .word rfl (.word rfl (.word rfl (.last rfl)))
  have paired : Paired yes := by decide
  have closes : close? .structural (yes ++ ['}']) = some ⟨yes, []⟩ := by decide +kernel
  have nothing : close? .structural ([] ++ ['}']) = some ⟨[], []⟩ := by decide +kernel
  have noElse : ¬OpensElse rest := scanElse?_eq_none_iff.1 (by decide)
  obtain ⟨either, alone, -⟩ := expandAt_if named paired closes rest (.literal false) solutionLookup
    (.limited 2 2) ['a']
  have choice := either [] paired_nil nothing
  refine ⟨named, paired, closes, paired_nil, nothing, noElse, ?_, ?_⟩
  · exact (congrArg (fun expansion : Expansion => expansion.run.answer) choice).trans
      (by decide +kernel)
  · exact (congrArg (fun expansion : Expansion => expansion.run.answer) (alone noElse)).trans
      (by decide +kernel)

end TitleBar.Template
