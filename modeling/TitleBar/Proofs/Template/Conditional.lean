import TitleBar.Proofs.Template.Extension
import TitleBar.Proofs.Template.Piece
import TitleBar.Proofs.Template.Token
import TitleBar.Template.Expand

/-! # Conditionals

What a conditional shows, in three forms: `?tag{body}` and `$tag?{body}` for a tag that has a value,
and `$tag!{body}` for one that has none. The tag is asked for first; the body is expanded only if it is
taken, and what follows the construct only if that was not aborted.
-/

namespace TitleBar.Template

section Expansion

/-- A construct that is taken: its tag is asked for, and then what it shows stands in front of what
follows. -/
def taken (question : Trace String) (shown behind : Expansion) : Expansion := do
  let _ ← question
  return (← shown) ++ (← behind)

/-- A construct that is not taken: its tag is asked for, and then only what follows is expanded. -/
def skipped (question : Trace String) (behind : Expansion) : Expansion := do
  let _ ← question
  behind

theorem ask_bind (question : Trace String) (behind : String → Expansion) :
    (liftM question >>= behind : Expansion) = liftM question >>= fun _ => behind question.answer :=
  rfl

theorem run_ask_bind (question : Trace String) (behind : String → Expansion) :
    (liftM question >>= behind : Expansion).run = question >>= fun value => (behind value).run :=
  ExceptT.run_bind_lift question behind

theorem run_skipped (question : Trace String) (behind : Expansion) :
    (skipped question behind).run = ⟨behind.run.answer, question.asked ++ behind.run.asked⟩ := by
  rw [skipped, run_ask_bind]
  rfl

theorem run_bind_of_ok {shown : Expansion} {first : List Char}
    (outcome : shown.run.answer = .ok first) (behind : List Char → Expansion) :
    (shown >>= behind).run =
      ⟨(behind first).run.answer, shown.run.asked ++ (behind first).run.asked⟩ := by
  rw [ExceptT.run_bind]
  refine Trace.ext ?_ ?_
  · rw [Trace.answer_bind, outcome]
  · rw [Trace.asked_bind, outcome]

theorem run_bind_of_error {shown : Expansion} {error : ExpandError}
    (outcome : shown.run.answer = .error error) (behind : List Char → Expansion) :
    (shown >>= behind).run = ⟨.error error, shown.run.asked⟩ := by
  rw [ExceptT.run_bind]
  refine Trace.ext ?_ ?_
  · rw [Trace.answer_bind, outcome]
    rfl
  · rw [Trace.asked_bind, outcome]
    exact List.append_nil _

theorem run_prepend (first : List Char) (behind : Expansion) :
    (do return first ++ (← behind) : Expansion).run =
      ⟨behind.run.answer.map (first ++ ·), behind.run.asked⟩ := by
  rcases outcome : behind.run.answer with error | rest
  · rw [run_bind_of_error outcome]
    rfl
  · rw [run_bind_of_ok outcome]
    exact Trace.ext rfl (List.append_nil _)

/-- What follows is not expanded if what is shown was aborted. -/
theorem run_taken (question : Trace String) (shown behind : Expansion) :
    (taken question shown behind).run = match shown.run.answer with
      | .error error => ⟨.error error, question.asked ++ shown.run.asked⟩
      | .ok first => ⟨behind.run.answer.map (first ++ ·),
          question.asked ++ (shown.run.asked ++ behind.run.asked)⟩ := by
  rw [taken, run_ask_bind]
  rcases outcome : shown.run.answer with error | first
  · rw [run_bind_of_error outcome]
    rfl
  · rw [run_bind_of_ok outcome, run_prepend]
    rfl

variable (ask : String → Trace String) (depth : Depth) (bound tag : List Char) (body rest : Template)

theorem expandAt_present :
    expandAt ask depth bound (.present tag body rest) =
      if (ask (String.ofList tag)).answer = "" then
        skipped (ask (String.ofList tag)) (expandAt ask depth bound rest)
      else taken (ask (String.ofList tag))
        (do expandAt ask (← depth.descend) (ask (String.ofList tag)).answer.toList body)
        (expandAt ask depth bound rest) := by
  rw [expandAt, ask_bind]
  by_cases empty : (ask (String.ofList tag)).answer = ""
  · simp only [empty, String.isEmpty_iff, if_true, pure_bind, List.nil_append, bind_pure]
    rfl
  · simp only [String.isEmpty_iff, if_neg empty, taken, bind_assoc]

theorem expandAt_absent :
    expandAt ask depth bound (.absent tag body rest) =
      if (ask (String.ofList tag)).answer = "" then
        taken (ask (String.ofList tag)) (do expandAt ask (← depth.descend) bound body)
          (expandAt ask depth bound rest)
      else skipped (ask (String.ofList tag)) (expandAt ask depth bound rest) := by
  rw [expandAt, ask_bind]
  by_cases empty : (ask (String.ofList tag)).answer = ""
  · simp only [empty, String.isEmpty_iff, if_true, taken, bind_assoc]
  · simp only [String.isEmpty_iff, if_neg empty, pure_bind, List.nil_append, bind_pure]
    rfl

end Expansion

/-- A text that opens a construct is read as that construct and what follows it. -/
theorem parse_of_opening {glued : Bool} {c : Char} {text after : List Char} {opening : Opening}
    (found : scanOpening? glued (c :: text) = some (opening, after)) (mode : Mode) :
    parse mode glued (c :: text) = (cutConstruct opening after).tree mode := by
  have head := scanOpening?_head found
  have noEscape : c ≠ '\\' := by rcases head with rfl | rfl | rfl <;> decide
  have noQuote : ¬(mode = .structural ∧ c = '"') := by rcases head with rfl | rfl | rfl <;> simp
  have noBlock : ¬(mode = .structural ∧ c = '{') := by rcases head with rfl | rfl | rfl <;> simp
  rw [parse_eq_piece?, piece?_of_opening noEscape noQuote noBlock, found]
  rfl

/-- A construct with a body that ends at its brace. -/
theorem parse_question_of_close? (token : Tag.Token) (mode : Mode) (glued : Bool)
    {body rest : List Char} (closes : close? .literal (body ++ '}' :: rest) = some ⟨body, rest⟩) :
    parse mode glued ('?' :: (token.text ++ '{' :: (body ++ '}' :: rest))) =
      .present token.text (parse (.literal false) false body) (parse mode false rest) := by
  have opened : scanOpening? glued ('?' :: (token.text ++ '{' :: (body ++ '}' :: rest))) =
      some (.present token.text, body ++ '}' :: rest) := scanQuestion?_token token _
  rw [parse_of_opening opened, cutConstruct, cutBody, closes]
  rfl

section Bodies

variable {body : List Char} (paired : Paired body)
  (closes : close? .literal (body ++ ['}']) = some ⟨body, []⟩)

include paired closes

/-- A body that is closed in itself is what a construct holds. -/
theorem cutBody_extend (opening : Opening) (piece : Closed → Piece) (rest : List Char) :
    cutBody opening piece (body ++ '}' :: rest) = ⟨piece ⟨body, rest⟩, false, rest⟩ := by
  rw [cutBody, close?_extend (by decide) paired closes]

theorem parse_question (token : Tag.Token) (mode : Mode) (glued : Bool) (rest : List Char) :
    parse mode glued ('?' :: (token.text ++ '{' :: (body ++ '}' :: rest))) =
      .present token.text (parse (.literal false) false body) (parse mode false rest) :=
  parse_question_of_close? token mode glued (close?_extend (by decide) paired closes rest)

theorem parse_dollar_present (token : Tag.Token) (mode : Mode) (glued : Bool) (rest : List Char) :
    parse mode glued ('$' :: (token.text ++ '?' :: '{' :: (body ++ '}' :: rest))) =
      .present token.text (parse (.literal false) false body) (parse mode false rest) := by
  have opened : scanOpening? glued ('$' :: (token.text ++ '?' :: '{' :: (body ++ '}' :: rest))) =
      some (.present token.text, body ++ '}' :: rest) :=
    congrArg some (scanDollar_token token (token.endsBefore_cons (by decide) _))
  rw [parse_of_opening opened, cutConstruct, cutBody_extend paired closes]
  rfl

theorem parse_dollar_absent (token : Tag.Token) (mode : Mode) (glued : Bool) (rest : List Char) :
    parse mode glued ('$' :: (token.text ++ '!' :: '{' :: (body ++ '}' :: rest))) =
      .absent token.text (parse (.literal false) false body) (parse mode false rest) := by
  have opened : scanOpening? glued ('$' :: (token.text ++ '!' :: '{' :: (body ++ '}' :: rest))) =
      some (.absent token.text, body ++ '}' :: rest) :=
    congrArg some (scanDollar_token token (token.endsBefore_cons (by decide) _))
  rw [parse_of_opening opened, cutConstruct, cutBody_extend paired closes]
  rfl

end Bodies

/-- A conditional asks for its tag. If that has a value, `?tag{body}` and `$tag?{body}` show the body,
which is expanded one level deeper and encloses the value; if it has none, `$tag!{body}` shows the body
with what encloses the construct. What follows is expanded in any case, unless the body was aborted. -/
theorem expandAt_conditional {body : List Char} (paired : Paired body)
    (closes : close? .literal (body ++ ['}']) = some ⟨body, []⟩) (token : Tag.Token)
    (rest : List Char) (mode : Mode) (glued : Bool) (ask : String → Trace String) (depth : Depth)
    (bound : List Char) :
    let question := ask (String.ofList token.text)
    let expand (text : List Char) : Expansion := expandAt ask depth bound (parse mode glued text)
    let inside (bound : List Char) : Expansion := do
      expandAt ask (← depth.descend) bound (parse (.literal false) false body)
    let behind : Expansion := expandAt ask depth bound (parse mode false rest)
    let present := if question.answer = "" then skipped question behind
      else taken question (inside question.answer.toList) behind
    let absent := if question.answer = "" then taken question (inside bound) behind
      else skipped question behind
    expand ('?' :: (token.text ++ '{' :: (body ++ '}' :: rest))) = present ∧
    expand ('$' :: (token.text ++ '?' :: '{' :: (body ++ '}' :: rest))) = present ∧
    expand ('$' :: (token.text ++ '!' :: '{' :: (body ++ '}' :: rest))) = absent ∧
    (skipped question behind).run = ⟨behind.run.answer, question.asked ++ behind.run.asked⟩ ∧
    ∀ shown : Expansion, (taken question shown behind).run = match shown.run.answer with
      | .error error => ⟨.error error, question.asked ++ shown.run.asked⟩
      | .ok first => ⟨behind.run.answer.map (first ++ ·),
          question.asked ++ (shown.run.asked ++ behind.run.asked)⟩ := by
  intro question expand inside behind present absent
  refine ⟨?_, ?_, ?_, run_skipped _ _, fun shown => run_taken _ shown _⟩
  · exact (congrArg _ (parse_question paired closes token mode glued rest)).trans
      (expandAt_present ..)
  · exact (congrArg _ (parse_dollar_present paired closes token mode glued rest)).trans
      (expandAt_present ..)
  · exact (congrArg _ (parse_dollar_absent paired closes token mode glued rest)).trans
      (expandAt_absent ..)

/-- The tag `path(1)`. -/
def pathToken : Tag.Token where
  name := ['p', 'a', 't', 'h']
  arguments := some ['1']
  hyphenated := .word rfl (.word rfl (.word rfl (.last rfl)))
  letter := ⟨'p', rfl, rfl⟩
  flat := by simp

/-- Braces and parentheses of a body are its own, whatever follows it. -/
theorem expandAt_path_conditional :
    let ask (tag : String) : Trace String := ⟨"src", [⟨"IDE", tag⟩]⟩
    let body := ['(', '$', ')', '{', '}']
    let inside : Expansion := do
      expandAt ask (← (Depth.limited 1 1).descend) "src".toList (parse (.literal false) false body)
    Paired body ∧ close? .literal (body ++ ['}']) = some ⟨body, []⟩ ∧
      expandAt ask (.limited 1 1) [] (parse (.literal false) false
          ('?' :: (pathToken.text ++ '{' :: (body ++ '}' :: [')', '}'])))) =
        taken (ask (String.ofList pathToken.text)) inside
          (expandAt ask (.limited 1 1) [] (parse (.literal false) false [')', '}'])) := by
  intro ask body inside
  have paired : Paired body := by decide
  have closes : close? .literal (body ++ ['}']) = some ⟨body, []⟩ := by decide +kernel
  exact ⟨paired, closes, (expandAt_conditional paired closes pathToken [')', '}'] (.literal false)
    false ask (.limited 1 1) []).1.trans (if_neg (by decide))⟩

end TitleBar.Template
