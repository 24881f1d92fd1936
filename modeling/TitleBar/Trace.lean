/-! # Answers with a record of the questions

The value of a tag is asked of a resolver, and which resolver is asked for which tag, in which
order, is observable. A `Trace` is an answer together with the questions that were asked for it.
-/

namespace TitleBar

/-- A question put to a resolver. -/
structure Query where
  resolver : String
  tag : String
deriving DecidableEq, Repr

/-- An answer and the questions asked for it, in order. -/
structure Trace (α : Type) where
  answer : α
  asked : List Query
deriving Repr

namespace Trace

instance : Monad Trace where
  pure a := ⟨a, []⟩
  bind x f := ⟨(f x.answer).answer, x.asked ++ (f x.answer).asked⟩

variable {α β : Type}

@[simp] theorem answer_pure (a : α) : (pure a : Trace α).answer = a := rfl

@[simp] theorem asked_pure (a : α) : (pure a : Trace α).asked = [] := rfl

@[simp] theorem answer_bind (x : Trace α) (f : α → Trace β) :
    (x >>= f).answer = (f x.answer).answer := rfl

@[simp] theorem asked_bind (x : Trace α) (f : α → Trace β) :
    (x >>= f).asked = x.asked ++ (f x.answer).asked := rfl

theorem ext {x y : Trace α} (answers : x.answer = y.answer) (questions : x.asked = y.asked) :
    x = y := by
  cases x; cases y; simp_all

instance : LawfulMonad Trace := LawfulMonad.mk' Trace
  (fun x => Trace.ext rfl (List.append_nil x.asked))
  (fun _ _ => Trace.ext rfl rfl)
  (fun _ _ _ => Trace.ext rfl (List.append_assoc ..))

/-- Whether some element satisfies a test; later elements are not tested once one does. -/
def anyOf (test : α → Trace Bool) : List α → Trace Bool
  | [] => pure false
  | a :: rest => do
    if ← test a then pure true else anyOf test rest

/-- Whether all elements satisfy a test; later elements are not tested once one fails. -/
def allOf (test : α → Trace Bool) : List α → Trace Bool
  | [] => pure true
  | a :: rest => do
    if ← test a then allOf test rest else pure false

/-- The elements that satisfy a test, in order. -/
def filterOf (test : α → Trace Bool) : List α → Trace (List α)
  | [] => pure []
  | a :: rest => do
    if ← test a then
      let kept ← filterOf test rest
      pure (a :: kept)
    else filterOf test rest

end Trace

end TitleBar
