import TitleBar.Template.Syntax
import TitleBar.Trace

/-! # Expanding templates

Expansion evaluates the syntax tree of a template against a source of tag values. Values are
inserted as they are and never read as templates. Bodies and branches that are not taken are not
evaluated, so they ask for nothing.

A body that is taken, a quoted run and a block lie one level deeper than the text around them.
Expansion is aborted where it would enter a text deeper than its limit.
-/

namespace TitleBar.Template

/-- The deepest level that expansion enters. -/
def maxDepth : Nat := 32

/-- Why an expansion was aborted. -/
inductive ExpandError where
  /-- A text deeper than `limit` would have been entered. -/
  | tooDeep (limit : Nat)
deriving DecidableEq, Repr

def ExpandError.message : ExpandError → String
  | .tooDeep limit =>
    "Maximum nesting depth (" ++ toString limit ++ ") exceeded while expanding template."

/-- An expansion: its outcome, and the questions asked on the way to it. -/
abbrev Expansion := ExceptT ExpandError Trace (List Char)

/-- How deep an expansion may still go. -/
inductive Depth where
  /-- Without end. -/
  | unlimited
  /-- By `left` more levels of the `limit` ones allowed. -/
  | limited (limit left : Nat)
deriving DecidableEq, Repr

/-- Enters a text one level deeper. -/
def Depth.descend : Depth → Except ExpandError Depth
  | .unlimited => .ok .unlimited
  | .limited limit 0 => .error (.tooDeep limit)
  | .limited limit (left + 1) => .ok (.limited limit left)

/-- Evaluates a template. `ask` gives the value of a tag, empty if it has none, and `bound` is the
value of the enclosing conditional. -/
def expandAt (ask : String → Trace String) (depth : Depth) (bound : List Char) :
    Template → Expansion
  | .done => pure []
  | .text c rest => return c :: (← expandAt ask depth bound rest)
  | .enclosing rest => return bound ++ (← expandAt ask depth bound rest)
  | .value tag rest => do
    let value ← ask (String.ofList tag)
    return value.toList ++ (← expandAt ask depth bound rest)
  | .joined tags rest => do
    let values ← tags.mapM fun tag => ask (String.ofList tag)
    let held := (values.map String.toList).filter (!·.isEmpty)
    return Text.join [' '] held ++ (← expandAt ask depth bound rest)
  | .present tag body rest => do
    let value ← ask (String.ofList tag)
    let shown ← if value.isEmpty then pure [] else do
      expandAt ask (← depth.descend) value.toList body
    return shown ++ (← expandAt ask depth bound rest)
  | .absent tag body rest => do
    let value ← ask (String.ofList tag)
    let shown ← if value.isEmpty then do expandAt ask (← depth.descend) bound body else pure []
    return shown ++ (← expandAt ask depth bound rest)
  | .branch tag yes rest => do
    let value ← ask (String.ofList tag)
    let shown ← if value.isEmpty then pure [] else do expandAt ask (← depth.descend) bound yes
    return shown ++ (← expandAt ask depth bound rest)
  | .branches tag yes no rest => do
    let value ← ask (String.ofList tag)
    let deeper ← depth.descend
    let shown ← if value.isEmpty then expandAt ask deeper bound no
      else expandAt ask deeper bound yes
    return shown ++ (← expandAt ask depth bound rest)
  | .nested body rest => do
    let shown ← expandAt ask (← depth.descend) bound body
    return shown ++ (← expandAt ask depth bound rest)

/-- Expands a template, or tells why that was aborted. -/
def expand? (ask : String → Trace String) (template : String) :
    Trace (Except ExpandError String) := do
  let result ← (expandAt ask (.limited maxDepth maxDepth) [] (ofString template)).run
  return result.map String.ofList

/-- Expands a template; the result is empty if that is aborted. -/
def expand (ask : String → Trace String) (template : String) : Trace String := do
  match ← expand? ask template with
  | .ok shown => return shown
  | .error _ => return ""

end TitleBar.Template
