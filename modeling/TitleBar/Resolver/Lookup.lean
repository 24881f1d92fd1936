import TitleBar.Resolver.Registry
import TitleBar.Text.Quoted

/-! # Looking up tags

Queries against all resolvers of a registry in one situation. The first resolver that has a value
for a tag answers for it; since no tag has two owners, there is at most one.
-/

namespace TitleBar

/-- A registry in the situation of a query. -/
structure Lookup where
  registry : Registry
  situation : Situation

namespace Lookup

/-- The resolvers in query order. -/
def resolvers (lookup : Lookup) : List Resolver := lookup.registry.resolvers

def owner? (lookup : Lookup) (tag : String) : Option Resolver :=
  lookup.resolvers.find? (·.applicable tag)

/-- The value of a tag, if some resolver has one. -/
def resolve? (lookup : Lookup) (tag : String) : Trace (Option String) :=
  match lookup.resolvers.find? (·.resolvable lookup.situation tag) with
  | some resolver => do return some (← resolver.resolve lookup.situation tag)
  | none => pure none

/-- The value of a tag, or else the empty text. -/
def value (lookup : Lookup) (tag : String) : Trace String := do
  return (← lookup.resolve? tag).getD ""

/-- Whether a tag has a value that is not empty. -/
def condition (lookup : Lookup) (tag : String) : Trace Bool := do
  match ← lookup.resolve? tag with
  | some value => return !value.isEmpty
  | none => return false

def satisfies (lookup : Lookup) (predicate : Predicate) : Trace Bool :=
  Trace.anyOf (fun resolver => resolver.satisfies lookup.situation predicate.tag predicate.glob)
    lookup.resolvers

/-- Whether all predicates of a list are satisfied. -/
def satisfiesAll (lookup : Lookup) (predicates : List Predicate) : Trace Bool :=
  Trace.allOf lookup.satisfies predicates

/-- A line of the listing of all tags. -/
structure Row where
  tag : String
  owner : String
  /-- The value, unless the tag has none at the moment. -/
  value? : Option String
deriving DecidableEq, Repr

def row (lookup : Lookup) (resolver : Resolver) (tag : String) : Trace Row :=
  if resolver.resolvable lookup.situation tag then do
    return ⟨tag, resolver.name, some (← resolver.resolve lookup.situation tag)⟩
  else pure ⟨tag, resolver.name, none⟩

/-- The rows of all tags, in query order. -/
def rows (lookup : Lookup) : Trace (List Row) := do
  let groups ← lookup.resolvers.mapM fun resolver => resolver.tags.mapM (lookup.row resolver)
  return groups.flatten

def quotedList (texts : List String) : String :=
  "[" ++ String.intercalate ", " (texts.map Text.quoted) ++ "]"

/-- The situation and the resolvers in a debug listing. -/
def describe (lookup : Lookup) : String :=
  let solution := match lookup.situation.solution with
    | some solution => "Some(" ++ Text.quoted solution.name ++ ")"
    | none => "None"
  "VsState \x7b resolvers: " ++ quotedList lookup.registry.names ++ ", mode: " ++
    lookup.situation.mode.capitalName ++ ", solution: " ++ solution ++ " \x7d"

end Lookup

end TitleBar
