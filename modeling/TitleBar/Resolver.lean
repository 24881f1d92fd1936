import TitleBar.DebugMode
import TitleBar.Predicate
import TitleBar.Solution
import TitleBar.Trace

/-! # Resolvers

A resolver owns a list of tags and gives their values. It answers from what it has cached, so a
resolver is a value here: what it owns, whether it can answer at all, and how it answers in the
situation of a query. Only a resolver that is available is asked, and only for tags whose
identifier it owns.
-/

namespace TitleBar

/-- What every query may depend on: the debugger state and the open solution. -/
structure Situation where
  mode : DebugMode
  solution : Option Solution
deriving DecidableEq, Repr, Inhabited

/-- A source of tag values, at one moment. -/
structure Resolver where
  name : String
  /-- The identifiers that the resolver owns. -/
  tags : List String
  /-- Whether the resolver has enough context to answer. -/
  available : Bool
  /-- Whether no discovery or read is outstanding. -/
  settled : Bool
  /-- Whether a tag is worth substituting, beyond availability. -/
  gate : Situation → String → Bool
  /-- The value of a tag. -/
  value : Situation → String → String
  /-- Whether a tag matches a pattern, by the rule of the resolver. -/
  verdict : Situation → String → Glob → Trace Bool

namespace Resolver

/-- The verdict of a resolver without a rule of its own: the value of the tag has to match, and is
asked for only if the gate lets it through. -/
def gatedVerdict (name : String) (gate : Situation → String → Bool)
    (value : Situation → String → String) (situation : Situation) (tag : String) (glob : Glob) :
    Trace Bool :=
  if gate situation tag then ⟨glob.isMatch (value situation tag), [⟨name, tag⟩]⟩ else pure false

/-- Whether the resolver owns the identifier that a tag starts with. -/
def applicable (resolver : Resolver) (tag : String) : Bool :=
  match Tag.base? tag with
  | some name => resolver.tags.contains name
  | none => false

theorem applicable_iff {resolver : Resolver} {tag name : String} (base : Tag.base? tag = some name) :
    resolver.applicable tag ↔ name ∈ resolver.tags := by
  rw [applicable, base]
  exact List.contains_iff_mem

/-- Whether the resolver has a value for a tag. -/
def resolvable (resolver : Resolver) (situation : Situation) (tag : String) : Bool :=
  resolver.applicable tag && resolver.available && resolver.gate situation tag

def ask (resolver : Resolver) (situation : Situation) (tag : String) : Trace String :=
  ⟨resolver.value situation tag, [⟨resolver.name, tag⟩]⟩

/-- The value of a tag; empty when the resolver does not own it or cannot answer. -/
def resolve (resolver : Resolver) (situation : Situation) (tag : String) : Trace String :=
  if resolver.applicable tag && resolver.available then resolver.ask situation tag else pure ""

/-- Whether a tag satisfies a predicate with the given pattern. -/
def satisfies (resolver : Resolver) (situation : Situation) (tag : String) (glob : Glob) :
    Trace Bool :=
  if resolver.applicable tag && resolver.available then
    resolver.verdict situation tag glob
  else pure false

end Resolver

end TitleBar
