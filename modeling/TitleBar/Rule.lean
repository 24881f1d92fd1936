import TitleBar.Color
import TitleBar.Predicate

/-! # Rules

A rule sets parts of the title bar when all of its predicates hold; an info block is shown when all
of its own do. Rules come in sets, one for each place where rules are kept.
-/

namespace TitleBar

/-- An info block that a rule asks for. -/
structure BlockRule where
  predicates : List Predicate
  /-- The template of the text. -/
  text : Option String
  /-- The template of the tooltip. -/
  altText : Option String
  foreground : Option Color
  background : Option Color
deriving DecidableEq, Repr, Inhabited

/-- A rule. What it does not set is left to other rules. -/
structure Rule where
  predicates : List Predicate
  /-- The template of the caption. -/
  caption : Option String
  foreground : Option Color
  background : Option Color
  searchBox : Option Bool
  blocks : Option (List BlockRule)
deriving DecidableEq, Repr, Inhabited

/-- Where a set of rules is kept, from the lowest precedence to the highest. -/
inductive RuleOrigin where
  /-- Built in. -/
  | defaults
  /-- The file of the user. -/
  | user
  /-- The file beside the solution. -/
  | solution
deriving DecidableEq, Repr

/-- The rules that are kept in one place, in order; the earlier rule wins. -/
structure RuleSet where
  origin : RuleOrigin
  rules : List Rule
deriving DecidableEq, Repr

namespace RuleSet

def empty (origin : RuleOrigin) : RuleSet := ⟨origin, []⟩

/-- The caption that is used when no other rule sets one. -/
def defaultCaption : String :=
  "?solution\x7b$solution-name - \x7d$ide-name?ide-mode\x7b $\x7d"

def defaults : RuleSet := ⟨.defaults, [{
  predicates := []
  caption := some defaultCaption
  foreground := none
  background := none
  searchBox := none
  blocks := none }]⟩

end RuleSet

end TitleBar
