import TitleBar.Data
import TitleBar.Resolver.Lookup
import TitleBar.Rule
import TitleBar.Template.Expand

/-! # Computing the title bar

Rule sets are given from the lowest precedence to the highest and visited from the highest down;
within a set the rules are visited in order. Each part of the title bar is taken from the first
rule visited that sets it and whose predicates hold. The blocks are one part: they all come from
one rule.
-/

namespace TitleBar

/-- The rules in the order in which they are visited. -/
def visited (sets : List RuleSet) : List Rule := sets.reverse.flatMap (·.rules)

namespace Lookup

/-- The rules whose predicates hold, in the order in which they are visited. -/
def matched (lookup : Lookup) (sets : List RuleSet) : Trace (List Rule) :=
  Trace.filterOf (fun rule => lookup.satisfiesAll rule.predicates) (visited sets)

def expand (lookup : Lookup) (template : String) : Trace String :=
  Template.expand lookup.value template

def expandOption (lookup : Lookup) : Option String → Trace (Option String)
  | some template => do return some (← lookup.expand template)
  | none => pure none

/-- The block that a block rule shows; none when its text is empty. -/
def blockOf (lookup : Lookup) (block : BlockRule) : Trace (Option BlockData) := do
  let text ← lookup.expand (block.text.getD "")
  if text.isEmpty then return none
  let altText ← lookup.expandOption block.altText
  return some {
    text
    altText := altText.filter fun text => !text.isEmpty
    foreground := block.foreground
    background := block.background }

/-- The blocks that a list of block rules shows, in order. -/
def blocksOf (lookup : Lookup) : List BlockRule → Trace (List BlockData)
  | [] => pure []
  | block :: rest => do
    let shown ← if ← lookup.satisfiesAll block.predicates then lookup.blockOf block else pure none
    return shown.toList ++ (← blocksOf lookup rest)

def blocksOption (lookup : Lookup) : Option (List BlockRule) → Trace (Option (List BlockData))
  | some blocks => do return some (← lookup.blocksOf blocks)
  | none => pure none

/-- The title bar that rule sets lead to, given from the lowest precedence to the highest. -/
def titleBar (lookup : Lookup) (sets : List RuleSet) : Trace TitleBarData := do
  let rules ← lookup.matched sets
  let title ← lookup.expandOption (rules.findSome? (·.caption))
  let blocks ← lookup.blocksOption (rules.findSome? (·.blocks))
  return {
    title
    foreground := rules.findSome? (·.foreground)
    background := rules.findSome? (·.background)
    searchBox := rules.findSome? (·.searchBox)
    blocks }

end Lookup

end TitleBar
