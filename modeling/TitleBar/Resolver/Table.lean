import TitleBar.Resolver

/-! # Fixed tables of values

A resolver whose values are fixed beforehand. A value belongs to the whole text of a tag, so a call
has one value for each way of writing its arguments.
-/

namespace TitleBar

structure Table where
  name : String
  tags : List String
  values : List (String × String)
  available : Bool
  /-- Tags that are never worth substituting. -/
  withheld : List String
deriving Repr, Inhabited

namespace Table

def resolver (table : Table) : Resolver :=
  let gate := fun (_ : Situation) (tag : String) => !table.withheld.contains tag
  let value := fun (_ : Situation) (tag : String) => (table.values.lookup tag).getD ""
  { name := table.name
    tags := table.tags
    available := table.available
    settled := true
    gate
    value
    verdict := Resolver.gatedVerdict table.name gate value }

end Table

end TitleBar
