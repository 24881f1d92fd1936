import TitleBar.Decimal.Double

/-! # TOML values

The values of a TOML document. Entries of a table are kept in the order in which they first appear.
Tables and arrays remember how they were written, because that decides what later lines of the
document may add to them.
-/

namespace TitleBar

namespace Toml

inductive TableOrigin where
  /-- By a header of its own, or as the document itself. -/
  | header
  /-- By a longer header, whose path leads through it. -/
  | implied
  /-- By a dotted key. -/
  | dotted
  /-- Written between braces. -/
  | inline
deriving DecidableEq, Repr

end Toml

inductive Toml where
  | string (text : String)
  | integer (value : Int)
  | float (value : Decimal.Double)
  | boolean (value : Bool)
  /-- A date, a time, or both. -/
  | datetime
  /-- An array; one that consists of the tables of headers is growing. -/
  | array (growing : Bool) (items : List Toml)
  | table (origin : Toml.TableOrigin) (entries : List (String × Toml))
deriving Inhabited

namespace Toml

abbrev Entries := List (String × Toml)

/-- Whether no key stands twice in a table. -/
def Distinct (entries : Entries) : Prop := (entries.map Prod.fst).Nodup

end Toml

end TitleBar
