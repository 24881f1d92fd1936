/-! # Runs of a case mapping

Case mappings of Unicode are mostly regular: a run of code points, each or every second of which
moves by the same distance. A mapping is a list of such runs, and is the identity outside them.
-/

namespace TitleBar.Text

/-- The code points `first`, `first + stride`, … up to `last`; the first one maps to `image`, and
the others keep their distance from it. -/
structure CaseRun where
  first : Nat
  last : Nat
  stride : Nat
  image : Nat
deriving Repr, DecidableEq

namespace CaseRun

def covers (run : CaseRun) (code : Nat) : Bool :=
  run.first ≤ code && code ≤ run.last && (code - run.first) % run.stride == 0

/-- The image of a character under the mapping that the runs describe. -/
def map (runs : List CaseRun) (c : Char) : Char :=
  match runs.find? (·.covers c.toNat) with
  | some run => Char.ofNat (run.image + (c.toNat - run.first))
  | none => c

end CaseRun

end TitleBar.Text
