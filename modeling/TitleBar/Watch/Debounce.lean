/-! # Bursts of changes

Changes come in bursts, and a burst is worth one report. A burst starts at a change that counts and
lasts while each further change, whether it counts or not, comes within the quiet period of the one
before. The report is made when the quiet period has passed.
-/

namespace TitleBar

/-- A debouncer: outside of a burst, or inside of one that ends at a given time unless another
change comes first. -/
structure Debouncer where
  /-- The quiet period. -/
  quiet : Nat
  ends? : Option Nat
deriving DecidableEq, Repr

/-- A change that reaches a debouncer. -/
structure Arrival where
  time : Nat
  /-- Whether the change may start a burst. -/
  counts : Bool
deriving DecidableEq, Repr

namespace Debouncer

/-- A debouncer outside of a burst. -/
def idle (quiet : Nat) : Debouncer := ⟨quiet, none⟩

def isDue (debouncer : Debouncer) (time : Nat) : Bool := debouncer.ends?.any (· ≤ time)

def report (debouncer : Debouncer) : Debouncer := { debouncer with ends? := none }

/-- Takes a change, after the report on a burst that has ended before. -/
def arrive (debouncer : Debouncer) (arrival : Arrival) : Debouncer :=
  let debouncer := if debouncer.isDue arrival.time then debouncer.report else debouncer
  if debouncer.ends?.isSome || arrival.counts then
    { debouncer with ends? := some (arrival.time + debouncer.quiet) }
  else debouncer

/-- The times of the reports on a list of changes, given in the order of their times. -/
def reports (debouncer : Debouncer) : List Arrival → List Nat
  | [] => debouncer.ends?.toList
  | arrival :: rest =>
    let earlier := if debouncer.isDue arrival.time then debouncer.ends?.toList else []
    earlier ++ (debouncer.arrive arrival).reports rest

end Debouncer

end TitleBar
