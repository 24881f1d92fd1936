import TitleBar.Watch.Watcher
import Mathlib.Data.List.Chain
import Mathlib.Data.List.Pairwise
import Mathlib.Tactic.Common

/-! # One report for each burst

The changes that reach a debouncer fall into bursts and single changes that do not count. A burst starts
at a change that counts, and lasts while each further change comes within the quiet period of the one
before. Every burst is reported once, when that period has passed after its last change, and nothing else
is: so no change that counts is lost, and no report is made without one. A debouncer that was dropped
reports nothing.
-/

namespace TitleBar

namespace Debouncer

/-- What is done to a debouncer. -/
inductive Input where
  | change (arrival : Arrival)
  /-- The debouncer is dropped. -/
  | drop (time : ℕ)
deriving DecidableEq, Repr

/-- What happens to a debouncer. -/
inductive Entry where
  | taken (input : Input)
  | report (time : ℕ)
deriving DecidableEq, Repr

/-- The time of a report. -/
def Entry.report? : Entry → Option ℕ
  | .taken _ => none
  | .report time => some time

/-- The report that is due at a time, if one is. -/
def due (debouncer : Debouncer) (time : ℕ) : List Entry :=
  if debouncer.isDue time then debouncer.ends?.toList.map .report else []

/-- When something is done to a debouncer. -/
def Input.time : Input → ℕ
  | .change arrival => arrival.time
  | .drop time => time

/-- What is left of a debouncer. -/
def step (debouncer : Debouncer) : Input → Option Debouncer
  | .change arrival => some (debouncer.arrive arrival)
  | .drop _ => none

/-- What happens to a debouncer, in order. One that was dropped is not there any more. -/
def history : Option Debouncer → List Input → List Entry
  | none, inputs => inputs.map .taken
  | some debouncer, [] => debouncer.ends?.toList.map .report
  | some debouncer, input :: rest =>
    debouncer.due input.time ++ .taken input :: history (debouncer.step input) rest

/-- The history of a debouncer that is not dropped. -/
def historyOf (debouncer : Debouncer) (arrivals : List Arrival) : List Entry :=
  history (some debouncer) (arrivals.map .change)

variable {debouncer : Debouncer} {quiet : ℕ} {arrival : Arrival} {arrivals rest : List Arrival}

theorem historyOf_cons (debouncer : Debouncer) (arrival : Arrival) (rest : List Arrival) :
    debouncer.historyOf (arrival :: rest) = debouncer.due arrival.time ++
      .taken (.change arrival) :: (debouncer.arrive arrival).historyOf rest :=
  rfl

/-- The reports of a history are those of the debouncer. -/
theorem filterMap_historyOf (debouncer : Debouncer) (arrivals : List Arrival) :
    (debouncer.historyOf arrivals).filterMap Entry.report? = debouncer.reports arrivals := by
  have reported (ends : Option ℕ) : (ends.toList.map Entry.report).filterMap Entry.report? =
      ends.toList := by cases ends <;> rfl
  induction arrivals generalizing debouncer with
  | nil => exact reported debouncer.ends?
  | cons arrival rest ih =>
    rw [historyOf_cons, List.filterMap_append, List.filterMap_cons_none rfl, ih, reports, due]
    split
    · rw [reported]
    · rfl

/-- Whether an entry is not a report that would be made after a time. -/
def Entry.isBy (time : ℕ) : Entry → Bool
  | .taken _ => true
  | .report made => made ≤ time

/-- A drop takes away the reports that would be made later, and none is made behind it. -/
theorem history_drop (debouncer : Debouncer) {time : ℕ}
    (earlier : ∀ arrival ∈ arrivals, arrival.time ≤ time) (latter : List Input) :
    history (some debouncer) (arrivals.map .change ++ .drop time :: latter) =
      (debouncer.historyOf arrivals).filter (Entry.isBy time) ++
        .taken (.drop time) :: latter.map .taken := by
  induction arrivals generalizing debouncer with
  | nil =>
    have due : debouncer.due time = (debouncer.ends?.toList.map Entry.report).filter (Entry.isBy time) := by
      rw [Debouncer.due, isDue]
      rcases debouncer.ends? with _ | ends
      · rfl
      · by_cases passed : ends ≤ time <;> simp [Entry.isBy, passed]
    rw [List.map_nil, List.nil_append, history, step, history, Input.time, due]
    rfl
  | cons arrival rest ih =>
    rw [List.forall_mem_cons] at earlier
    have kept : (debouncer.due arrival.time).filter (Entry.isBy time) = debouncer.due arrival.time := by
      rw [Debouncer.due, isDue]
      rcases debouncer.ends? with _ | ends
      · rfl
      · by_cases passed : ends ≤ arrival.time
        · simp [Entry.isBy, passed, passed.trans earlier.1]
        · simp [passed]
    rw [historyOf_cons, List.filter_append, kept, List.filter_cons_of_pos rfl, List.append_assoc,
      List.cons_append, ← ih _ earlier.2]
    rfl

/-! ## Bursts -/

/-- A change and what comes behind it, each within the quiet period of the one before. -/
structure Burst (quiet : ℕ) (first : Arrival) (more : List Arrival) : Prop where
  counts : first.counts
  close : (first :: more).IsChain fun before next => next.time < before.time + quiet

/-- When the quiet period behind some changes has passed. -/
def settled (quiet : ℕ) (first : Arrival) (more : List Arrival) : ℕ :=
  ((first :: more).getLast (List.cons_ne_nil first more)).time + quiet

/-- Changes beside a history in which each of their bursts is reported once. -/
inductive Reported (quiet : ℕ) : List Arrival → List Entry → Prop
  | nil : Reported quiet [] []
  /-- A change outside of a burst that does not count. -/
  | idle {arrival : Arrival} {rest : List Arrival} {history : List Entry}
    (uncounted : arrival.counts = false) (later : Reported quiet rest history) :
    Reported quiet (arrival :: rest) (.taken (.change arrival) :: history)
  /-- A burst, which the next change comes too late for. -/
  | burst {first : Arrival} {more rest : List Arrival} {history : List Entry}
    (burst : Burst quiet first more) (ended : ∀ next ∈ rest.head?, settled quiet first more ≤ next.time)
    (later : Reported quiet rest history) :
    Reported quiet (first :: more ++ rest)
      ((first :: more).map (.taken ∘ .change) ++ .report (settled quiet first more) :: history)

/-- A debouncer in a burst. -/
def inBurst (quiet ends : ℕ) : Debouncer := ⟨quiet, some ends⟩

theorem historyOf_idle_of_counts (counts : arrival.counts) :
    (idle quiet).historyOf (arrival :: rest) =
      .taken (.change arrival) :: (inBurst quiet (arrival.time + quiet)).historyOf rest := by
  rw [historyOf_cons, arrive]
  simp [due, isDue, idle, counts, inBurst]

theorem historyOf_idle_of_not_counts (counts : arrival.counts = false) :
    (idle quiet).historyOf (arrival :: rest) =
      .taken (.change arrival) :: (idle quiet).historyOf rest := by
  rw [historyOf_cons, arrive]
  simp [due, isDue, idle, counts]

theorem historyOf_inBurst_of_early {ends : ℕ} (early : arrival.time < ends) :
    (inBurst quiet ends).historyOf (arrival :: rest) =
      .taken (.change arrival) :: (inBurst quiet (arrival.time + quiet)).historyOf rest := by
  have notDue : ¬ends ≤ arrival.time := Nat.not_le.2 early
  rw [historyOf_cons, arrive]
  simp [due, isDue, inBurst, notDue]

/-- A change that comes too late for a burst finds the debouncer after its report. -/
theorem historyOf_inBurst_of_late {ends : ℕ} (late : ∀ next ∈ rest.head?, ends ≤ next.time) :
    (inBurst quiet ends).historyOf rest = .report ends :: (idle quiet).historyOf rest := by
  cases rest with
  | nil => rfl
  | cons next rest =>
    have due : (inBurst quiet ends).isDue next.time := decide_eq_true (late next rfl)
    have same : (inBurst quiet ends).arrive next = (idle quiet).arrive next := by
      rw [arrive, arrive, if_pos due]
      rfl
    rw [historyOf_cons, historyOf_cons, same, Debouncer.due, if_pos due]
    rfl

/-- A burst goes on up to its last change, and then its report is made. -/
theorem historyOf_inBurst {first : Arrival} {more : List Arrival}
    (close : (first :: more).IsChain fun before next => next.time < before.time + quiet)
    (ended : ∀ next ∈ rest.head?, settled quiet first more ≤ next.time) :
    (inBurst quiet (first.time + quiet)).historyOf (more ++ rest) =
      more.map (.taken ∘ .change) ++
        .report (settled quiet first more) :: (idle quiet).historyOf rest := by
  induction more generalizing first with
  | nil => exact historyOf_inBurst_of_late ended
  | cons second more ih =>
    obtain ⟨early, close⟩ := List.isChain_cons_cons.1 close
    have same : settled quiet first (second :: more) = settled quiet second more := by
      rw [settled, settled, List.getLast_cons]
    rw [same] at ended ⊢
    rw [List.cons_append, historyOf_inBurst_of_early early, ih close ended]
    rfl

/-- There is one history in which each burst is reported once. -/
theorem Reported.eq_historyOf {history : List Entry} (reported : Reported quiet arrivals history) :
    history = (Debouncer.idle quiet).historyOf arrivals := by
  induction reported with
  | nil => rfl
  | idle uncounted _ ih => rw [historyOf_idle_of_not_counts uncounted, ih]
  | @burst first more rest history burst ended _ ih =>
    rw [List.cons_append, historyOf_idle_of_counts burst.counts, historyOf_inBurst burst.close ended, ih]
    rfl

/-- Changes can be cut behind the first one that comes too late for a burst. -/
theorem exists_burst (quiet : ℕ) (first : Arrival) (later : List Arrival) :
    ∃ more rest, later = more ++ rest ∧
      ((first :: more).IsChain fun before next => next.time < before.time + quiet) ∧
      ∀ next ∈ rest.head?, settled quiet first more ≤ next.time := by
  induction later generalizing first with
  | nil => exact ⟨[], [], rfl, List.isChain_singleton _, by simp⟩
  | cons second later ih =>
    by_cases early : second.time < first.time + quiet
    · obtain ⟨more, rest, rfl, close, ended⟩ := ih second
      refine ⟨second :: more, rest, rfl, List.isChain_cons_cons.2 ⟨early, close⟩, ?_⟩
      rwa [settled, List.getLast_cons]
    · refine ⟨[], second :: later, rfl, List.isChain_singleton _, fun next member => ?_⟩
      obtain rfl : second = next := by simpa using member
      exact Nat.not_lt.1 early

theorem exists_reported (quiet : ℕ) (arrivals : List Arrival) :
    ∃ history, Reported quiet arrivals history := by
  -- A burst is cut off as a whole, so the induction is on the number of changes that are left.
  induction length : arrivals.length using Nat.strongRecOn generalizing arrivals with
  | _ _ ih =>
    subst length
    rcases arrivals with _ | ⟨first, later⟩
    · exact ⟨[], .nil⟩
    · rcases counts : first.counts with _ | _
      · obtain ⟨history, reported⟩ := ih later.length (by simp) later rfl
        exact ⟨_, .idle counts reported⟩
      · obtain ⟨more, rest, rfl, close, ended⟩ := exists_burst quiet first later
        have shorter : rest.length < (first :: (more ++ rest)).length := by
          rw [List.length_cons, List.length_append]
          omega
        obtain ⟨history, reported⟩ := ih rest.length shorter rest rfl
        exact ⟨_, .burst ⟨counts, close⟩ ended reported⟩

/-- The history of a debouncer is the one in which each burst is reported once. -/
theorem reported_iff {history : List Entry} :
    Reported quiet arrivals history ↔ history = (idle quiet).historyOf arrivals := by
  constructor
  · exact Reported.eq_historyOf
  · rintro rfl
    obtain ⟨history, reported⟩ := exists_reported quiet arrivals
    exact reported.eq_historyOf ▸ reported

theorem le_settled {first : Arrival} {more : List Arrival}
    (ordered : (first :: more).Pairwise (·.time ≤ ·.time)) (member : arrival ∈ first :: more) :
    arrival.time + quiet ≤ settled quiet first more :=
  Nat.add_le_add_right (ordered.rel_getLast_of_rel_getLast_getLast member le_rfl) quiet

theorem mem_of_map_eq_append {burst : List Arrival} {before after : List Entry}
    (same : burst.map (Entry.taken ∘ Input.change) = before ++ .taken (.change arrival) :: after) :
    arrival ∈ burst := by
  have member : Entry.taken (.change arrival) ∈ burst.map (Entry.taken ∘ Input.change) := by
    rw [same]
    exact List.mem_append_cons_self
  simpa using member

namespace Reported

variable {history before after : List Entry} {time : ℕ}

/-- A change that counts is reported behind it, not before a quiet period has passed. -/
theorem report_of_counts (reported : Reported quiet arrivals history)
    (ordered : arrivals.Pairwise (·.time ≤ ·.time)) (counts : arrival.counts)
    (happens : history = before ++ .taken (.change arrival) :: after) :
    ∃ time, .report time ∈ after ∧ arrival.time + quiet ≤ time := by
  induction reported generalizing before with
  | nil => simp at happens
  | @idle other rest history uncounted _ ih =>
    rcases before with _ | ⟨entry, before⟩
    · obtain ⟨same, -⟩ := List.cons.inj happens
      obtain rfl : other = arrival := by simpa using same
      rw [uncounted] at counts
      contradiction
    · exact ih ordered.of_cons (List.cons.inj happens).2
  | @burst first more rest history burst ended _ ih =>
    obtain ⟨inside, behind, -⟩ := List.pairwise_append.1 ordered
    rcases List.append_eq_append_iff.1 happens with ⟨tail, -, latter⟩ | ⟨tail, former, latter⟩
    · rcases tail with _ | ⟨entry, tail⟩
      · simp at latter
      · exact ih behind (List.cons.inj latter).2
    · rcases tail with _ | ⟨entry, tail⟩
      · simp at latter
      · obtain ⟨rfl, rfl⟩ := List.cons.inj latter
        exact ⟨_, by simp, le_settled inside (mem_of_map_eq_append former)⟩

/-- In front of a report stands a change that counts, and no other report behind that. -/
theorem counts_of_report (reported : Reported quiet arrivals history)
    (ordered : arrivals.Pairwise (·.time ≤ ·.time))
    (happens : history = before ++ .report time :: after) :
    ∃ former arrival between, before = former ++ .taken (.change arrival) :: between ∧
      arrival.counts ∧ arrival.time + quiet ≤ time ∧ ∀ other, .report other ∉ between := by
  induction reported generalizing before with
  | nil => simp at happens
  | @idle other rest history uncounted _ ih =>
    rcases before with _ | ⟨entry, before⟩
    · simp at happens
    · obtain ⟨former, arrival, between, rfl, found⟩ := ih ordered.of_cons (List.cons.inj happens).2
      exact ⟨entry :: former, arrival, between, rfl, found⟩
  | @burst first more rest history burst ended _ ih =>
    obtain ⟨inside, behind, -⟩ := List.pairwise_append.1 ordered
    rcases List.append_eq_append_iff.1 happens with ⟨tail, rfl, latter⟩ | ⟨tail, former, latter⟩
    · rcases tail with _ | ⟨entry, tail⟩
      · obtain ⟨same, -⟩ := List.cons.inj latter
        obtain rfl : settled quiet first more = time := by simpa using same
        refine ⟨[], first, more.map (.taken ∘ .change), by simp, burst.counts,
          le_settled inside List.mem_cons_self, ?_⟩
        simp
      · obtain ⟨former, arrival, between, rfl, found⟩ := ih behind (List.cons.inj latter).2
        exact ⟨(first :: more).map (.taken ∘ .change) ++ entry :: former, arrival, between, by simp, found⟩
    · rcases tail with _ | ⟨entry, tail⟩
      · obtain ⟨same, -⟩ := List.cons.inj latter
        obtain rfl : time = settled quiet first more := by simpa using same
        refine ⟨[], first, more.map (.taken ∘ .change), ?_, burst.counts,
          le_settled inside List.mem_cons_self, by simp⟩
        simpa using former.symm
      · obtain ⟨rfl, -⟩ := List.cons.inj latter
        have member : Entry.report time ∈ (first :: more).map (Entry.taken ∘ Input.change) := by
          rw [former]
          exact List.mem_append_cons_self
        simp at member

end Reported

end Debouncer

/-! ## Watchers -/

/-- A file event that is delivered to a watcher. -/
structure Delivery where
  time : ℕ
  event : FileEvent
deriving DecidableEq, Repr

/-- Whether an event counts for a watcher whose filter accepts some paths: one that changes something, and
that may be about a path which is accepted. -/
def FileEvent.counts (accepts : Path → Bool) (event : FileEvent) : Bool :=
  !event.access && (event.paths.isEmpty || event.paths.any accepts)

theorem FileEvent.counts_iff {accepts : Path → Bool} {event : FileEvent} :
    event.counts accepts ↔
      event.access = false ∧ (event.paths = [] ∨ ∃ path ∈ event.paths, accepts path) := by
  simp [counts]

/-- What the debouncer of a watcher takes of an event. -/
def Delivery.arrival (accepts : Path → Bool) (delivery : Delivery) : Arrival :=
  ⟨delivery.time, delivery.event.counts accepts⟩

open Debouncer

/-- The history of a watcher that is not dropped. -/
def Watcher.historyOf (watcher : Watcher) : List Delivery → List Entry
  | [] => watcher.debouncer.ends?.toList.map .report
  | delivery :: rest =>
    watcher.debouncer.due delivery.time ++
      .taken (.change (delivery.arrival watcher.scope.filter.accepts)) ::
        (watcher.take delivery.time delivery.event).historyOf rest

/-- The history of a watcher is that of its debouncer. -/
theorem Watcher.historyOf_eq (watcher : Watcher) (deliveries : List Delivery) :
    watcher.historyOf deliveries =
      watcher.debouncer.historyOf (deliveries.map (Delivery.arrival watcher.scope.filter.accepts)) := by
  induction deliveries generalizing watcher with
  | nil => rfl
  | cons delivery rest ih =>
    rw [historyOf, ih, List.map_cons, historyOf_cons]
    rfl

/-- A watcher reports once for each burst of events, when a quiet period has passed since the last event of
the burst. So each event that counts is reported behind it, not before a quiet period has passed, and in
front of each report stands an event that counts, with no other report behind it. A drop takes away the
reports that would come later. -/
theorem history_bursts (accepts : Path → Bool) (quiet : ℕ) {deliveries : List Delivery}
    (ordered : deliveries.Pairwise (·.time ≤ ·.time)) :
    let arrivals := deliveries.map (Delivery.arrival accepts)
    let history := (Debouncer.idle quiet).historyOf arrivals
    (∀ event : FileEvent, event.counts accepts ↔
        event.access = false ∧ (event.paths = [] ∨ ∃ path ∈ event.paths, accepts path)) ∧
      (∀ other, Reported quiet arrivals other ↔ other = history) ∧
      (∀ before arrival after, history = before ++ .taken (.change arrival) :: after → arrival.counts →
        ∃ time, .report time ∈ after ∧ arrival.time + quiet ≤ time) ∧
      (∀ before time after, history = before ++ .report time :: after →
        ∃ former arrival between, before = former ++ .taken (.change arrival) :: between ∧
          arrival.counts ∧ arrival.time + quiet ≤ time ∧ ∀ other, .report other ∉ between) ∧
      (∀ time, (∀ delivery ∈ deliveries, delivery.time ≤ time) → ∀ latter,
        Debouncer.history (some (Debouncer.idle quiet)) (arrivals.map .change ++ .drop time :: latter) =
          history.filter (Entry.isBy time) ++ .taken (.drop time) :: latter.map .taken) ∧
      history.filterMap Entry.report? = (Debouncer.idle quiet).reports arrivals ∧
      ∀ scope files, scope.filter.accepts = accepts →
        (Watcher.start scope files quiet).historyOf deliveries = history := by
  intro arrivals history
  have reported : Reported quiet arrivals history := reported_iff.2 rfl
  have inOrder : arrivals.Pairwise (·.time ≤ ·.time) := List.pairwise_map.2 ordered
  refine ⟨fun event => FileEvent.counts_iff, fun other => reported_iff, ?_, ?_, ?_, ?_, ?_⟩
  · exact fun before arrival after happens counts => reported.report_of_counts inOrder counts happens
  · exact fun before time after happens => reported.counts_of_report inOrder happens
  · exact fun time earlier latter => history_drop _ (List.forall_mem_map.2 earlier) latter
  · exact filterMap_historyOf _ _
  · rintro scope files rfl
    exact Watcher.historyOf_eq _ _

/-- Events of a repository: its head is read and a lock is taken; then the head is written, and the lock is
given back; later the head is written again. -/
def headWrites : List Delivery := [
  ⟨0, ⟨true, [⟨"/w/.git/HEAD"⟩]⟩⟩, ⟨5, ⟨false, [⟨"/w/.git/HEAD.lock"⟩]⟩⟩,
  ⟨10, ⟨false, [⟨"/w/.git/HEAD"⟩]⟩⟩, ⟨60, ⟨false, [⟨"/w/.git/HEAD.lock"⟩]⟩⟩,
  ⟨200, ⟨false, [⟨"/w/.git/HEAD"⟩]⟩⟩]

/-- The lock starts no burst and makes one longer. The second burst is not reported if the watcher is
dropped before its end. -/
theorem history_bursts_headWrites :
    let accepts := WatchFilter.withoutChurn.accepts
    let arrivals := headWrites.map (Delivery.arrival accepts)
    headWrites.Pairwise (·.time ≤ ·.time) ∧
      (Debouncer.idle 80).reports arrivals = [140, 280] ∧
      (∃ time, .report time ∈ ((Debouncer.idle 80).historyOf arrivals).drop 3 ∧ 10 + 80 ≤ time) ∧
      (Debouncer.history (some (Debouncer.idle 80)) (arrivals.map .change ++ .drop 250 :: [])).filterMap
        Entry.report? = [140] := by
  intro accepts arrivals
  have ordered : headWrites.Pairwise (·.time ≤ ·.time) := by decide
  have earlier : ∀ delivery ∈ headWrites, delivery.time ≤ 250 := by decide
  obtain ⟨-, -, counted, -, dropped, -, -⟩ := history_bursts accepts 80 ordered
  refine ⟨ordered, by decide +kernel, ?_, ?_⟩
  · refine counted (((Debouncer.idle 80).historyOf arrivals).take 2) ⟨10, true⟩ _ ?_ rfl
    decide +kernel
  · exact (congrArg (List.filterMap Entry.report?) (dropped 250 earlier [])).trans (by decide +kernel)

end TitleBar
