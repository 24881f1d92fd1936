import TitleBar.Proofs.Repository.Notices
import TitleBar.Proofs.Repository.Tickets
import TitleBar.Repository.Perforce

/-! # What lives inside a binding

A tracker that is bound knows where its tool is, and may have a watcher and a poller; one that is not
bound has none of them, and what a former binding has left behind starts no reading any more. Nothing
of this is lost on the way: a poller that was started runs until it is aborted, so at most one runs, and
every task that was started is either outstanding or has ended, so a tracker is settled exactly if all
have ended.

What a run has started and ended is recorded beside the tracker, stimulus by stimulus.
-/

namespace TitleBar.Tracker

variable {σ : Type}

/-- What a tracker keeps for its repository only. -/
structure Tidy (backend : Backend σ) (tracker : Tracker σ) : Prop where
  located : tracker.program.isSome = tracker.bound.isSome
  watched : ∀ directory, tracker.watcher = some directory →
    ∃ bound, tracker.bound = some bound ∧ bound.discovery.watch = some directory
  polled : tracker.poller = (tracker.bound.isSome && backend.polls)

/-- The reading that a request of a generation starts: none without a repository, and none for a former
generation. -/
def rereading? (tracker : Tracker σ) (generation : ℕ) : Option Task := do
  let program ← tracker.program
  let bound ← tracker.bound
  if generation = tracker.generation then
    some ⟨tracker.started, tracker.generation,
      .reading (tracker.nextTicket + 1) program bound.discovery⟩
  else none

/-- The discovery or the reading that a stimulus starts. -/
def starts? (tracker : Tracker σ) : Stimulus σ → Option Task
  | .opened directory => some (tracker.discovering directory)
  | .refresh => tracker.rereading? tracker.generation
  | .nudge generation => tracker.rereading? generation
  | .closed | .ended _ _ => none

/-- The task that a stimulus ends. -/
def ends? (tracker : Tracker σ) : Stimulus σ → Option Task
  | .ended id _ => tracker.task? id
  | _ => none

/-- Whether a stimulus binds a tracker. -/
def binds (tracker : Tracker σ) : Stimulus σ → Bool
  | .ended id (.found _ _ _ _) => (tracker.task? id).any fun task =>
    task.work.ticket?.isNone && task.generation == tracker.generation
  | _ => false

/-- The pollers of a run. Each has a number of its own, and runs from its start until it is aborted; a
handle that is given up does not abort it. -/
structure Pollers where
  /-- How many were ever started. -/
  spawned : ℕ
  /-- The one whose handle is held. -/
  held : Option ℕ
  /-- Those that run. -/
  live : List ℕ
deriving DecidableEq, Repr

namespace Pollers

/-- Aborts the poller whose handle is held. -/
def abort (pollers : Pollers) : Pollers :=
  { pollers with held := none, live := pollers.live.filter fun poller => pollers.held ≠ some poller }

/-- Starts a poller, if there has to be one, and holds its handle instead of the one before. -/
def replace (polls : Bool) (pollers : Pollers) : Pollers :=
  if polls then
    { spawned := pollers.spawned + 1
      held := some pollers.spawned
      live := pollers.live ++ [pollers.spawned] }
  else { pollers with held := none }

/-- Whether the one that runs, if any, is the one whose handle is held. -/
structure Sole (tracker : Tracker σ) (pollers : Pollers) : Prop where
  held : pollers.held.isSome = tracker.poller
  live : pollers.live = pollers.held.toList

/-- The pollers behind a stimulus: an opening and a closing abort the one whose handle is held, and a
tracker that is bound gets a new one. -/
def follow (backend : Backend σ) (tracker : Tracker σ) (stimulus : Stimulus σ)
    (pollers : Pollers) : Pollers :=
  if stimulus.switches then pollers.abort
  else if tracker.binds stimulus then pollers.replace backend.polls
  else pollers

theorem follow_of_binds {backend : Backend σ} {tracker : Tracker σ} {stimulus : Stimulus σ}
    (stays : stimulus.switches = false) (binds : tracker.binds stimulus)
    (pollers : Pollers) : pollers.follow backend tracker stimulus = pollers.replace backend.polls := by
  simp [follow, stays, binds]

theorem follow_of_not_binds {backend : Backend σ} {tracker : Tracker σ} {stimulus : Stimulus σ}
    (stays : stimulus.switches = false)
    (other : tracker.binds stimulus = false) (pollers : Pollers) :
    pollers.follow backend tracker stimulus = pollers := by
  simp [follow, stays, other]

theorem Sole.abort {tracker : Tracker σ} {pollers : Pollers} (sole : Sole tracker pollers) :
    pollers.abort.live = [] := by
  simp only [Pollers.abort, sole.live]
  rcases pollers.held with _ | poller <;> simp

/-- No handle is lost where none is held. -/
theorem Sole.replace {tracker other : Tracker σ} {pollers : Pollers} (sole : Sole tracker pollers)
    (idle : tracker.poller = false) {polls : Bool} (polled : other.poller = polls) :
    Sole other (pollers.replace polls) := by
  have noHandle : pollers.held = none := by
    have held := sole.held
    rw [idle] at held
    exact Option.isNone_iff_eq_none.1 (Option.isSome_eq_false_iff.1 held)
  have noneLive : pollers.live = [] := by rw [sole.live, noHandle, Option.toList_none]
  rw [Pollers.replace]
  split
  · rename_i polls
    exact ⟨(polled.trans polls).symm, by simp [noneLive]⟩
  · rename_i silent
    exact ⟨(polled.trans (Bool.eq_false_iff.2 silent)).symm, noneLive⟩

end Pollers

theorem tidy_idle (backend : Backend σ) : Tidy backend idle where
  located := rfl
  watched := nofun
  polled := rfl

/-- A tracker that is not bound has no tool, no watcher and no poller. -/
theorem Tidy.of_unbound {backend : Backend σ} {tracker : Tracker σ} (tidy : Tidy backend tracker)
    (unbound : tracker.bound = none) :
    tracker.program = none ∧ tracker.watcher = none ∧ tracker.poller = false := by
  obtain ⟨located, watched, polled⟩ := tidy
  rw [unbound] at located polled
  refine ⟨Option.isNone_iff_eq_none.1 (Option.isSome_eq_false_iff.1 located), ?_, polled⟩
  rcases watcher : tracker.watcher with _ | directory
  · rfl
  · obtain ⟨bound, held, -⟩ := watched directory watcher
    rw [unbound] at held
    contradiction

theorem rereading?_of_current {tracker : Tracker σ} {program : Path} {bound : Bound σ}
    (located : tracker.program = some program) (held : tracker.bound = some bound) :
    tracker.rereading? tracker.generation = some ⟨tracker.started, tracker.generation,
      .reading (tracker.nextTicket + 1) program bound.discovery⟩ := by
  simp [rereading?, located, held]

theorem rereading?_eq_none {tracker : Tracker σ} {generation : ℕ}
    (missing : tracker.program = none ∨ tracker.bound = none ∨ tracker.generation ≠ generation) :
    tracker.rereading? generation = none := by
  rcases missing with none | none | former
  · simp [rereading?, none]
  · simp [rereading?, none]
  · simp [rereading?, Ne.symm former]

theorem starts?_of_asks {tracker : Tracker σ} {stimulus : Stimulus σ} {generation : ℕ}
    (asks : stimulus.asks? tracker.generation = some generation) :
    tracker.starts? stimulus = tracker.rereading? generation := by
  cases stimulus with
  | refresh => obtain rfl := Option.some.inj asks; rfl
  | nudge => obtain rfl := Option.some.inj asks; rfl
  | _ => contradiction

theorem ends?_of_asks {tracker : Tracker σ} {stimulus : Stimulus σ} {generation : ℕ}
    (asks : stimulus.asks? tracker.generation = some generation) : tracker.ends? stimulus = none := by
  cases stimulus with
  | ended => contradiction
  | _ => rfl

theorem binds_of_asks {tracker : Tracker σ} {stimulus : Stimulus σ} {generation : ℕ}
    (asks : stimulus.asks? tracker.generation = some generation) : tracker.binds stimulus = false := by
  cases stimulus with
  | ended => contradiction
  | _ => rfl

theorem switches_of_asks {current generation : ℕ} {stimulus : Stimulus σ}
    (asks : stimulus.asks? current = some generation) : stimulus.switches = false := by
  cases stimulus with
  | opened => contradiction
  | closed => contradiction
  | _ => rfl

/-- A tracker is bound by the outcome of a discovery that still counts. -/
theorem binds_iff {tracker : Tracker σ} {id : ℕ} {outcome : Outcome σ} :
    tracker.binds (.ended id outcome) ↔
      ∃ task start program discovery snapshot watching, tracker.task? id = some task ∧
        task.work = .discovery start ∧ task.generation = tracker.generation ∧
        outcome = .found program discovery snapshot watching := by
  constructor
  · intro binds
    cases outcome with
    | found program discovery snapshot watching =>
      obtain ⟨task, pending, discovers, current⟩ : ∃ task, tracker.task? id = some task ∧
          task.work.ticket?.isNone ∧ task.generation = tracker.generation := by
        simpa [Tracker.binds, Option.any_eq_true] using binds
      rcases work : task.work with start | _
      · exact ⟨task, start, program, discovery, snapshot, watching, pending, work, current, rfl⟩
      · rw [work] at discovers
        contradiction
    | nothing => contradiction
    | read => contradiction
  · rintro ⟨task, start, program, discovery, snapshot, watching, pending, work, current, rfl⟩
    simp [binds, pending, work, Work.ticket?, current]

/-- A task that is taken off the list was on it once. -/
theorem perm_drop {tracker : Tracker σ} (distinct : (tracker.tasks.map Task.id).Nodup) (id : ℕ) :
    tracker.tasks.Perm ((tracker.task? id).toList ++ (tracker.drop id).tasks) := by
  simp only [task?, drop]
  generalize tracker.tasks = tasks at distinct
  induction tasks with
  | nil => exact .nil
  | cons task tasks ih =>
    rw [List.map_cons, List.nodup_cons] at distinct
    by_cases own : task.id = id
    · have others : tasks.filter (·.id != id) = tasks := by
        rw [List.filter_eq_self]
        intro other member
        have different : other.id ≠ id := by
          intro same
          exact distinct.1 (own ▸ same ▸ List.mem_map_of_mem member)
        simpa using different
      simp [own, others]
    · simp only [List.find?_cons, List.filter_cons, beq_eq_false_iff_ne.2 own, bne_iff_ne, ne_eq, own,
        not_false_eq_true, if_true]
      exact ((ih distinct.2).cons task).trans List.perm_middle.symm

variable [DecidableEq σ] {backend : Backend σ} {before : Tracker σ} {after : Tracker σ × Bool}
  {stimulus : Stimulus σ}

theorem Tidy.of_moves (tidy : Tidy backend before) (moves : Moves backend before stimulus after) :
    Tidy backend after.1 := by
  cases moves with
  | opened => exact ⟨rfl, nofun, rfl⟩
  | closed => exact ⟨rfl, nofun, rfl⟩
  | asked => exact ⟨tidy.located, tidy.watched, tidy.polled⟩
  | unasked => exact tidy
  | @attached _ _ _ discovery snapshot watching =>
    refine ⟨rfl, fun directory watched => ⟨⟨discovery, snapshot⟩, rfl, ?_⟩, rfl⟩
    change (if watching then discovery.watch else none) = some directory at watched
    split at watched
    · exact watched
    · contradiction
  | @applied _ _ _ _ snapshot =>
    refine ⟨?_, fun directory watcher => ?_, ?_⟩
    · rw [Option.isSome_map]
      exact tidy.located
    · obtain ⟨bound, held, watched⟩ := tidy.watched directory watcher
      exact ⟨{ bound with snapshot }, by rw [held, Option.map_some], watched⟩
    · rw [Option.isSome_map]
      exact tidy.polled
  | discarded => exact ⟨tidy.located, tidy.watched, tidy.polled⟩

theorem tidy_run (backend : Backend σ) (stimuli : List (Stimulus σ)) :
    Tidy backend (idle.run backend stimuli) := by
  induction stimuli using List.reverseRecOn with
  | nil => exact tidy_idle backend
  | append_singleton stimuli last ih =>
    rw [run_concat]
    exact ih.of_moves (step_moves backend _ last)

/-- What is noted beside a run, given what each stimulus adds to it. -/
def noted {α : Type} (backend : Backend σ) (note : Tracker σ → Stimulus σ → α → α) (blank : α)
    (stimuli : List (Stimulus σ)) : α :=
  (stimuli.foldl (fun noted stimulus =>
    ((noted.1.step backend stimulus).1, note noted.1 stimulus noted.2)) (idle, blank)).2

theorem noted_concat {α : Type} (note : Tracker σ → Stimulus σ → α → α) (blank : α)
    (stimuli : List (Stimulus σ)) (last : Stimulus σ) :
    noted backend note blank (stimuli ++ [last]) =
      note (idle.run backend stimuli) last (noted backend note blank stimuli) := by
  have beside (tracker : Tracker σ) (record : α) :
      (stimuli.foldl (fun noted stimulus =>
        ((noted.1.step backend stimulus).1, note noted.1 stimulus noted.2)) (tracker, record)).1 =
        tracker.run backend stimuli := by
    induction stimuli generalizing tracker record with
    | nil => rfl
    | cons stimulus stimuli ih => exact ih _ _
  rw [noted, List.foldl_append, List.foldl_cons, List.foldl_nil, beside]
  rfl

/-! ## Requests -/

/-- A request that comes too late changes nothing. -/
theorem step_of_asks {tracker : Tracker σ} {generation : ℕ}
    (asks : stimulus.asks? tracker.generation = some generation)
    (late : tracker.bound = none ∨ tracker.generation ≠ generation) :
    tracker.step backend stimulus = (tracker, false) := by
  have moves := step_moves backend tracker stimulus
  generalize tracker.step backend stimulus = after at moves
  cases moves with
  | asked current located held =>
    rw [held] at late
    rw [current] at asks
    obtain rfl := Option.some.inj asks
    simp at late
  | unasked => rfl
  | _ => contradiction

theorem generation_le_of_moves (moves : Moves backend before stimulus after) :
    before.generation ≤ after.1.generation ∧
      (stimulus.switches = true → before.generation < after.1.generation) := by
  cases moves with
  | opened =>
    change before.generation ≤ before.generation + 2 ∧ (_ → before.generation < before.generation + 2)
    omega
  | closed =>
    change before.generation ≤ before.generation + 1 ∧ (_ → before.generation < before.generation + 1)
    omega
  | asked asks =>
    refine ⟨Nat.le_refl _, fun switches => ?_⟩
    rw [switches_of_asks asks] at switches
    contradiction
  | unasked asks =>
    refine ⟨Nat.le_refl _, fun switches => ?_⟩
    rw [switches_of_asks asks] at switches
    contradiction
  | attached | applied | discarded => exact ⟨Nat.le_refl _, nofun⟩

theorem generation_le_run (tracker : Tracker σ) (stimuli : List (Stimulus σ)) :
    tracker.generation ≤ (tracker.run backend stimuli).generation := by
  induction stimuli using List.reverseRecOn with
  | nil => exact Nat.le_refl _
  | append_singleton stimuli last ih =>
    rw [run_concat]
    exact Nat.le_trans ih (generation_le_of_moves (step_moves backend _ last)).1

/-- No generation comes back behind an opening or a closing. -/
theorem generation_lt_run {former later : List (Stimulus σ)} {switch : Stimulus σ}
    (switches : switch.switches = true) :
    (idle.run backend former).generation <
      (idle.run backend (former ++ switch :: later)).generation := by
  have split : former ++ switch :: later = (former ++ [switch]) ++ later := by simp
  have renewed := (generation_le_of_moves (step_moves backend (idle.run backend former) switch)).2 switches
  rw [split, run_append, run_concat]
  exact Nat.lt_of_lt_of_le renewed (generation_le_run _ later)

/-- The requests that the watcher and the timer of a tracker make. -/
def requests (backend : Backend σ) (quiet : ℕ) (tracker : Tracker σ) : List (Stimulus σ) :=
  (watchers backend quiet tracker).map (·.report) ++ (timers backend tracker).map (·.tick)

omit [DecidableEq σ] in
theorem asks?_of_requests {quiet current : ℕ} {tracker : Tracker σ} {request : Stimulus σ}
    (member : request ∈ requests backend quiet tracker) :
    request.asks? current = some tracker.generation := by
  rw [requests, List.mem_append] at member
  rcases member with watching | polling
  · obtain ⟨asked, held, rfl⟩ := List.mem_map.1 watching
    obtain ⟨directory, -, rfl⟩ := List.mem_map.1 held
    rfl
  · obtain ⟨asked, held, rfl⟩ := List.mem_map.1 polling
    rw [timers] at held
    split at held
    · rw [List.mem_singleton.1 held]
      rfl
    · contradiction

/-! ## Tasks -/

/-- The tasks that the stimuli of a run have started, in that order. -/
def startedTasks (backend : Backend σ) : List (Stimulus σ) → List Task :=
  noted backend (fun tracker stimulus tasks => tasks ++ (tracker.starts? stimulus).toList) []

/-- The tasks that the stimuli of a run have ended, in that order. -/
def endedTasks (backend : Backend σ) : List (Stimulus σ) → List Task :=
  noted backend (fun tracker stimulus tasks => tasks ++ (tracker.ends? stimulus).toList) []

/-- What was started has ended or is outstanding, and is numbered in the order of its start. -/
structure Balanced (started ended : List Task) (tracker : Tracker σ) : Prop where
  perm : started.Perm (ended ++ tracker.tasks)
  numbers : started.map Task.id = List.range tracker.started

namespace Balanced

variable {started ended : List Task}

omit [DecidableEq σ] in
theorem nodup {tracker : Tracker σ} (balanced : Balanced started ended tracker) :
    ((ended ++ tracker.tasks).map Task.id).Nodup := by
  rw [← (balanced.perm.map Task.id).nodup_iff, balanced.numbers]
  exact List.nodup_range

omit [DecidableEq σ] in
theorem start {tracker : Tracker σ} (balanced : Balanced started ended tracker) {task : Task}
    {other : Tracker σ} (new : task.id = tracker.started) (tasks : other.tasks = tracker.tasks ++ [task])
    (counted : other.started = tracker.started + 1) : Balanced (started ++ [task]) ended other where
  perm := by
    rw [tasks, ← List.append_assoc]
    exact balanced.perm.append_right _
  numbers := by
    rw [List.map_append, balanced.numbers, counted, List.range_succ, List.map_singleton, new]

omit [DecidableEq σ] in
theorem drop {tracker : Tracker σ} (balanced : Balanced started ended tracker) (id : ℕ)
    {other : Tracker σ} (tasks : other.tasks = (tracker.drop id).tasks)
    (counted : other.started = tracker.started) :
    Balanced started (ended ++ (tracker.task? id).toList) other where
  perm := by
    have distinct : (tracker.tasks.map Task.id).Nodup := by
      have all := balanced.nodup
      rw [List.map_append] at all
      exact (List.nodup_append.1 all).2.1
    rw [tasks, List.append_assoc]
    exact balanced.perm.trans ((perm_drop distinct id).append_left ended)
  numbers := by rw [balanced.numbers, counted]

omit [DecidableEq σ] in
theorem same {tracker : Tracker σ} (balanced : Balanced started ended tracker) {other : Tracker σ}
    (tasks : other.tasks = tracker.tasks) (counted : other.started = tracker.started) :
    Balanced started ended other where
  perm := by rw [tasks]; exact balanced.perm
  numbers := by rw [balanced.numbers, counted]

theorem of_moves (balanced : Balanced started ended before)
    (moves : Moves backend before stimulus after) :
    Balanced (started ++ (before.starts? stimulus).toList) (ended ++ (before.ends? stimulus).toList)
      after.1 := by
  cases moves with
  | opened directory =>
    have none : before.ends? (.opened directory) = none := rfl
    rw [none, Option.toList_none, List.append_nil]
    exact balanced.start rfl rfl rfl
  | closed =>
    have none : before.ends? .closed = none := rfl
    rw [starts?, none, Option.toList_none, List.append_nil, List.append_nil]
    exact balanced.same rfl rfl
  | asked asks located held =>
    rw [starts?_of_asks asks, ends?_of_asks asks, rereading?_of_current located held,
      Option.toList_none, List.append_nil]
    exact balanced.start rfl rfl rfl
  | unasked asks missing =>
    rw [starts?_of_asks asks, ends?_of_asks asks, rereading?_eq_none missing, Option.toList_none,
      List.append_nil, List.append_nil]
    exact balanced
  | @attached task =>
    rw [starts?, Option.toList_none, List.append_nil]
    exact balanced.drop task.id rfl rfl
  | @applied task =>
    rw [starts?, Option.toList_none, List.append_nil]
    exact balanced.drop task.id rfl rfl
  | @discarded id =>
    rw [starts?, Option.toList_none, List.append_nil]
    exact balanced.drop id rfl rfl

end Balanced

theorem balanced_run (backend : Backend σ) (stimuli : List (Stimulus σ)) :
    Balanced (startedTasks backend stimuli) (endedTasks backend stimuli) (idle.run backend stimuli) := by
  induction stimuli using List.reverseRecOn with
  | nil => exact ⟨.nil, rfl⟩
  | append_singleton stimuli last ih =>
    rw [startedTasks, endedTasks, noted_concat, noted_concat, run_concat]
    exact ih.of_moves (step_moves backend _ last)

/-! ## Pollers -/

/-- The pollers of a run. -/
def pollers (backend : Backend σ) : List (Stimulus σ) → Pollers :=
  noted backend (Pollers.follow backend) ⟨0, none, []⟩

theorem Pollers.Sole.of_moves {pollers : Pollers} (sole : Sole before pollers)
    (tidy : Tidy backend before) (phased : Phased before)
    (moves : Moves backend before stimulus after) :
    Sole after.1 (pollers.follow backend before stimulus) := by
  cases moves with
  | opened => exact ⟨rfl, sole.abort⟩
  | closed => exact ⟨rfl, sole.abort⟩
  | asked asks =>
    rw [Pollers.follow_of_not_binds (switches_of_asks asks) (binds_of_asks asks)]
    exact ⟨sole.held, sole.live⟩
  | unasked asks =>
    rw [Pollers.follow_of_not_binds (switches_of_asks asks) (binds_of_asks asks)]
    exact sole
  | @attached task start program discovery snapshot watching pending work current =>
    -- A tracker that is bound anew was not bound, so that it held no handle.
    have unbound := phased.bound_eq_none pending work current
    have binds : before.binds (.ended task.id (.found program discovery snapshot watching)) :=
      binds_iff.2 ⟨task, start, program, discovery, snapshot, watching, pending, work, current, rfl⟩
    rw [Pollers.follow_of_binds rfl binds]
    exact sole.replace (tidy.of_unbound unbound).2.2 rfl
  | applied =>
    rw [Pollers.follow_of_not_binds rfl rfl]
    exact ⟨sole.held, sole.live⟩
  | @discarded id outcome vain =>
    have other : before.binds (.ended id outcome) = false := by
      rw [Bool.eq_false_iff]
      intro binds
      obtain ⟨task, start, _, _, _, _, pending, work, current, rfl⟩ := binds_iff.1 binds
      exact vain task pending ⟨⟨start, work⟩, current⟩
    rw [Pollers.follow_of_not_binds rfl other]
    exact ⟨sole.held, sole.live⟩

theorem sole_run (backend : Backend σ) (stimuli : List (Stimulus σ)) :
    Pollers.Sole (idle.run backend stimuli) (pollers backend stimuli) := by
  induction stimuli using List.reverseRecOn with
  | nil => exact ⟨rfl, rfl⟩
  | append_singleton stimuli last ih =>
    rw [run_concat, pollers, noted_concat]
    exact ih.of_moves (tidy_run backend stimuli) (phased_run backend stimuli) (step_moves backend _ last)

/-- In every run of a tracker, a tool is known exactly while it is bound; what is watched is what its
repository has to be watched for; and a poller runs exactly while it is bound to a repository that is
polled, and never a second one. A request without a repository, and one that a watcher or a timer makes
behind the next opening or closing, changes nothing and so starts no reading. The tasks that were
started are those that have ended and those that are outstanding, each of them once. -/
theorem background_within_binding (backend : Backend σ) (quiet : ℕ) (stimuli : List (Stimulus σ)) :
    let tracker := idle.run backend stimuli
    let started := startedTasks backend stimuli
    let ended := endedTasks backend stimuli
    (tracker.program.isSome ↔ tracker.bound.isSome) ∧
      (∀ directory, tracker.watcher = some directory →
        ∃ bound, tracker.bound = some bound ∧ bound.discovery.watch = some directory) ∧
      (tracker.poller ↔ tracker.bound.isSome ∧ backend.polls) ∧
      (pollers backend stimuli).live.length = (if tracker.poller then 1 else 0) ∧
      (tracker.bound = none → ∀ request : Stimulus σ, (request.asks? tracker.generation).isSome →
        tracker.step backend request = (tracker, false)) ∧
      (∀ former switch later, stimuli = former ++ switch :: later → switch.switches →
        ∀ request, request = .nudge (idle.run backend former).generation ∨
            request ∈ requests backend quiet (idle.run backend former) →
          tracker.step backend request = (tracker, false)) ∧
      (started.map Task.id).Nodup ∧ started.Perm (ended ++ tracker.tasks) ∧
      started.length = ended.length + tracker.tasks.length ∧
      (tracker.settled ↔ started.length = ended.length) := by
  intro tracker started ended
  have tidy : Tidy backend tracker := tidy_run backend stimuli
  have sole : Pollers.Sole tracker (pollers backend stimuli) := sole_run backend stimuli
  have balanced : Balanced started ended tracker := balanced_run backend stimuli
  have count : started.length = ended.length + tracker.tasks.length := by
    rw [balanced.perm.length_eq, List.length_append]
  refine ⟨?_, tidy.watched, ?_, ?_, ?_, ?_, ?_, balanced.perm, count, ?_⟩
  · rw [tidy.located]
  · rw [tidy.polled, Bool.and_eq_true]
  · rw [sole.live, ← sole.held]
    rcases (pollers backend stimuli).held with _ | poller <;> rfl
  · intro unbound request asked
    obtain ⟨generation, asks⟩ := Option.isSome_iff_exists.1 asked
    exact step_of_asks asks (.inl unbound)
  · rintro former switch later split switches request made
    have newer : (idle.run backend former).generation <
        (idle.run backend (former ++ switch :: later)).generation := generation_lt_run switches
    rw [← split] at newer
    have asks : request.asks? tracker.generation = some (idle.run backend former).generation := by
      rcases made with rfl | member
      · rfl
      · exact asks?_of_requests member
    exact step_of_asks asks (.inr (Nat.ne_of_gt newer))
  · rw [balanced.numbers]
    exact List.nodup_range
  · rw [settled, List.isEmpty_iff, ← List.length_eq_zero_iff]
    omega

/-- A client is found and read again, and while that goes on the solution is closed and another one is
opened. -/
def overtaking : List (Stimulus Perforce.State) :=
  [.opened ⟨"/a"⟩, .ended 0 (.found ⟨"/bin/p4"⟩ ⟨⟨"/a"⟩, none, some "box"⟩ ⟨[]⟩ false), .refresh, .closed,
    .opened ⟨"/b"⟩]

/-- The poller of the first solution is gone, what it asked for last changes nothing, and the reading of
the first solution is still outstanding beside the discovery of the second one. -/
theorem background_within_binding_overtaken :
    let first := idle.run Perforce.backend (overtaking.take 3)
    let tracker := idle.run Perforce.backend overtaking
    first.poller ∧ (pollers Perforce.backend (overtaking.take 3)).live.length = 1 ∧
      (pollers Perforce.backend overtaking).live.length = 0 ∧
      Stimulus.closed.switches (σ := Perforce.State) ∧
      (∀ request ∈ requests Perforce.backend quietPeriod first,
        tracker.step Perforce.backend request = (tracker, false)) ∧
      tracker.tasks.map Task.id = [1, 2] ∧
      3 = (endedTasks Perforce.backend overtaking).length + tracker.tasks.length := by
  intro first tracker
  obtain ⟨-, -, -, running, -⟩ := background_within_binding Perforce.backend quietPeriod (overtaking.take 3)
  obtain ⟨-, -, -, gone, -, late, -, -, count, -⟩ :=
    background_within_binding Perforce.backend quietPeriod overtaking
  refine ⟨rfl, running, gone, rfl, fun request member => ?_, rfl, count⟩
  exact late (overtaking.take 3) .closed [.opened ⟨"/b"⟩] rfl rfl request (.inr member)

end TitleBar.Tracker
