import TitleBar.Proofs.Repository.Background

/-! # What a tracker and its timeline have in common

A timeline carries the jobs of the tasks of its tracker and the watcher that the tracker asks for. An
event either leaves the tracker as it is or is a stimulus to it, and a watcher that has a report to
make keeps it until it makes it.
-/

namespace TitleBar

namespace Timeline

variable {S E N : Type} {line : Timeline S E N} {request : WatchRequest E} {watcher : Watcher}

theorem report_of_early (early : ∀ held ∈ line.watchers, held.2.debouncer.isDue line.waited = false) :
    line.report = line := by
  rw [report, List.filter_eq_nil_iff.2, List.map_congr_left (g := id), List.map_id]
  · rfl
  · intro held member
    simp [early held member]
  · intro held member
    simp [early held member]

theorem report_of_due (held : line.watchers = [(request, watcher)])
    (due : watcher.debouncer.isDue line.waited) :
    line.report = { line with
      watchers := [(request, { watcher with debouncer := watcher.debouncer.report })]
      }.happen request.report := by
  simp [report, held, due]

/-- A change of the files leaves a timeline the watchers that it was asked for. -/
theorem map_fst_noteChanges (line : Timeline S E N) (files : Files) (changed : List Location) :
    (({ line with files } : Timeline S E N).noteChanges changed).watchers.map (·.1) =
      line.watchers.map (·.1) := by
  rw [noteChanges, List.map_map]
  rfl

theorem tick_of_early (early : ∀ held ∈ line.timers, line.now < held.2) : line.tick = line := by
  rw [tick, List.filter_eq_nil_iff.2, List.map_congr_left (g := id), List.map_id]
  · rfl
  · intro held member
    simp [Nat.not_le.2 (early held member)]
  · intro held member
    simpa using early held member

theorem tick_of_due {timer : TimerRequest E} {due : ℕ} (held : line.timers = [(timer, due)])
    (late : due ≤ line.now) :
    line.tick = { line with timers := [(timer, due + period)] }.happen timer.tick := by
  simp [tick, held, late]

end Timeline

namespace Tracker

variable {σ : Type} [DecidableEq σ]

/-- A timeline that carries what its tracker asks for. -/
structure Consistent (backend : Backend σ) (quiet : ℕ)
    (line : Timeline (Tracker σ) (Stimulus σ) String) : Prop where
  machine : line.machine = Tracker.machine backend quiet
  ordered : Ordered line.state
  numbered : Numbered line.state
  phased : Phased line.state
  watched : line.state.watcher.isSome → line.state.bound.isSome
  held : line.watchers.map (·.1) = watchers backend quiet line.state
  timed : line.timers.map (·.1) = timers backend line.state
  patient : ∀ held ∈ line.watchers, held.2.Patient line.waited
  jobs : ∀ job ∈ line.jobs, Serves backend line.state job.script

theorem consistent_start (backend : Backend σ) (quiet : ℕ) (files : Files) (tools : Tools) :
    Consistent backend quiet (Timeline.start (machine backend quiet) files tools idle) where
  machine := rfl
  ordered := ordered_idle
  numbered := numbered_idle
  phased := .inl ⟨rfl, nofun⟩
  watched := nofun
  held := rfl
  timed := rfl
  patient _ member := (List.not_mem_nil member).elim
  jobs _ member := (List.not_mem_nil member).elim

variable {backend : Backend σ} {quiet : ℕ} {line : Timeline (Tracker σ) (Stimulus σ) String}
  {stimulus : Stimulus σ}

/-- A stimulus on the timeline moves the tracker. -/
theorem Consistent.happen_moves (consistent : Consistent backend quiet line) (stimulus : Stimulus σ) :
    ∃ changed, Moves backend line.state stimulus ((line.happen stimulus).state, changed) := by
  have state : (line.happen stimulus).state = (line.state.step backend stimulus).1 := by
    rw [Timeline.happen_eq, consistent.machine]
    rfl
  rw [state]
  exact ⟨_, step_moves backend line.state stimulus⟩

/-- The watcher of a tracker, if it has one. -/
theorem Consistent.watchers_cases (consistent : Consistent backend quiet line) :
    (line.watchers = [] ∧ watchers backend quiet line.state = []) ∨
      ∃ request watcher, line.watchers = [(request, watcher)] ∧
        watchers backend quiet line.state = [request] ∧
        request.report = .nudge line.state.generation ∧ line.state.watcher.isSome := by
  have held := consistent.held
  rcases watching : line.state.watcher with _ | directory
  · left
    have none : watchers backend quiet line.state = [] := by rw [watchers, watching]; rfl
    rw [none] at held
    exact ⟨List.map_eq_nil_iff.1 held, none⟩
  · right
    have one : watchers backend quiet line.state = [⟨line.state.tie backend,
        ⟨directory, true, backend.filter⟩, quiet, .nudge line.state.generation⟩] := by
      rw [watchers, watching]
      rfl
    rw [one] at held
    obtain ⟨⟨request, watcher⟩, single, rfl⟩ := List.map_eq_singleton_iff.1 held
    exact ⟨_, watcher, single, one, rfl, rfl⟩

/-- A tracker that asks for the same watcher as before keeps it. -/
theorem Consistent.watchers_become (consistent : Consistent backend quiet line) {next : Tracker σ}
    (same : watchers backend quiet next = watchers backend quiet line.state)
    (notices : List String) : (line.become next notices).watchers = line.watchers := by
  have asked : line.machine.watchers next = watchers backend quiet line.state := by
    rw [consistent.machine, ← same]
    rfl
  rcases consistent.watchers_cases with ⟨held, none⟩ | ⟨request, watcher, held, one, -, -⟩
  · simp [Timeline.become, Timeline.sync, asked, held, none]
  · simp [Timeline.become, Timeline.sync, asked, held, one]

theorem Consistent.happen (consistent : Consistent backend quiet line) (positive : 0 < quiet)
    (stimulus : Stimulus σ) : Consistent backend quiet (line.happen stimulus) := by
  obtain ⟨changed, moves⟩ := consistent.happen_moves stimulus
  have ordered := consistent.ordered.of_moves moves
  refine ⟨consistent.machine, ordered, consistent.numbered.of_moves moves,
    consistent.phased.of_moves consistent.ordered moves, (bound_of_moves consistent.watched moves).1,
    ?_, ?_, ?_, ?_⟩
  · rw [Timeline.happen_eq, Timeline.map_fst_become, consistent.machine]
    rfl
  · rw [Timeline.happen_eq, Timeline.map_fst_timers_become, consistent.machine]
    rfl
  · intro held member
    rcases Timeline.mem_become member with ⟨former, earlier, same⟩ | ⟨asked, new⟩
    · rw [same]
      exact consistent.patient former earlier
    · rw [consistent.machine] at asked
      obtain ⟨directory, -, request⟩ := List.mem_map.1 asked
      rw [new, ← request]
      exact ⟨positive, nofun⟩
  · intro job member
    rcases List.mem_append.1 member with earlier | new
    · exact (consistent.jobs job earlier).of_moves moves
    · obtain ⟨script, launched, rfl⟩ := List.mem_map.1 new
      have started : script ∈ line.machine.launched line.state (line.happen stimulus).state := launched
      rw [consistent.machine] at started
      exact serves_launched ordered started

/-- What an event does to a timeline: it leaves the tracker as it is, or lets a stimulus happen after
such a change. -/
inductive Turns (backend : Backend σ) (quiet : ℕ)
    (line : Timeline (Tracker σ) (Stimulus σ) String) (event : Event) :
    Timeline (Tracker σ) (Stimulus σ) String → Prop
  | silent {next : Timeline (Tracker σ) (Stimulus σ) String}
    (consistent : Consistent backend quiet next) (state : next.state = line.state)
    (keeps : line.Pending → next.Pending) : Turns backend quiet line event next
  | stimulated {behind : Timeline (Tracker σ) (Stimulus σ) String} {stimulus : Stimulus σ}
    (consistent : Consistent backend quiet behind) (state : behind.state = line.state)
    (honest : Honest backend line.state stimulus) (switches : stimulus.switches = event.switches)
    (keeps : (line.Pending → behind.Pending) ∨ stimulus = .nudge line.state.generation)
    (ends : ∀ id outcome, stimulus = .ended id outcome →
      ∃ index, event = .resumed index ∧ line.ending? index = some stimulus) :
    Turns backend quiet line event (behind.happen stimulus)

theorem Consistent.resume_turns (consistent : Consistent backend quiet line) (index : ℕ) :
    Turns backend quiet line (.resumed index) (line.resume index) := by
  rw [Timeline.resume]
  split
  · rename_i job found
    have serves := consistent.jobs job (List.mem_of_getElem? found)
    have jobs : ∀ job ∈ line.jobs.eraseIdx index, Serves backend line.state job.script :=
      fun job member => consistent.jobs job (List.mem_of_mem_eraseIdx member)
    obtain ⟨calls, ⟨stimulus, answers, ended⟩ | ⟨rest, gives, left⟩⟩ :=
      Timeline.proceed_cases { line with jobs := line.jobs.eraseIdx index } job.script
    · have given := Script.gives_of_answer? answers
      rw [ended]
      refine .stimulated { consistent with jobs } rfl (serves.honest given) ?_ (.inl id) ?_
      · obtain ⟨task, -, -, ends⟩ := serves
        obtain ⟨outcome, rfl, -⟩ := ends stimulus given
        rfl
      · intro id outcome _
        refine ⟨index, rfl, ?_⟩
        rw [Timeline.ending?, found, Option.bind_some]
        exact answers
    · rw [left]
      refine .silent { consistent with jobs := ?_ } rfl id
      intro job member
      rcases List.mem_append.1 member with earlier | new
      · exact jobs job earlier
      · rw [List.mem_singleton.1 new]
        exact serves.of_gives gives
  · exact .silent consistent rfl id

theorem Consistent.noteChanges (consistent : Consistent backend quiet line) (files : Files)
    (changed : List Location) :
    Consistent backend quiet ({ line with files }.noteChanges changed) := by
  refine { consistent with held := ?_, patient := ?_ }
  · exact (line.map_fst_noteChanges files changed).trans consistent.held
  · intro held member
    obtain ⟨former, earlier, rfl⟩ := List.mem_map.1 member
    exact (consistent.patient former earlier).notice files changed

theorem Consistent.pending_noteChanges (consistent : Consistent backend quiet line) (files : Files)
    (changed : List Location) (pending : line.Pending) :
    ({ line with files }.noteChanges changed).Pending := by
  obtain ⟨held, member, pending⟩ := pending
  exact ⟨_, List.mem_map.2 ⟨held, member, rfl⟩,
    (consistent.patient held member).pending_notice files changed pending⟩

theorem Consistent.noteChanges_pending (consistent : Consistent backend quiet line) (files : Files)
    {changed : List Location} (learns : ∃ held ∈ line.watchers, held.2.Learns changed) :
    ({ line with files }.noteChanges changed).Pending := by
  obtain ⟨held, member, learns⟩ := learns
  exact ⟨_, List.mem_map.2 ⟨held, member, rfl⟩,
    (consistent.patient held member).notice_pending files learns⟩

omit [DecidableEq σ] in
theorem nudge_ne_ended {generation : ℕ} (id : ℕ) (outcome : Outcome σ) :
    Stimulus.nudge generation ≠ .ended id outcome := by
  intro same
  contradiction

theorem Consistent.waited_turns (consistent : Consistent backend quiet line) (duration : ℕ) :
    Turns backend quiet line (.waited duration) (line.undergo (.waited duration)) := by
  let passed := { line with waited := line.waited + duration }
  change Turns backend quiet line (.waited duration) passed.report
  by_cases early : ∀ held ∈ line.watchers, held.2.debouncer.isDue passed.waited = false
  · have same : passed.report = passed := Timeline.report_of_early early
    rw [same]
    refine .silent { consistent with patient := ?_ } rfl id
    exact fun held member => (consistent.patient held member).of_early (early held member)
  · rcases consistent.watchers_cases with ⟨none, -⟩ | ⟨request, watcher, one, -, report, -⟩
    · rw [none] at early
      exact (early fun _ member => (List.not_mem_nil member).elim).elim
    have patient := consistent.patient (request, watcher) (by rw [one]; exact List.mem_cons_self)
    have due : watcher.debouncer.isDue passed.waited := by
      rw [one, List.forall_mem_singleton] at early
      simpa using early
    have reported : passed.report = { passed with
        watchers := [(request, { watcher with debouncer := watcher.debouncer.report })]
        }.happen request.report := Timeline.report_of_due one due
    rw [reported, report]
    refine .stimulated { consistent with held := ?_, patient := ?_ } rfl
      (honest_of_not_ended nudge_ne_ended) rfl (.inr rfl)
      fun id outcome same => (nudge_ne_ended id outcome same).elim
    · rw [← consistent.held, one]
      rfl
    · rw [List.forall_mem_singleton]
      exact patient.report _

theorem Consistent.ticked_turns (consistent : Consistent backend quiet line) :
    Turns backend quiet line .ticked line.tick := by
  by_cases early : ∀ held ∈ line.timers, line.now < held.2
  · rw [Timeline.tick_of_early early]
    exact .silent consistent rfl id
  · have timed := consistent.timed
    rcases polling : line.state.poller with _ | _
    · rw [timers, polling, if_neg Bool.false_ne_true, List.map_eq_nil_iff] at timed
      rw [timed] at early
      exact (early fun _ member => (List.not_mem_nil member).elim).elim
    rw [timers, polling, if_pos rfl] at timed
    obtain ⟨⟨timer, due⟩, one, asked⟩ := List.map_eq_singleton_iff.1 timed
    have late : due ≤ line.now := by
      rw [one, List.forall_mem_singleton] at early
      exact Nat.not_lt.1 early
    have tick : timer.tick = .nudge line.state.generation := congrArg TimerRequest.tick asked
    rw [Timeline.tick_of_due one late, tick]
    refine .stimulated { consistent with timed := ?_ } rfl (honest_of_not_ended nudge_ne_ended) rfl
      (.inl id) fun id outcome same => (nudge_ne_ended id outcome same).elim
    rw [timers, polling, if_pos rfl, ← asked]
    rfl

theorem Consistent.turns (consistent : Consistent backend quiet line) (event : Event) :
    Turns backend quiet line event (line.undergo event) := by
  cases event with
  | opened directory => exact .stimulated consistent rfl nofun rfl (.inl id) nofun
  | closed => exact .stimulated consistent rfl nofun rfl (.inl id) nofun
  | refresh => exact .stimulated consistent rfl nofun rfl (.inl id) nofun
  | resumed index => exact consistent.resume_turns index
  | ticked => exact consistent.ticked_turns
  | changed change =>
    rw [Timeline.undergo_changed]
    exact .silent (consistent.noteChanges _ _) rfl (consistent.pending_noteChanges _ _)
  | equipped tools => exact .silent { consistent with } rfl id
  | elapsed duration => exact .silent { consistent with } rfl id
  | waited duration => exact consistent.waited_turns duration

theorem Turns.consistent {event : Event} {next : Timeline (Tracker σ) (Stimulus σ) String}
    (turns : Turns backend quiet line event next) (positive : 0 < quiet) :
    Consistent backend quiet next := by
  cases turns with
  | silent consistent => exact consistent
  | stimulated consistent => exact consistent.happen positive _

theorem Consistent.undergoAll (consistent : Consistent backend quiet line) (positive : 0 < quiet)
    (events : List Event) : Consistent backend quiet (line.undergoAll events) := by
  induction events generalizing line with
  | nil => exact consistent
  | cons event events ih => exact ih ((consistent.turns event).consistent positive)

end Tracker

end TitleBar
