import TitleBar.Proofs.Repository.Tickets
import TitleBar.Proofs.Watch.Notice
import TitleBar.Repository.Machine

/-! # A tracker at work

What happens to a tracker on its timeline is a list of events. Of the jobs in the background any may
go on at any time, so that all orders are covered in which tasks can end. Whatever the events, a job
ends the task that it was started for, and it ends it with an outcome of its own script.
-/

namespace TitleBar

/-- The answer of a script that does not have to wait. -/
def Script.answer? {α : Type} (files : Files) (tools : Tools) : Script α → Option α
  | .done answer => some answer
  | .look next => (next files).answer? files tools
  | .locate program next => (next (tools.locate files program)).answer? files tools
  | .run command next =>
    if (tools.reply files command).duration = 0 then
      (next (tools.reply files command).output).answer? files tools
    else none

theorem Script.gives_of_answer? {α : Type} {files : Files} {tools : Tools} {script : Script α}
    {answer : α} (answers : script.answer? files tools = some answer) : script.Gives answer := by
  induction script with
  | done =>
    rw [← Option.some.inj answers]
    exact .done _
  | look next ih => exact .look _ (ih _ answers)
  | locate program next ih => exact .locate _ (ih _ answers)
  | run command next ih =>
    rw [answer?] at answers
    split at answers
    · exact .run _ (ih _ answers)
    · contradiction

/-- A change of the files. -/
inductive Change where
  | wrote (path : Path) (content : List UInt8)
  | removed (path : Path)

/-- The files after a change, and the locations that it concerns. -/
def Change.noting (files : Files) : Change → Files × List Location
  | .wrote path content => files.writeNoting path content
  | .removed path => files.removeNoting path

/-- What happens on the timeline of a tracker. -/
inductive Event where
  /-- The host opens a solution, closes it, or asks for a reading. -/
  | opened (directory : Path)
  | closed
  | refresh
  /-- A job goes on. -/
  | resumed (index : ℕ)
  /-- The timers that are due ask for readings. -/
  | ticked
  | changed (change : Change)
  /-- Programs are installed or removed, or answer in another way. -/
  | equipped (tools : Tools)
  /-- Time passes for commands. -/
  | elapsed (duration : ℕ)
  /-- Time passes for watchers, which make their reports. -/
  | waited (duration : ℕ)

/-- Whether an event opens or closes a solution. -/
def Event.switches : Event → Bool
  | .opened _ | .closed => true
  | _ => false

namespace Timeline

variable {S E N : Type}

/-- Goes on with a job. -/
def resume (line : Timeline S E N) (index : ℕ) : Timeline S E N :=
  match line.jobs[index]? with
  | some job => { line with jobs := line.jobs.eraseIdx index }.proceed job.script
  | none => line

/-- The stimulus that a job ends with if it goes on. -/
def ending? (line : Timeline S E N) (index : ℕ) : Option E :=
  line.jobs[index]?.bind fun job => job.script.answer? line.files line.tools

/-- Whether a watcher has a report to make. -/
def Pending (line : Timeline S E N) : Prop := ∃ held ∈ line.watchers, held.2.Pending

/-- To go on with a script ends it, or makes a job of what is left of it. -/
theorem proceed_cases (line : Timeline S E N) (script : Script E) :
    ∃ calls, (∃ stimulus, script.answer? line.files line.tools = some stimulus ∧
        line.proceed script = { line with calls }.happen stimulus) ∨
      ∃ job, (∀ answer, job.script.Gives answer → script.Gives answer) ∧
        line.proceed script = { line with calls, jobs := line.jobs ++ [job] } := by
  induction script generalizing line with
  | done stimulus => exact ⟨line.calls, .inl ⟨stimulus, rfl, rfl⟩⟩
  | look next ih =>
    obtain ⟨calls, ended | ⟨job, gives, left⟩⟩ := ih line.files line
    · exact ⟨calls, .inl ended⟩
    · exact ⟨calls, .inr ⟨job, fun answer given => .look _ (gives answer given), left⟩⟩
  | locate program next ih =>
    obtain ⟨calls, ended | ⟨job, gives, left⟩⟩ := ih (line.tools.locate line.files program) line
    · exact ⟨calls, .inl ended⟩
    · exact ⟨calls, .inr ⟨job, fun answer given => .locate _ (gives answer given), left⟩⟩
  | run command next ih =>
    by_cases instant : (line.tools.reply line.files command).duration = 0
    · obtain ⟨calls, ended⟩ := ih (line.tools.reply line.files command).output
        { line with calls := line.calls ++ [command] }
      refine ⟨calls, ?_⟩
      simp only [proceed, Script.answer?, if_pos instant]
      rcases ended with ended | ⟨job, gives, left⟩
      · exact .inl ended
      · exact .inr ⟨job, fun answer given => .run _ (gives answer given), left⟩
    · have left : line.proceed (.run command next) =
          { line with
            calls := line.calls ++ [command]
            jobs := line.jobs ++ [⟨line.now + (line.tools.reply line.files command).duration,
              next (line.tools.reply line.files command).output⟩] } := by
        simp only [proceed, if_neg instant]
      exact ⟨_, .inr ⟨_, fun answer given => .run _ given, left⟩⟩

theorem happen_eq (line : Timeline S E N) (stimulus : E) :
    line.happen stimulus = line.become (line.machine.step line.files line.state stimulus).1
      (line.machine.step line.files line.state stimulus).2 :=
  rfl

/-- A timeline holds the watchers and the timers that its state asks for. -/
theorem map_fst_become (line : Timeline S E N) (state : S) (notices : List N) :
    (line.become state notices).watchers.map (·.1) = line.machine.watchers state := by
  rw [become, sync, List.map_map]
  conv_rhs => rw [← List.map_id (line.machine.watchers state)]
  apply List.map_congr_left
  intro request _
  simp only [Function.comp_apply]
  split <;> rfl

theorem map_fst_timers_become (line : Timeline S E N) (state : S) (notices : List N) :
    (line.become state notices).timers.map (·.1) = line.machine.timers state := by
  rw [become, sync, List.map_map]
  conv_rhs => rw [← List.map_id (line.machine.timers state)]
  apply List.map_congr_left
  intro request _
  simp only [Function.comp_apply]
  split <;> rfl

/-- A watcher that a timeline holds is one that it held before, or a new one. -/
theorem mem_become {line : Timeline S E N} {state : S} {notices : List N}
    {held : WatchRequest E × Watcher} (member : held ∈ (line.become state notices).watchers) :
    (∃ former ∈ line.watchers, held.2 = former.2) ∨
      held.1 ∈ line.machine.watchers state ∧
        held.2 = Watcher.start held.1.scope line.files held.1.quiet := by
  obtain ⟨request, asked, rfl⟩ := List.mem_map.1 member
  split
  · rename_i found
    exact .inl ⟨_, List.mem_of_find?_eq_some found, rfl⟩
  · exact .inr ⟨asked, rfl⟩

/-- A watcher that starts has nothing to report. -/
theorem not_pending_become {line : Timeline S E N} {state : S} {notices : List N}
    (none : line.watchers = []) : ¬(line.become state notices).Pending := by
  rintro ⟨held, member, pending⟩
  rcases mem_become member with ⟨former, earlier, -⟩ | ⟨-, new⟩
  · rw [none] at earlier
    contradiction
  · rw [new] at pending
    contradiction

variable {σ : Type}

/-- A timeline after an event. -/
def undergo (line : Timeline (Tracker σ) (Stimulus σ) N) : Event → Timeline (Tracker σ) (Stimulus σ) N
  | .opened directory => line.happen (.opened directory)
  | .closed => line.happen .closed
  | .refresh => line.happen .refresh
  | .resumed index => line.resume index
  | .ticked => line.tick
  | .changed (.wrote path content) => line.write path content
  | .changed (.removed path) => line.remove path
  | .equipped tools => { line with tools }
  | .elapsed duration => { line with now := line.now + duration }
  | .waited duration => { line with waited := line.waited + duration }.report

/-- A timeline after some events. -/
def undergoAll (line : Timeline (Tracker σ) (Stimulus σ) N) (events : List Event) :
    Timeline (Tracker σ) (Stimulus σ) N :=
  events.foldl undergo line

theorem undergo_changed (line : Timeline (Tracker σ) (Stimulus σ) N) (change : Change) :
    line.undergo (.changed change) =
      { line with files := (change.noting line.files).1 }.noteChanges (change.noting line.files).2 := by
  cases change <;> rfl

theorem undergoAll_append (line : Timeline (Tracker σ) (Stimulus σ) N) (first second : List Event) :
    line.undergoAll (first ++ second) = (line.undergoAll first).undergoAll second :=
  List.foldl_append

end Timeline

namespace Tracker

variable {σ : Type}

/-- Whether a script does nothing else than to end one task, which is at most once outstanding. -/
def Serves (backend : Backend σ) (tracker : Tracker σ) (script : Script (Stimulus σ)) : Prop :=
  ∃ task, task.id < tracker.started ∧
    (∀ other ∈ tracker.tasks, other.id = task.id → other = task) ∧
    ∀ stimulus, script.Gives stimulus →
      ∃ outcome, stimulus = .ended task.id outcome ∧ (Tracker.script backend task).Gives outcome

theorem Serves.honest {backend : Backend σ} {tracker : Tracker σ} {script : Script (Stimulus σ)}
    (serves : Serves backend tracker script) {stimulus : Stimulus σ} (gives : script.Gives stimulus) :
    Honest backend tracker stimulus := by
  obtain ⟨task, -, only, ends⟩ := serves
  obtain ⟨outcome, rfl, given⟩ := ends stimulus gives
  intro id _ other same pending
  obtain ⟨rfl, rfl⟩ := Stimulus.ended.inj same
  obtain ⟨member, own⟩ := task?_eq_some pending
  rwa [only other member own]

theorem Serves.of_gives {backend : Backend σ} {tracker : Tracker σ}
    {script rest : Script (Stimulus σ)} (serves : Serves backend tracker script)
    (gives : ∀ answer, rest.Gives answer → script.Gives answer) : Serves backend tracker rest := by
  obtain ⟨task, started, only, ends⟩ := serves
  exact ⟨task, started, only, fun stimulus given => ends stimulus (gives stimulus given)⟩

theorem serves_launched {backend : Backend σ} {before after : Tracker σ} (ordered : Ordered after)
    {script : Script (Stimulus σ)} (member : script ∈ launched backend before after) :
    Serves backend after script := by
  obtain ⟨task, new, rfl⟩ := List.mem_map.1 member
  have outstanding := (List.mem_filter.1 new).1
  refine ⟨task, ordered.started task outstanding,
    fun other otherMember same => ordered.distinct other otherMember task outstanding same, ?_⟩
  intro stimulus given
  obtain ⟨outcome, gives, rfl⟩ := Script.gives_map given
  exact ⟨outcome, rfl, gives⟩

variable [DecidableEq σ] {backend : Backend σ} {before : Tracker σ} {after : Tracker σ × Bool}
  {stimulus : Stimulus σ}

/-- A task that is new has a new number. -/
theorem tasks_of_moves (moves : Moves backend before stimulus after) :
    before.started ≤ after.1.started ∧
      ∀ task ∈ after.1.tasks, task ∈ before.tasks ∨ task.id = before.started := by
  cases moves with
  | opened directory =>
    refine ⟨Nat.le_succ _, fun task member => ?_⟩
    rcases mem_start.1 member with earlier | rfl
    · exact .inl earlier
    · exact .inr rfl
  | closed => exact ⟨Nat.le_refl _, fun _ member => .inl member⟩
  | asked =>
    refine ⟨Nat.le_succ _, fun task member => ?_⟩
    rcases mem_start.1 member with earlier | rfl
    · exact .inl earlier
    · exact .inr rfl
  | unasked => exact ⟨Nat.le_refl _, fun _ member => .inl member⟩
  | attached => exact ⟨Nat.le_refl _, fun _ member => .inl (mem_drop.1 member).1⟩
  | applied => exact ⟨Nat.le_refl _, fun _ member => .inl (mem_drop.1 member).1⟩
  | discarded => exact ⟨Nat.le_refl _, fun _ member => .inl (mem_drop.1 member).1⟩

theorem Serves.of_moves {script : Script (Stimulus σ)} (serves : Serves backend before script)
    (moves : Moves backend before stimulus after) : Serves backend after.1 script := by
  obtain ⟨task, started, only, ends⟩ := serves
  obtain ⟨counted, new⟩ := tasks_of_moves moves
  refine ⟨task, Nat.lt_of_lt_of_le started counted, fun other member same => ?_, ends⟩
  rcases new other member with earlier | fresh
  · exact only other earlier same
  · omega

/-- Only a repository that is held is watched. -/
theorem bound_of_moves (watched : before.watcher.isSome → before.bound.isSome)
    (moves : Moves backend before stimulus after) :
    (after.1.watcher.isSome → after.1.bound.isSome) ∧
      (stimulus.switches = false → before.bound.isSome → after.1.bound.isSome) := by
  cases moves with
  | opened => exact ⟨nofun, nofun⟩
  | closed => exact ⟨nofun, nofun⟩
  | asked => exact ⟨watched, fun _ => id⟩
  | unasked => exact ⟨watched, fun _ => id⟩
  | attached => exact ⟨fun _ => rfl, fun _ _ => rfl⟩
  | applied =>
    refine ⟨fun watching => ?_, fun _ bound => ?_⟩
    · rw [Option.isSome_map]
      exact watched watching
    · rwa [Option.isSome_map]
  | discarded => exact ⟨watched, fun _ => id⟩

/-- What is watched stays the same while a repository is held. -/
theorem Holding.watchers_of_moves {discovering : Task} {program : Path} {discovery : Discovery}
    {snapshot : σ} (holding : Holding discovering program discovery snapshot before)
    (stays : stimulus.switches = false) (moves : Moves backend before stimulus after) (quiet : ℕ) :
    watchers backend quiet after.1 = watchers backend quiet before := by
  cases moves with
  | opened => contradiction
  | closed => contradiction
  | attached pending work current => exact (holding.work_ne_discovery pending current work).elim
  | _ => rfl

omit [DecidableEq σ] in
theorem Phased.holding {tracker : Tracker σ} (phased : Phased tracker)
    (bound : tracker.bound.isSome) :
    ∃ discovering program discovery snapshot,
      Holding discovering program discovery snapshot tracker := by
  rcases phased with unbound | ⟨_, searching⟩ | holding
  · rw [unbound.bound] at bound
    contradiction
  · rw [searching.bound] at bound
    contradiction
  · exact holding

end Tracker

end TitleBar
