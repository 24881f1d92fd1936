import TitleBar.Proofs.Repository.Binding

/-! # Readings in the order of their start

A tracker numbers its readings. The one that was started last is still to end, or it is the one that
is shown: no reading that was started before takes its place, and its own outcome is never discarded
while its repository is held.
-/

namespace TitleBar

variable {σ : Type}

/-- The number of a reading. -/
def Work.ticket? : Work → Option ℕ
  | .reading ticket _ _ => some ticket
  | .discovery _ => none

/-- The answers that a script can end with, whatever the host says. -/
inductive Script.Gives {α : Type} : Script α → α → Prop
  | done (answer : α) : Gives (.done answer) answer
  | look {next : Files → Script α} {answer : α} (files : Files) (rest : Gives (next files) answer) :
    Gives (.look next) answer
  | locate {program : String} {next : Option Path → Script α} {answer : α} (path : Option Path)
    (rest : Gives (next path) answer) : Gives (.locate program next) answer
  | run {command : Command} {next : Option (List String) → Script α} {answer : α}
    (output : Option (List String)) (rest : Gives (next output) answer) :
    Gives (.run command next) answer

/-- A script that goes on with the answer of another one ends with what it makes of that. -/
theorem Script.gives_bind {α β : Type} {f : α → Script β} {script : Script α} {answer : β}
    (gives : (script.bind f).Gives answer) : ∃ inner, script.Gives inner ∧ (f inner).Gives answer := by
  induction script with
  | done inner => exact ⟨inner, .done inner, gives⟩
  | look next ih =>
    obtain ⟨files, rest⟩ : ∃ files, ((next files).bind f).Gives answer := by
      cases gives with
      | look files rest => exact ⟨files, rest⟩
    obtain ⟨inner, gives, behind⟩ := ih files rest
    exact ⟨inner, .look files gives, behind⟩
  | locate program next ih =>
    obtain ⟨path, rest⟩ : ∃ path, ((next path).bind f).Gives answer := by
      cases gives with
      | locate path rest => exact ⟨path, rest⟩
    obtain ⟨inner, gives, behind⟩ := ih path rest
    exact ⟨inner, .locate path gives, behind⟩
  | run command next ih =>
    obtain ⟨output, rest⟩ : ∃ output, ((next output).bind f).Gives answer := by
      cases gives with
      | run output rest => exact ⟨output, rest⟩
    obtain ⟨inner, gives, behind⟩ := ih output rest
    exact ⟨inner, .run output gives, behind⟩

theorem Script.gives_map {α β : Type} {f : α → β} {script : Script α} {answer : β}
    (gives : (script.map f).Gives answer) : ∃ inner, script.Gives inner ∧ f inner = answer := by
  obtain ⟨inner, first, rest⟩ := gives_bind gives
  cases rest
  exact ⟨inner, first, rfl⟩

namespace Tracker

/-- A reading always ends with a snapshot. -/
theorem script_gives_read {backend : Backend σ} {task : Task} {ticket : ℕ} {outcome : Outcome σ}
    (reading : task.work.ticket? = some ticket) (gives : (script backend task).Gives outcome) :
    ∃ snapshot, outcome = .read snapshot := by
  obtain ⟨id, generation, _ | ⟨_, program, discovery⟩⟩ := task
  · contradiction
  · obtain ⟨snapshot, -, rfl⟩ := Script.gives_map gives
    exact ⟨snapshot, rfl⟩

/-- The outcome of a task, if a stimulus is one, is one that its script can end with. -/
def Honest (backend : Backend σ) (tracker : Tracker σ) (stimulus : Stimulus σ) : Prop :=
  ∀ id outcome task, stimulus = .ended id outcome → tracker.task? id = some task →
    (script backend task).Gives outcome

theorem honest_of_not_ended {backend : Backend σ} {tracker : Tracker σ} {stimulus : Stimulus σ}
    (other : ∀ id outcome, stimulus ≠ .ended id outcome) : Honest backend tracker stimulus :=
  fun id outcome _ same => (other id outcome same).elim

/-- The readings of a tracker have numbers of their own. -/
structure Numbered (tracker : Tracker σ) : Prop where
  applied : tracker.appliedTicket ≤ tracker.nextTicket
  ticket : ∀ task ∈ tracker.tasks, ∀ ticket, task.work.ticket? = some ticket →
    ticket ≤ tracker.nextTicket
  unique : ∀ first ∈ tracker.tasks, ∀ second ∈ tracker.tasks, ∀ ticket,
    first.work.ticket? = some ticket → second.work.ticket? = some ticket → first = second

/-- The reading that was started last is outstanding, and was started since a number of tasks. -/
def Awaiting (since : ℕ) (tracker : Tracker σ) : Prop :=
  tracker.appliedTicket < tracker.nextTicket ∧
    ∃ task ∈ tracker.tasks, since ≤ task.id ∧ task.generation = tracker.generation ∧
      task.work.ticket? = some tracker.nextTicket

theorem numbered_idle : Numbered (idle : Tracker σ) where
  applied := Nat.le_refl _
  ticket := nofun
  unique := nofun

theorem Numbered.of_fewer {tracker other : Tracker σ} (numbered : Numbered tracker)
    (fewer : ∀ task ∈ other.tasks, task ∈ tracker.tasks) (next : other.nextTicket = tracker.nextTicket)
    (applied : other.appliedTicket ≤ other.nextTicket) : Numbered other where
  applied := applied
  ticket task member := by
    rw [next]
    exact numbered.ticket task (fewer task member)
  unique first firstMember second secondMember :=
    numbered.unique first (fewer first firstMember) second (fewer second secondMember)

/-- Starts a reading. -/
theorem Numbered.ask {tracker : Tracker σ} (numbered : Numbered tracker) (program : Path)
    (discovery : Discovery) :
    Numbered ({ tracker with nextTicket := tracker.nextTicket + 1 }.start
      (.reading (tracker.nextTicket + 1) program discovery)) where
  applied := Nat.le_succ_of_le numbered.applied
  ticket task member ticket reading := by
    rcases mem_start.1 member with earlier | rfl
    · exact Nat.le_succ_of_le (numbered.ticket task earlier ticket reading)
    · exact Nat.le_of_eq (Option.some.inj reading).symm
  unique first firstMember second secondMember ticket firstReading secondReading := by
    rcases mem_start.1 firstMember with firstEarlier | rfl <;>
      rcases mem_start.1 secondMember with secondEarlier | rfl
    · exact numbered.unique first firstEarlier second secondEarlier ticket firstReading secondReading
    · have bound := numbered.ticket first firstEarlier ticket firstReading
      rw [← Option.some.inj secondReading] at bound
      exact (Nat.not_succ_le_self _ bound).elim
    · have bound := numbered.ticket second secondEarlier ticket secondReading
      rw [← Option.some.inj firstReading] at bound
      exact (Nat.not_succ_le_self _ bound).elim
    · rfl

/-- A reading that is started is awaited. -/
theorem Numbered.awaiting {tracker : Tracker σ} (numbered : Numbered tracker) (program : Path)
    (discovery : Discovery) :
    Awaiting tracker.started ({ tracker with nextTicket := tracker.nextTicket + 1 }.start
      (.reading (tracker.nextTicket + 1) program discovery)) :=
  ⟨Nat.lt_succ_of_le numbered.applied, _, mem_start.2 (.inr rfl), Nat.le_refl _, rfl, rfl⟩

theorem Awaiting.of_le {since earlier : ℕ} {tracker : Tracker σ} (awaiting : Awaiting since tracker)
    (le : earlier ≤ since) : Awaiting earlier tracker := by
  obtain ⟨newer, task, member, started, rest⟩ := awaiting
  exact ⟨newer, task, member, Nat.le_trans le started, rest⟩

variable [DecidableEq σ] {backend : Backend σ} {before : Tracker σ} {after : Tracker σ × Bool}
  {stimulus : Stimulus σ}

theorem Numbered.of_moves (numbered : Numbered before) (moves : Moves backend before stimulus after) :
    Numbered after.1 := by
  cases moves with
  | opened directory =>
    refine ⟨numbered.applied, fun task member ticket reading => ?_,
      fun first firstMember second secondMember ticket firstReading secondReading => ?_⟩
    · rcases mem_start.1 member with earlier | rfl
      · exact numbered.ticket task earlier ticket reading
      · contradiction
    · rcases mem_start.1 firstMember with firstEarlier | rfl
      · rcases mem_start.1 secondMember with secondEarlier | rfl
        · exact numbered.unique first firstEarlier second secondEarlier ticket firstReading secondReading
        · contradiction
      · contradiction
  | closed => exact numbered.of_fewer (fun _ member => member) rfl numbered.applied
  | asked => exact numbered.ask _ _
  | unasked => exact numbered
  | attached =>
    exact numbered.of_fewer (fun _ member => (mem_drop.1 member).1) rfl numbered.applied
  | applied pending work =>
    refine numbered.of_fewer (fun _ member => (mem_drop.1 member).1) rfl ?_
    exact numbered.ticket _ (task?_eq_some pending).1 _ (by rw [work]; rfl)
  | discarded =>
    exact numbered.of_fewer (fun _ member => (mem_drop.1 member).1) rfl numbered.applied

theorem numbered_run (backend : Backend σ) (stimuli : List (Stimulus σ)) :
    Numbered (idle.run backend stimuli) := by
  induction stimuli using List.reverseRecOn with
  | nil => exact numbered_idle
  | append_singleton stimuli last ih =>
    rw [run_concat]
    exact ih.of_moves (step_moves backend _ last)

/-- As long as the solution stays, readings are all that is started. -/
theorem Numbered.started_of_moves (numbered : Numbered before) (stays : stimulus.switches = false)
    (moves : Moves backend before stimulus after) :
    after.1.started = before.started ∨
      Awaiting before.started after.1 ∧ after.1.bound.isSome := by
  cases moves with
  | opened => contradiction
  | closed => contradiction
  | asked _ _ held =>
    refine .inr ⟨numbered.awaiting _ _, ?_⟩
    rw [Option.isSome_iff_exists]
    exact ⟨_, held⟩
  | unasked => exact .inl rfl
  | attached => exact .inl rfl
  | applied => exact .inl rfl
  | discarded => exact .inl rfl

/-- The reading that was started last is shown as soon as it ends. -/
theorem Awaiting.of_moves {since : ℕ} (awaiting : Awaiting since before) (ordered : Ordered before)
    (numbered : Numbered before) (bound : before.bound.isSome) (honest : Honest backend before stimulus)
    (stays : stimulus.switches = false) (moves : Moves backend before stimulus after) :
    Awaiting since after.1 ∨ ∃ task snapshot, stimulus = .ended task.id (.read snapshot) ∧
      task ∈ before.tasks ∧ since ≤ task.id ∧ task.work.ticket?.isSome ∧
      after.1.appliedTicket = after.1.nextTicket ∧ after.1.snapshot backend = snapshot := by
  obtain ⟨newer, awaited, member, started, generation, reading⟩ := awaiting
  have kept {id : ℕ} (other : id ≠ awaited.id) : awaited ∈ (before.drop id).tasks :=
    mem_drop.2 ⟨member, Ne.symm other⟩
  cases moves with
  | opened => contradiction
  | closed => contradiction
  | asked =>
    exact .inl ((numbered.awaiting _ _).of_le
      (Nat.le_trans started (Nat.le_of_lt (ordered.started awaited member))))
  | unasked => exact .inl ⟨newer, awaited, member, started, generation, reading⟩
  | @attached task _ _ _ _ _ pending work =>
    -- A discovery is no reading.
    have other : task.id ≠ awaited.id := by
      intro same
      rw [ordered.distinct task (task?_eq_some pending).1 awaited member same] at work
      rw [work] at reading
      contradiction
    exact .inl ⟨newer, awaited, kept other, started, generation, reading⟩
  | @applied task ticket program discovery snapshot pending work =>
    have pendingReading : task.work.ticket? = some ticket := by rw [work]; rfl
    have pendingMember := (task?_eq_some pending).1
    by_cases latest : ticket = before.nextTicket
    · right
      subst latest
      obtain rfl := numbered.unique _ pendingMember _ member _ pendingReading reading
      refine ⟨task, snapshot, rfl, member, started, ?_, rfl, ?_⟩
      · rw [reading]
        rfl
      · obtain ⟨bound, held⟩ := Option.isSome_iff_exists.1 bound
        simp only [Tracker.snapshot, held, Option.map_some]
    · left
      have other : task.id ≠ awaited.id := by
        intro same
        rw [ordered.distinct task pendingMember awaited member same] at pendingReading
        exact latest (Option.some.inj (pendingReading.symm.trans reading))
      have earlier := numbered.ticket task pendingMember ticket pendingReading
      exact ⟨Nat.lt_of_le_of_ne earlier latest, awaited, kept other, started, generation, reading⟩
  | @discarded id outcome vain =>
    left
    have other : id ≠ awaited.id := by
      rintro rfl
      have pending := ordered.task?_eq_some member
      obtain ⟨snapshot, rfl⟩ := script_gives_read reading (honest _ _ awaited rfl pending)
      refine vain awaited pending ?_
      rcases work : awaited.work with _ | ⟨ticket, program, discovery⟩
      · rw [work] at reading
        contradiction
      · rw [work] at reading
        obtain rfl := Option.some.inj reading
        exact ⟨_, program, discovery, work, generation, newer⟩
    exact ⟨newer, awaited, kept other, started, generation, reading⟩

/-- What is shown stays if no other reading is awaited. -/
theorem Holding.settled_of_moves {discovering : Task} {program : Path} {discovery : Discovery}
    {snapshot : σ} (holding : Holding discovering program discovery snapshot before)
    (numbered : Numbered before) (latest : before.appliedTicket = before.nextTicket)
    (stays : stimulus.switches = false) (moves : Moves backend before stimulus after) :
    Awaiting before.started after.1 ∨ after.1.appliedTicket = after.1.nextTicket ∧
      after.1.snapshot backend = before.snapshot backend := by
  cases moves with
  | opened => contradiction
  | closed => contradiction
  | asked => exact .inl (numbered.awaiting _ _)
  | unasked => exact .inr ⟨latest, rfl⟩
  | attached pending work current => exact (holding.work_ne_discovery pending current work).elim
  | @applied task ticket _ _ _ pending work _ newer =>
    have := numbered.ticket task (task?_eq_some pending).1 ticket (by rw [work]; rfl)
    omega
  | discarded => exact .inr ⟨latest, rfl⟩

end Tracker

end TitleBar
