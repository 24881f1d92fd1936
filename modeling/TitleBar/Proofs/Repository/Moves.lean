import TitleBar.Repository.Tracker
import Mathlib.Tactic.Common

/-! # What a step of a tracker does

Every step of a tracker is one of seven moves. Later proofs take a step apart by its move and do not
look at how the step is computed.
-/

namespace TitleBar

variable {σ : Type}

/-- The generation that a stimulus asks a reading for, given the current one. -/
def Stimulus.asks? (current : ℕ) : Stimulus σ → Option ℕ
  | .refresh => some current
  | .nudge generation => some generation
  | _ => none

/-- Whether a stimulus opens or closes a solution. -/
def Stimulus.switches : Stimulus σ → Bool
  | .opened _ | .closed => true
  | _ => false

namespace Tracker

/-- The task of an id that has not ended. -/
def task? (tracker : Tracker σ) (id : ℕ) : Option Task := tracker.tasks.find? (·.id == id)

/-- Whether the outcome of a task still has an effect. -/
def Takes (tracker : Tracker σ) (task : Task) : Outcome σ → Prop
  | .found _ _ _ _ => (∃ start, task.work = .discovery start) ∧ task.generation = tracker.generation
  | .read _ => ∃ ticket program discovery, task.work = .reading ticket program discovery ∧
      task.generation = tracker.generation ∧ tracker.appliedTicket < ticket
  | .nothing => False

/-- The ways of a step: the stimulus, the tracker afterwards, and whether that is a change. -/
inductive Moves [DecidableEq σ] (backend : Backend σ) (tracker : Tracker σ) :
    Stimulus σ → Tracker σ × Bool → Prop
  | opened (directory : Path) :
    Moves backend tracker (.opened directory) (tracker.unbind.bind directory, tracker.bound.isSome)
  | closed : Moves backend tracker .closed (tracker.unbind, tracker.bound.isSome)
  /-- A reading is started. -/
  | asked {stimulus : Stimulus σ} {program : Path} {bound : Bound σ}
    (asks : stimulus.asks? tracker.generation = some tracker.generation)
    (located : tracker.program = some program) (held : tracker.bound = some bound) :
    Moves backend tracker stimulus
      ({ tracker with nextTicket := tracker.nextTicket + 1 }.start
        (.reading (tracker.nextTicket + 1) program bound.discovery), false)
  /-- A reading is asked for by a former generation, or without a repository. -/
  | unasked {stimulus : Stimulus σ} {generation : ℕ}
    (asks : stimulus.asks? tracker.generation = some generation)
    (missing : tracker.program = none ∨ tracker.bound = none ∨ tracker.generation ≠ generation) :
    Moves backend tracker stimulus (tracker, false)
  | attached {task : Task} {start program : Path} {discovery : Discovery} {snapshot : σ}
    {watching : Bool} (pending : tracker.task? task.id = some task)
    (work : task.work = .discovery start) (current : task.generation = tracker.generation) :
    Moves backend tracker (.ended task.id (.found program discovery snapshot watching))
      ({ tracker.drop task.id with
          program := some program
          bound := some ⟨discovery, snapshot⟩
          watcher := if watching then discovery.watch else none
          poller := backend.polls }, true)
  | applied {task : Task} {ticket : ℕ} {program : Path} {discovery : Discovery} {snapshot : σ}
    (pending : tracker.task? task.id = some task)
    (work : task.work = .reading ticket program discovery)
    (current : task.generation = tracker.generation) (newer : tracker.appliedTicket < ticket) :
    Moves backend tracker (.ended task.id (.read snapshot))
      ({ tracker.drop task.id with
          appliedTicket := ticket
          bound := tracker.bound.map fun bound => { bound with snapshot } },
        tracker.bound.any fun bound => bound.snapshot ≠ snapshot)
  | discarded {id : ℕ} {outcome : Outcome σ}
    (vain : ∀ task, tracker.task? id = some task → ¬tracker.Takes task outcome) :
    Moves backend tracker (.ended id outcome) (tracker.drop id, false)

theorem task?_eq_some {tracker : Tracker σ} {id : ℕ} {task : Task}
    (found : tracker.task? id = some task) : task ∈ tracker.tasks ∧ task.id = id :=
  ⟨List.mem_of_find?_eq_some found, by simpa using List.find?_some found⟩

theorem drop_of_task?_eq_none {tracker : Tracker σ} {id : ℕ} (none : tracker.task? id = none) :
    tracker.drop id = tracker := by
  have kept : tracker.tasks.filter (·.id != id) = tracker.tasks := by
    rw [List.filter_eq_self]
    intro task member
    have other := List.find?_eq_none.1 none task member
    simpa using other
  rw [drop, kept]

theorem task?_drop (tracker : Tracker σ) {id other : ℕ} (different : other ≠ id) :
    (tracker.drop other).task? id = tracker.task? id := by
  rw [task?, drop, List.find?_filter, task?]
  congr 1
  funext task
  by_cases same : task.id = id
  · simp [same, Ne.symm different]
  · simp [same]

theorem refresh_moves [DecidableEq σ] {backend : Backend σ} {tracker : Tracker σ}
    {stimulus : Stimulus σ} {generation : ℕ}
    (asks : stimulus.asks? tracker.generation = some generation) :
    Moves backend tracker stimulus (tracker.refresh generation, false) := by
  rw [refresh]
  split
  · rename_i program bound located held
    split
    · rename_i current
      subst current
      exact .asked asks located held
    · rename_i former
      exact .unasked asks (.inr (.inr former))
  · rename_i incomplete
    refine .unasked asks ?_
    rcases located : tracker.program with _ | program
    · exact .inl rfl
    rcases held : tracker.bound with _ | bound
    · exact .inr (.inl rfl)
    exact (incomplete program bound located held).elim

/-- A reading that is not late replaces the last one. -/
theorem apply_of_newer [DecidableEq σ] {tracker : Tracker σ} {generation ticket : ℕ} (snapshot : σ)
    (current : tracker.generation = generation) (newer : tracker.appliedTicket < ticket) :
    tracker.apply generation ticket snapshot =
      ({ tracker with
          appliedTicket := ticket
          bound := tracker.bound.map fun bound => { bound with snapshot } },
        tracker.bound.any fun bound => bound.snapshot ≠ snapshot) := by
  rw [apply, if_neg (not_or.2 ⟨not_not.2 current, Nat.not_le.2 newer⟩)]
  rcases held : tracker.bound with _ | ⟨discovery, last⟩
  · rfl
  · by_cases same : last = snapshot <;> simp [same]

theorem finish_moves [DecidableEq σ] (backend : Backend σ) (tracker : Tracker σ) (id : ℕ)
    (outcome : Outcome σ) :
    Moves backend tracker (.ended id outcome) (tracker.finish backend id outcome) := by
  rcases pending : tracker.task? id with _ | task
  · have vain : ∀ task, tracker.task? id = some task → ¬tracker.Takes task outcome := by
      rw [pending]
      exact nofun
    have move : Moves backend tracker (.ended id outcome) (tracker.drop id, false) := .discarded vain
    rw [drop_of_task?_eq_none pending] at move
    rwa [finish, show tracker.tasks.find? (·.id == id) = none from pending]
  have discarded (vain : ¬tracker.Takes task outcome) :
      Moves backend tracker (.ended id outcome) (tracker.drop id, false) :=
    .discarded fun other found => Option.some.inj (pending.symm.trans found) ▸ vain
  obtain ⟨-, rfl⟩ := task?_eq_some pending
  rw [finish, show tracker.tasks.find? (·.id == task.id) = some task from pending]
  rcases work : task.work with start | ⟨ticket, program, discovery⟩
  · cases outcome with
    | found program discovery snapshot watching =>
      simp only [work, attach]
      split
      · rename_i current
        exact .attached pending work current.symm
      · rename_i former
        exact discarded fun takes => former takes.2.symm
    | nothing =>
      simp only [work]
      exact discarded id
    | read snapshot =>
      simp only [work]
      exact discarded fun takes => by simp [Takes, work] at takes
  · cases outcome with
    | found =>
      simp only [work]
      exact discarded fun takes => by simp [Takes, work] at takes
    | nothing =>
      simp only [work]
      exact discarded id
    | read snapshot =>
      simp only [work]
      by_cases late : (tracker.drop task.id).generation ≠ task.generation ∨
        ticket ≤ (tracker.drop task.id).appliedTicket
      · rw [apply, if_pos late]
        refine discarded fun takes => ?_
        obtain ⟨_, _, _, same, current, newer⟩ := takes
        obtain ⟨rfl, -, -⟩ := Work.reading.inj (work.symm.trans same)
        rcases late with former | late
        · exact former current.symm
        · exact Nat.not_lt.2 late newer
      · obtain ⟨former, newer⟩ := not_or.1 late
        rw [apply_of_newer snapshot (not_not.1 former) (Nat.not_le.1 newer)]
        exact .applied pending work (not_not.1 former).symm (Nat.not_le.1 newer)

/-- Every step is a move. -/
theorem step_moves [DecidableEq σ] (backend : Backend σ) (tracker : Tracker σ)
    (stimulus : Stimulus σ) :
    Moves backend tracker stimulus (tracker.step backend stimulus) := by
  cases stimulus with
  | opened directory => exact .opened directory
  | closed => exact .closed
  | refresh => exact refresh_moves rfl
  | nudge generation => exact refresh_moves rfl
  | ended id outcome => exact finish_moves backend tracker id outcome

theorem run_append [DecidableEq σ] (backend : Backend σ) (tracker : Tracker σ)
    (first second : List (Stimulus σ)) :
    tracker.run backend (first ++ second) = (tracker.run backend first).run backend second :=
  List.foldl_append

theorem run_concat [DecidableEq σ] (backend : Backend σ) (tracker : Tracker σ)
    (stimuli : List (Stimulus σ)) (last : Stimulus σ) :
    tracker.run backend (stimuli ++ [last]) =
      ((tracker.run backend stimuli).step backend last).1 :=
  run_append backend tracker stimuli [last]

end Tracker

end TitleBar
