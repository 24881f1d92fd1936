import TitleBar.Proofs.Repository.Binding
import TitleBar.Repository.Machine

/-! # Notices of a tracker are its visible changes

What can be seen of a tracker is the repository that it is bound to, with its last reading. Every step
that changes this makes one notice, and a step that leaves it alone makes none. So nothing is told of a
reading that comes too late or finds nothing new, of a discovery that fails, and of anything that ends
between a closing and the next opening.
-/

namespace TitleBar.Tracker

variable {σ : Type} [DecidableEq σ] {backend : Backend σ} {tracker : Tracker σ}
  {stimulus : Stimulus σ} {after : Tracker σ × Bool}

theorem phased_run (backend : Backend σ) (stimuli : List (Stimulus σ)) :
    Phased (idle.run backend stimuli) := by
  induction stimuli using List.reverseRecOn with
  | nil => exact .inl ⟨rfl, nofun⟩
  | append_singleton stimuli last ih =>
    rw [run_concat]
    exact ih.of_moves (ordered_run backend stimuli) (step_moves backend _ last)

omit [DecidableEq σ] in
/-- A discovery that still counts has nothing to replace. -/
theorem Phased.bound_eq_none (phased : Phased tracker) {task : Task} {start : Path}
    (pending : tracker.task? task.id = some task) (work : task.work = .discovery start)
    (current : task.generation = tracker.generation) : tracker.bound = none := by
  rcases phased with unbound | ⟨_, searching⟩ | ⟨_, _, _, _, holding⟩
  · exact unbound.bound
  · exact searching.bound
  · exact (holding.work_ne_discovery pending current work).elim

/-- A move is a change exactly if it can be seen. -/
theorem Phased.changed_iff (phased : Phased tracker) (moves : Moves backend tracker stimulus after) :
    after.2 = true ↔ after.1.bound ≠ tracker.bound := by
  cases moves with
  | opened | closed =>
    change tracker.bound.isSome = true ↔ none ≠ tracker.bound
    rw [Option.isSome_iff_ne_none, ne_comm]
  | asked | unasked | discarded =>
    change false = true ↔ tracker.bound ≠ tracker.bound
    simp
  | attached pending work current =>
    rw [phased.bound_eq_none pending work current]
    exact iff_of_true rfl (Option.some_ne_none _)
  | applied =>
    rcases tracker.bound with _ | ⟨discovery, last⟩
    · simp
    · simp only [Option.any_some, decide_eq_true_eq, Option.map_some, ne_eq, Option.some.injEq,
        Bound.mk.injEq, true_and]
      exact not_congr eq_comm

/-- The notices of a step, as long as a tracker is bound only by the discoveries that it waits for. -/
theorem Phased.notices_eq (phased : Phased tracker) (backend : Backend σ) (quiet : ℕ) (files : Files)
    (stimulus : Stimulus σ) :
    ((machine backend quiet).step files tracker stimulus).2 =
      if ((machine backend quiet).step files tracker stimulus).1.bound = tracker.bound then []
      else [backend.name] := by
  have seen := phased.changed_iff (step_moves backend tracker stimulus)
  change (if (tracker.step backend stimulus).2 = true then _ else _) =
    if (tracker.step backend stimulus).1.bound = tracker.bound then _ else _
  simp only [seen, ne_eq, ite_not]

/-- The outcomes that do not matter any more when their task ends. -/
inductive Futile (tracker : Tracker σ) (task : Task) : Outcome σ → Prop
  /-- The task belongs to a former generation. -/
  | stale {outcome : Outcome σ} (former : task.generation ≠ tracker.generation) :
    Futile tracker task outcome
  /-- A reading that was started later has been applied before. -/
  | overtaken {outcome : Outcome σ} {ticket : ℕ} {program : Path} {discovery : Discovery}
    (work : task.work = .reading ticket program discovery) (late : ticket ≤ tracker.appliedTicket) :
    Futile tracker task outcome
  /-- The reading is equal to the one that is shown. -/
  | equal {discovery : Discovery} {snapshot : σ}
    (shown : tracker.bound = some ⟨discovery, snapshot⟩) : Futile tracker task (.read snapshot)
  /-- No repository was found. -/
  | failed : Futile tracker task .nothing

theorem Futile.bound_of_moves {task : Task} {outcome : Outcome σ}
    (futile : Futile tracker task outcome) (pending : tracker.task? task.id = some task)
    (moves : Moves backend tracker (.ended task.id outcome) after) :
    after.1.bound = tracker.bound := by
  generalize ends : Stimulus.ended task.id outcome = stimulus at moves
  cases moves with
  | opened | closed => contradiction
  | asked | unasked | discarded => rfl
  | @attached other start program discovery snapshot watching found work current =>
    obtain ⟨same, rfl⟩ := Stimulus.ended.inj ends
    rw [← same] at found
    obtain rfl := Option.some.inj (pending.symm.trans found)
    cases futile with
    | stale former => exact (former current).elim
    | overtaken reading =>
      rw [reading] at work
      contradiction
  | @applied other ticket program discovery snapshot found work current newer =>
    obtain ⟨same, rfl⟩ := Stimulus.ended.inj ends
    rw [← same] at found
    obtain rfl := Option.some.inj (pending.symm.trans found)
    cases futile with
    | stale former => exact (former current).elim
    | overtaken reading late =>
      obtain ⟨rfl, -, -⟩ := Work.reading.inj (reading.symm.trans work)
      exact (Nat.not_lt.2 late newer).elim
    | equal shown => simp [shown]

/-- From a closing to the next opening, nothing can give a repository. -/
theorem Unbound.of_unopened (unbound : Unbound tracker) (ordered : Ordered tracker)
    (unopened : ∀ directory, stimulus ≠ .opened directory)
    (moves : Moves backend tracker stimulus after) : Unbound after.1 := by
  rcases switches : stimulus.switches with _ | _
  · exact unbound.of_moves switches moves
  · cases moves with
    | opened directory => exact (unopened directory rfl).elim
    | closed => exact ordered.unbound
    | asked asks | unasked asks => cases stimulus <;> contradiction
    | attached | applied | discarded => contradiction

theorem unbound_of_closed (backend : Backend σ) {former later : List (Stimulus σ)}
    (unopened : ∀ directory, .opened directory ∉ later) :
    Unbound (idle.run backend (former ++ .closed :: later)) := by
  induction later using List.reverseRecOn with
  | nil =>
    rw [run_concat]
    exact (ordered_run backend former).unbound
  | append_singleton later last ih =>
    simp only [List.mem_append, List.mem_singleton, not_or, forall_and] at unopened
    rw [← List.cons_append, ← List.append_assoc, run_concat]
    exact (ih unopened.1).of_unopened (ordered_run backend _) (fun directory same =>
      unopened.2 directory same.symm) (step_moves backend _ last)

/-- In every run of a tracker, a step makes one notice if it changes the repository that the tracker is
bound to, or the reading that it shows, and otherwise none. None is made when a task ends with an
outcome that does not matter any more, nor by anything from a closing to the next opening. -/
theorem notices_iff_visible (backend : Backend σ) (quiet : ℕ) (files : Files)
    (stimuli : List (Stimulus σ)) (stimulus : Stimulus σ) :
    let before := idle.run backend stimuli
    let after := ((machine backend quiet).step files before stimulus).1
    let notices := ((machine backend quiet).step files before stimulus).2
    notices = (if after.bound = before.bound then [] else [backend.name]) ∧
      (∀ task outcome, stimulus = .ended task.id outcome → before.task? task.id = some task →
        Futile before task outcome → notices = []) ∧
      (∀ former later, stimuli = former ++ .closed :: later →
        (∀ directory, .opened directory ∉ later ++ [stimulus]) → notices = []) := by
  intro before after notices
  have told : notices = if after.bound = before.bound then [] else [backend.name] :=
    (phased_run backend stimuli).notices_eq backend quiet files stimulus
  refine ⟨told, ?_, ?_⟩
  · rintro task outcome rfl pending futile
    have kept : after.bound = before.bound := futile.bound_of_moves pending (step_moves backend _ _)
    rw [told, if_pos kept]
  · rintro former later rfl unopened
    have without : Unbound before := unbound_of_closed backend fun directory member =>
      unopened directory (List.mem_append_left _ member)
    have still : Unbound after := without.of_unopened (ordered_run backend _)
      (fun directory same => unopened directory (by simp [same])) (step_moves backend _ _)
    rw [told, if_pos (still.bound.trans without.bound.symm)]

/-- Two readings are asked for, and the second one ends first. -/
def crossing : List (Stimulus Subversion.State) :=
  [.opened ⟨"/w"⟩, .ended 0 (.found ⟨"/bin/svn"⟩ ⟨⟨"/w"⟩, none, none⟩ ⟨"svn://first"⟩ false),
    .refresh, .refresh, .ended 2 (.read ⟨"svn://third"⟩)]

/-- The second reading is told of. The first one is overtaken when it ends, and all is quiet when it
ends behind a closing. -/
theorem notices_of_crossing :
    let step := (machine Subversion.backend quietPeriod).step ⟨[]⟩
    (step (idle.run Subversion.backend (crossing.take 4)) (.ended 2 (.read ⟨"svn://third"⟩))).2 =
        ["svn"] ∧
      (step (idle.run Subversion.backend crossing) (.ended 1 (.read ⟨"svn://second"⟩))).2 = [] ∧
      (step (idle.run Subversion.backend (crossing ++ [.closed]))
        (.ended 1 (.read ⟨"svn://second"⟩))).2 = [] := by
  refine ⟨(notices_iff_visible ..).1, ?_, ?_⟩
  · exact (notices_iff_visible Subversion.backend _ _ crossing _).2.1
      ⟨1, 2, .reading 1 ⟨"/bin/svn"⟩ ⟨⟨"/w"⟩, none, none⟩⟩ _ rfl rfl (.overtaken rfl (by decide))
  · exact (notices_iff_visible Subversion.backend _ _ _ _).2.2 crossing [] rfl (by simp)

end TitleBar.Tracker
