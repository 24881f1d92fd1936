import TitleBar.Proofs.Repository.Moves
import TitleBar.Repository.Subversion
import Mathlib.Data.List.Induction

/-! # The repository of the latest opening

A tracker is bound exactly while a solution is open whose own discovery found a repository. What it
then shows stems from that discovery and from readings that were started after the opening, however
the tasks of former openings end.

The proof follows a run from its last opening or closing on. The generation does not change from there
on, and no task that was started before belongs to it.
-/

namespace TitleBar.Tracker

variable {σ : Type}

/-- The tasks of a tracker are numbered, and belong to its generations so far. -/
structure Ordered (tracker : Tracker σ) : Prop where
  started : ∀ task ∈ tracker.tasks, task.id < tracker.started
  generation : ∀ task ∈ tracker.tasks, task.generation ≤ tracker.generation
  distinct : ∀ first ∈ tracker.tasks, ∀ second ∈ tracker.tasks, first.id = second.id → first = second

/-- A tracker without a repository that none of its tasks can give one. -/
structure Unbound (tracker : Tracker σ) : Prop where
  bound : tracker.bound = none
  former : ∀ task ∈ tracker.tasks, task.generation ≠ tracker.generation

/-- A tracker whose only task of its generation is the discovery that an opening started. -/
structure Searching (discovering : Task) (tracker : Tracker σ) : Prop where
  generation : discovering.generation = tracker.generation
  discovery : ∃ start, discovering.work = .discovery start
  started : discovering.id < tracker.started
  pending : tracker.task? discovering.id = some discovering
  bound : tracker.bound = none
  only : ∀ task ∈ tracker.tasks, task.id = discovering.id ∨ task.generation = tracker.generation →
    task = discovering

/-- A tracker that is bound to what a discovery found. -/
structure Holding (discovering : Task) (program : Path) (discovery : Discovery) (snapshot : σ)
    (tracker : Tracker σ) : Prop where
  started : discovering.id < tracker.started
  located : tracker.program = some program
  bound : tracker.bound = some ⟨discovery, snapshot⟩
  readings : ∀ task ∈ tracker.tasks, task.generation = tracker.generation →
    discovering.id < task.id ∧ ∃ ticket, task.work = .reading ticket program discovery

theorem mem_start {tracker : Tracker σ} {work : Work} {task : Task} :
    task ∈ (tracker.start work).tasks ↔
      task ∈ tracker.tasks ∨ task = ⟨tracker.started, tracker.generation, work⟩ := by
  simp [start]

theorem mem_drop {tracker : Tracker σ} {id : ℕ} {task : Task} :
    task ∈ (tracker.drop id).tasks ↔ task ∈ tracker.tasks ∧ task.id ≠ id := by
  simp [drop]

/-- The outcome of a task in a list of stimuli. The task is gone once it has ended, so only its first
end counts. -/
def outcomeOf? (id : ℕ) (stimuli : List (Stimulus σ)) : Option (Outcome σ) :=
  stimuli.findSome? fun
    | .ended task outcome => if task = id then some outcome else none
    | _ => none

theorem outcomeOf?_append (id : ℕ) (first second : List (Stimulus σ)) :
    outcomeOf? id (first ++ second) = (outcomeOf? id first).or (outcomeOf? id second) :=
  List.findSome?_append

theorem ordered_idle : Ordered (idle : Tracker σ) where
  started := nofun
  generation := nofun
  distinct := nofun

theorem Ordered.of_same {tracker other : Tracker σ} (ordered : Ordered tracker)
    (tasks : other.tasks = tracker.tasks) (started : other.started = tracker.started)
    (generation : tracker.generation ≤ other.generation) : Ordered other where
  started := by
    rw [tasks, started]
    exact ordered.started
  generation := by
    rw [tasks]
    exact fun task member => Nat.le_trans (ordered.generation task member) generation
  distinct := by
    rw [tasks]
    exact ordered.distinct

theorem Ordered.start {tracker : Tracker σ} (ordered : Ordered tracker) (work : Work) :
    Ordered (tracker.start work) where
  started task member := by
    rcases mem_start.1 member with earlier | rfl
    · exact Nat.lt_succ_of_lt (ordered.started task earlier)
    · exact Nat.lt_succ_self _
  generation task member := by
    rcases mem_start.1 member with earlier | rfl
    · exact ordered.generation task earlier
    · exact Nat.le_refl _
  distinct first firstMember second secondMember same := by
    rcases mem_start.1 firstMember with firstEarlier | rfl <;>
      rcases mem_start.1 secondMember with secondEarlier | rfl
    · exact ordered.distinct first firstEarlier second secondEarlier same
    · exact (Nat.ne_of_lt (ordered.started first firstEarlier) same).elim
    · exact (Nat.ne_of_gt (ordered.started second secondEarlier) same).elim
    · rfl

theorem Ordered.drop {tracker : Tracker σ} (ordered : Ordered tracker) (id : ℕ) :
    Ordered (tracker.drop id) where
  started task member := ordered.started task (mem_drop.1 member).1
  generation task member := ordered.generation task (mem_drop.1 member).1
  distinct first firstMember second secondMember :=
    ordered.distinct first (mem_drop.1 firstMember).1 second (mem_drop.1 secondMember).1

theorem Ordered.task?_eq_some {tracker : Tracker σ} (ordered : Ordered tracker) {task : Task}
    (member : task ∈ tracker.tasks) : tracker.task? task.id = some task := by
  rcases found : tracker.task? task.id with _ | other
  · have other := List.find?_eq_none.1 found task member
    simp at other
  · obtain ⟨otherMember, same⟩ := Tracker.task?_eq_some found
    rw [ordered.distinct other otherMember task member same]

/-- A new generation has no tasks. -/
theorem Ordered.former {tracker : Tracker σ} (ordered : Ordered tracker) {generation : ℕ}
    (newer : tracker.generation < generation) :
    ∀ task ∈ tracker.tasks, task.generation ≠ generation := by
  intro task member same
  have := ordered.generation task member
  omega

theorem Ordered.unbind {tracker : Tracker σ} (ordered : Ordered tracker) :
    Ordered tracker.unbind :=
  ordered.of_same rfl rfl (Nat.le_succ _)

/-- A closing leaves nothing behind that could give a repository. -/
theorem Ordered.unbound {tracker : Tracker σ} (ordered : Ordered tracker) :
    Unbound tracker.unbind where
  bound := rfl
  former := ordered.former (Nat.lt_succ_self _)

theorem Ordered.bind {tracker : Tracker σ} (ordered : Ordered tracker) (directory : Path) :
    Ordered (tracker.bind directory) := by
  have renewed : Ordered { tracker with generation := tracker.generation + 1 } :=
    ordered.of_same rfl rfl (Nat.le_succ _)
  exact renewed.start _

/-- The task that finds the repository of an opening. -/
def discovering (tracker : Tracker σ) (directory : Path) : Task :=
  ⟨tracker.started, tracker.generation + 2, .discovery directory⟩

/-- An opening starts a discovery, and nothing else is left that belongs to its generation. -/
theorem Ordered.searching {tracker : Tracker σ} (ordered : Ordered tracker) (directory : Path) :
    Searching (tracker.discovering directory) (tracker.unbind.bind directory) where
  generation := rfl
  discovery := ⟨directory, rfl⟩
  started := Nat.lt_succ_self _
  pending := by
    have unused : tracker.tasks.find? (·.id == tracker.started) = none := by
      rw [List.find?_eq_none]
      intro task member
      have := ordered.started task member
      simp only [beq_iff_eq]
      omega
    have tasks : (tracker.unbind.bind directory).tasks =
      tracker.tasks ++ [tracker.discovering directory] := rfl
    rw [task?, tasks, List.find?_append, discovering, unused]
    simp
  bound := rfl
  only task member same := by
    rcases mem_start.1 member with earlier | rfl
    · have := ordered.started task earlier
      have := ordered.generation task earlier
      rcases same with same | same
      · exact (Nat.ne_of_lt (ordered.started task earlier) same).elim
      · exact (ordered.former (Nat.lt_add_of_pos_right Nat.two_pos) task earlier same).elim
    · rfl

variable [DecidableEq σ] {backend : Backend σ} {before : Tracker σ} {after : Tracker σ × Bool}
  {stimulus : Stimulus σ}

theorem Ordered.of_moves (ordered : Ordered before) (moves : Moves backend before stimulus after) :
    Ordered after.1 := by
  cases moves with
  | opened directory => exact ordered.unbind.bind directory
  | closed => exact ordered.unbind
  | asked =>
    have counted : Ordered { before with nextTicket := before.nextTicket + 1 } :=
      ordered.of_same rfl rfl (Nat.le_refl _)
    exact counted.start _
  | unasked => exact ordered
  | @attached task => exact (ordered.drop task.id).of_same rfl rfl (Nat.le_refl _)
  | @applied task => exact (ordered.drop task.id).of_same rfl rfl (Nat.le_refl _)
  | discarded => exact ordered.drop _

theorem ordered_run (backend : Backend σ) (stimuli : List (Stimulus σ)) :
    Ordered (idle.run backend stimuli) := by
  induction stimuli using List.reverseRecOn with
  | nil => exact ordered_idle
  | append_singleton stimuli last ih =>
    rw [run_concat]
    exact ih.of_moves (step_moves backend _ last)

/-- Without a repository, nothing but another opening can give one. -/
theorem Unbound.of_moves (unbound : Unbound before) (stays : stimulus.switches = false)
    (moves : Moves backend before stimulus after) : Unbound after.1 := by
  cases moves with
  | opened => contradiction
  | closed => contradiction
  | asked _ _ held =>
    rw [unbound.bound] at held
    contradiction
  | unasked => exact unbound
  | attached pending _ current =>
    exact (unbound.former _ (task?_eq_some pending).1 current).elim
  | applied pending _ current =>
    exact (unbound.former _ (task?_eq_some pending).1 current).elim
  | discarded => exact ⟨unbound.bound, fun task member => unbound.former task (mem_drop.1 member).1⟩

/-- Every tracker of a run is without a repository, waits for its discovery, or holds what that
found. -/
def Phased (tracker : Tracker σ) : Prop :=
  Unbound tracker ∨ (∃ discovering, Searching discovering tracker) ∨
    ∃ discovering program discovery snapshot, Holding discovering program discovery snapshot tracker

/-- What the end of its discovery does to a tracker that waits for it. -/
def Follows (discovering : Task) (tracker : Tracker σ) : Option (Outcome σ) → Prop
  | none => Searching discovering tracker
  | some (.found program discovery snapshot _) =>
    Holding discovering program discovery snapshot tracker
  | some .nothing | some (.read _) => Unbound tracker

theorem Searching.of_moves {discovering : Task} (searching : Searching discovering before)
    (stays : stimulus.switches = false) (moves : Moves backend before stimulus after) :
    Follows discovering after.1 (outcomeOf? discovering.id [stimulus]) := by
  cases moves with
  | opened => contradiction
  | closed => contradiction
  | asked _ _ held =>
    rw [searching.bound] at held
    contradiction
  | unasked asks =>
    cases stimulus with
    | refresh => exact searching
    | nudge => exact searching
    | _ => contradiction
  | @attached task start program discovery snapshot watching pending work current =>
    obtain rfl := searching.only task (task?_eq_some pending).1 (.inr current)
    have ends : outcomeOf? task.id [.ended task.id (.found program discovery snapshot watching)] =
        some (.found program discovery snapshot watching) := by simp [outcomeOf?]
    rw [ends]
    refine ⟨searching.started, rfl, rfl, fun other member same => ?_⟩
    obtain ⟨member, different⟩ := mem_drop.1 member
    exact (different (congrArg Task.id (searching.only other member (.inr same)))).elim
  | applied pending work current =>
    obtain rfl := searching.only _ (task?_eq_some pending).1 (.inr current)
    obtain ⟨start, discovery⟩ := searching.discovery
    rw [discovery] at work
    contradiction
  | @discarded id outcome vain =>
    by_cases own : id = discovering.id
    · subst own
      have ends : outcomeOf? discovering.id [.ended discovering.id outcome] = some outcome := by
        simp [outcomeOf?]
      have unbound : Unbound (before.drop discovering.id) := by
        refine ⟨searching.bound, fun task member same => ?_⟩
        obtain ⟨member, different⟩ := mem_drop.1 member
        exact different (congrArg Task.id (searching.only task member (.inr same)))
      rw [ends]
      cases outcome with
      | found =>
        exact (vain discovering searching.pending ⟨searching.discovery, searching.generation⟩).elim
      | nothing => exact unbound
      | read => exact unbound
    · have ends : outcomeOf? discovering.id [.ended id outcome] = none := by
        simp [outcomeOf?, own]
      rw [ends]
      exact ⟨searching.generation, searching.discovery, searching.started,
        (task?_drop before own).trans searching.pending, searching.bound,
        fun task member => searching.only task (mem_drop.1 member).1⟩

omit [DecidableEq σ] in
/-- While a tracker is bound, no discovery is left that belongs to its generation. -/
theorem Holding.work_ne_discovery {discovering task : Task} {program start : Path}
    {discovery : Discovery} {snapshot : σ}
    (holding : Holding discovering program discovery snapshot before)
    (pending : before.task? task.id = some task) (current : task.generation = before.generation) :
    task.work ≠ .discovery start := by
  obtain ⟨-, ticket, reading⟩ := holding.readings task (task?_eq_some pending).1 current
  rw [reading]
  intro same
  contradiction

/-- While a tracker is bound, it shows another reading only if that was started in the meantime. -/
theorem Holding.of_moves {discovering : Task} {program : Path} {discovery : Discovery} {snapshot : σ}
    (holding : Holding discovering program discovery snapshot before)
    (stays : stimulus.switches = false) (moves : Moves backend before stimulus after) :
    Holding discovering program discovery snapshot after.1 ∨
      ∃ task ticket next, stimulus = .ended task.id (.read next) ∧ task ∈ before.tasks ∧
        discovering.id < task.id ∧ task.work = .reading ticket program discovery ∧
        Holding discovering program discovery next after.1 := by
  cases moves with
  | opened => contradiction
  | closed => contradiction
  | asked _ located held =>
    left
    obtain rfl := Option.some.inj (holding.located.symm.trans located)
    obtain rfl := Option.some.inj (holding.bound.symm.trans held)
    refine ⟨Nat.lt_succ_of_lt holding.started, located, held, fun task member same => ?_⟩
    rcases mem_start.1 member with earlier | rfl
    · exact holding.readings task earlier same
    · exact ⟨holding.started, _, rfl⟩
  | unasked => exact .inl holding
  | attached pending work current => exact (holding.work_ne_discovery pending current work).elim
  | @applied task ticket _ _ next pending work current =>
    right
    have member := (task?_eq_some pending).1
    obtain ⟨later, ticket, reading⟩ := holding.readings task member current
    refine ⟨task, ticket, next, rfl, member, later, reading, holding.started, holding.located, ?_, ?_⟩
    · simp only [holding.bound, Option.map_some]
    · exact fun other member => holding.readings other (mem_drop.1 member).1
  | discarded =>
    exact .inl ⟨holding.started, holding.located, holding.bound,
      fun task member => holding.readings task (mem_drop.1 member).1⟩

theorem Phased.of_moves (phased : Phased before) (ordered : Ordered before)
    (moves : Moves backend before stimulus after) : Phased after.1 := by
  rcases switches : stimulus.switches with _ | _
  · rcases phased with unbound | ⟨discovering, searching⟩ | ⟨_, _, _, _, holding⟩
    · exact .inl (unbound.of_moves switches moves)
    · have follows := searching.of_moves switches moves
      rcases ends : outcomeOf? discovering.id [stimulus] with _ | ⟨_, _, _, _⟩ | _ | _
      all_goals rw [ends] at follows
      · exact .inr (.inl ⟨_, follows⟩)
      · exact .inr (.inr ⟨_, _, _, _, follows⟩)
      · exact .inl follows
      · exact .inl follows
    · rcases holding.of_moves switches moves with same | ⟨_, _, _, _, _, _, _, next⟩
      · exact .inr (.inr ⟨_, _, _, _, same⟩)
      · exact .inr (.inr ⟨_, _, _, _, next⟩)
  · cases moves with
    | opened directory => exact .inr (.inl ⟨_, ordered.searching directory⟩)
    | closed => exact .inl ordered.unbound
    | asked asks => cases stimulus <;> contradiction
    | unasked asks => cases stimulus <;> contradiction
    | _ => contradiction

/-- A snapshot was read by a discovery, or by a reading of the repository that it found which was
started since `origin` and has ended in the meantime. -/
def Stems (backend : Backend σ) (origin : Tracker σ) (program : Path) (discovery : Discovery) (first : σ)
    (later : List (Stimulus σ)) (snapshot : σ) : Prop :=
  snapshot = first ∨ ∃ former latter task ticket,
    later = former ++ .ended task.id (.read snapshot) :: latter ∧
      task ∈ (origin.run backend former).tasks ∧ origin.started ≤ task.id ∧
      task.work = .reading ticket program discovery

theorem Stems.concat {origin : Tracker σ} {program : Path} {discovery : Discovery}
    {first snapshot : σ} {later : List (Stimulus σ)}
    (stems : Stems backend origin program discovery first later snapshot) (last : Stimulus σ) :
    Stems backend origin program discovery first (later ++ [last]) snapshot := by
  rcases stems with same | ⟨former, latter, task, ticket, split, pending, since, work⟩
  · exact .inl same
  · refine .inr ⟨former, latter ++ [last], task, ticket, ?_, pending, since, work⟩
    rw [split, List.append_assoc, List.cons_append]

/-- A tracker some time after an opening, given the outcome of the discovery so far. -/
def Since (backend : Backend σ) (discovering : Task) (origin : Tracker σ) (later : List (Stimulus σ)) :
    Option (Outcome σ) → Prop
  | none => Searching discovering (origin.run backend later)
  | some (.found program discovery first _) =>
    ∃ snapshot, Holding discovering program discovery snapshot (origin.run backend later) ∧
      Stems backend origin program discovery first later snapshot
  | some .nothing | some (.read _) => Unbound (origin.run backend later)

theorem Since.concat {discovering : Task} {origin : Tracker σ} {later : List (Stimulus σ)}
    {soFar : Option (Outcome σ)} {last : Stimulus σ}
    (since : Since backend discovering origin later soFar)
    (counted : origin.started = discovering.id + 1) (stays : last.switches = false) :
    Since backend discovering origin (later ++ [last])
      (soFar.or (outcomeOf? discovering.id [last])) := by
  have moves := step_moves backend (origin.run backend later) last
  rcases soFar with _ | ⟨program, discovery, first, watching⟩ | _ | _
  · have follows := Searching.of_moves since stays moves
    rw [Option.none_or]
    rcases ends : outcomeOf? discovering.id [last] with _ | ⟨program, discovery, first, _⟩ | _ | _
    all_goals
      rw [ends] at follows
      rw [Since, run_concat]
    · exact follows
    · exact ⟨first, follows, .inl rfl⟩
    · exact follows
    · exact follows
  · obtain ⟨snapshot, holding, stems⟩ := since
    rw [Option.some_or, Since, run_concat]
    rcases holding.of_moves stays moves with
      same | ⟨task, ticket, next, rfl, pending, after, work, holding⟩
    · exact ⟨snapshot, same, stems.concat last⟩
    · refine ⟨next, holding, .inr ⟨later, [], task, ticket, rfl, pending, ?_, work⟩⟩
      omega
  · rw [Option.some_or, Since, run_concat]
    exact Unbound.of_moves since stays moves
  · rw [Option.some_or, Since, run_concat]
    exact Unbound.of_moves since stays moves

theorem Searching.run {discovering : Task} {origin : Tracker σ} {later : List (Stimulus σ)}
    (searching : Searching discovering origin) (counted : origin.started = discovering.id + 1)
    (stays : ∀ stimulus ∈ later, stimulus.switches = false) :
    Since backend discovering origin later (outcomeOf? discovering.id later) := by
  induction later using List.reverseRecOn with
  | nil => exact searching
  | append_singleton later last ih =>
    rw [List.forall_mem_append, List.forall_mem_singleton] at stays
    rw [outcomeOf?_append]
    exact (ih stays.1).concat counted stays.2

theorem Unbound.run {tracker : Tracker σ} {later : List (Stimulus σ)} (unbound : Unbound tracker)
    (stays : ∀ stimulus ∈ later, stimulus.switches = false) : Unbound (tracker.run backend later) := by
  induction later using List.reverseRecOn with
  | nil => exact unbound
  | append_singleton later last ih =>
    rw [List.forall_mem_append, List.forall_mem_singleton] at stays
    rw [run_concat]
    exact (ih stays.1).of_moves stays.2 (step_moves backend _ last)

/-- A solution is open, and the discovery that its opening started has found a repository. -/
structure Found (backend : Backend σ) (stimuli earlier : List (Stimulus σ)) (directory : Path)
    (later : List (Stimulus σ)) (program : Path) (discovery : Discovery) (first : σ) : Prop where
  split : stimuli = earlier ++ .opened directory :: later
  latest : ∀ stimulus ∈ later, stimulus.switches = false
  ended : ∃ task watching, task.work = .discovery directory ∧
    (idle.run backend (earlier ++ [.opened directory])).tasks =
      (idle.run backend earlier).tasks ++ [task] ∧
    outcomeOf? task.id later = some (.found program discovery first watching)

/-- A run stands behind its latest opening or behind its latest closing. -/
theorem latest_switch (backend : Backend σ) (stimuli : List (Stimulus σ)) :
    (∃ earlier directory later, stimuli = earlier ++ .opened directory :: later ∧
        ∀ stimulus ∈ later, stimulus.switches = false) ∨
      ∃ earlier later, stimuli = earlier ++ later ∧ Unbound (idle.run backend earlier) ∧
        ∀ stimulus ∈ later, stimulus.switches = false := by
  induction stimuli using List.reverseRecOn with
  | nil => exact .inr ⟨[], [], rfl, ⟨rfl, nofun⟩, nofun⟩
  | append_singleton stimuli last ih =>
    rcases switches : last.switches with _ | _
    · have extended {later : List (Stimulus σ)} (stays : ∀ stimulus ∈ later, stimulus.switches = false) :
          ∀ stimulus ∈ later ++ [last], stimulus.switches = false :=
        List.forall_mem_append.2 ⟨stays, List.forall_mem_singleton.2 switches⟩
      rcases ih with ⟨earlier, directory, later, rfl, latest⟩ | ⟨earlier, later, rfl, unbound, latest⟩
      · refine .inl ⟨earlier, directory, later ++ [last], ?_, extended latest⟩
        rw [List.append_assoc, List.cons_append]
      · exact .inr ⟨earlier, later ++ [last], List.append_assoc .., unbound, extended latest⟩
    · cases last with
      | opened directory => exact .inl ⟨stimuli, directory, [], rfl, nofun⟩
      | closed =>
        refine .inr ⟨stimuli ++ [.closed], [], (List.append_nil _).symm, ?_, nofun⟩
        rw [run_concat]
        exact (ordered_run backend stimuli).unbound
      | _ => contradiction

theorem run_opening (backend : Backend σ) (earlier : List (Stimulus σ)) (directory : Path)
    (later : List (Stimulus σ)) :
    idle.run backend (earlier ++ .opened directory :: later) =
      (idle.run backend (earlier ++ [.opened directory])).run backend later := by
  rw [← run_append, List.append_assoc, List.singleton_append]

/-- An opening starts one task. -/
theorem tasks_opening (backend : Backend σ) (earlier : List (Stimulus σ)) (directory : Path) :
    (idle.run backend (earlier ++ [.opened directory])).tasks =
      (idle.run backend earlier).tasks ++ [(idle.run backend earlier).discovering directory] := by
  rw [run_concat]
  rfl

/-- The tracker behind its latest opening. -/
theorem since_opening (backend : Backend σ) (earlier : List (Stimulus σ)) (directory : Path)
    {later : List (Stimulus σ)} (latest : ∀ stimulus ∈ later, stimulus.switches = false) :
    Since backend ((idle.run backend earlier).discovering directory)
      (idle.run backend (earlier ++ [.opened directory])) later
      (outcomeOf? ((idle.run backend earlier).discovering directory).id later) := by
  rw [run_concat]
  exact Searching.run ((ordered_run backend earlier).searching directory) rfl latest

/-- What the discovery of the latest opening found is what a tracker is bound to. -/
theorem Found.holding {stimuli earlier later : List (Stimulus σ)} {directory program : Path}
    {discovery : Discovery} {first : σ}
    (found : Found backend stimuli earlier directory later program discovery first) :
    ∃ snapshot, (idle.run backend stimuli).program = some program ∧
      (idle.run backend stimuli).bound = some ⟨discovery, snapshot⟩ ∧
      Stems backend (idle.run backend (earlier ++ [.opened directory])) program discovery first later
        snapshot := by
  obtain ⟨rfl, latest, task, watching, work, tasks, ends⟩ := found
  have since := since_opening backend earlier directory latest
  obtain rfl := List.singleton_inj.1 (List.append_cancel_left
    (tasks.symm.trans (tasks_opening backend earlier directory)))
  rw [ends] at since
  obtain ⟨snapshot, holding, stems⟩ := since
  rw [run_opening]
  exact ⟨snapshot, holding.located, holding.bound, stems⟩

theorem exists_found {stimuli : List (Stimulus σ)}
    (bound : (idle.run backend stimuli).bound.isSome) :
    ∃ earlier directory later program discovery first,
      Found backend stimuli earlier directory later program discovery first := by
  rcases latest_switch backend stimuli with
    ⟨earlier, directory, later, rfl, latest⟩ | ⟨earlier, later, rfl, unbound, latest⟩
  · have since := since_opening backend earlier directory latest
    rw [run_opening] at bound
    rcases ends : outcomeOf? ((idle.run backend earlier).discovering directory).id later with
      _ | ⟨program, discovery, first, watching⟩ | _ | _
    all_goals rw [ends] at since
    · rw [since.bound] at bound
      contradiction
    · exact ⟨earlier, directory, later, program, discovery, first, rfl, latest, _, watching, rfl,
        tasks_opening backend earlier directory, ends⟩
    · rw [Unbound.bound since] at bound
      contradiction
    · rw [Unbound.bound since] at bound
      contradiction
  · rw [run_append, (unbound.run latest).bound] at bound
    contradiction

omit [DecidableEq σ] in
/-- Without a repository a tracker shows nothing. -/
theorem blank_of_bound_eq_none {tracker : Tracker σ} (none : tracker.bound = none) :
    tracker.snapshot backend = backend.blank ∧ tracker.root? = Option.none ∧
      ∀ situation tag, ((tracker.resolver backend).resolve situation tag).answer = "" ∧
        ∀ glob, ((tracker.resolver backend).satisfies situation tag glob).answer = false := by
  refine ⟨?_, ?_, fun situation tag => ⟨?_, fun glob => ?_⟩⟩
  · rw [snapshot, none]
  · rw [root?, none, Option.map_none]
  · simp [resolver, Resolver.resolve, none]
  · simp [resolver, Resolver.satisfies, none]

/-- A tracker is available exactly if a solution is open whose discovery found a repository. Then it
shows that repository, as the discovery or a reading since the opening read it; and otherwise it shows
nothing. -/
theorem available_iff_found (backend : Backend σ) (stimuli : List (Stimulus σ)) :
    (((idle.run backend stimuli).resolver backend).available ↔
      ∃ earlier directory later program discovery first,
        Found backend stimuli earlier directory later program discovery first) ∧
    (∀ earlier directory later program discovery first,
      Found backend stimuli earlier directory later program discovery first →
        (idle.run backend stimuli).program = some program ∧
        (idle.run backend stimuli).bound.map (·.discovery) = some discovery ∧
        (idle.run backend stimuli).root? = some discovery.root ∧
        Stems backend (idle.run backend (earlier ++ [.opened directory])) program discovery first
          later ((idle.run backend stimuli).snapshot backend)) ∧
    (((idle.run backend stimuli).resolver backend).available = false →
      (idle.run backend stimuli).snapshot backend = backend.blank ∧
      (idle.run backend stimuli).root? = none ∧
      ∀ situation tag,
        (((idle.run backend stimuli).resolver backend).resolve situation tag).answer = "" ∧
        ∀ glob, (((idle.run backend stimuli).resolver backend).satisfies situation tag glob).answer =
          false) := by
  refine ⟨⟨exists_found, ?_⟩, ?_, fun unavailable => ?_⟩
  · rintro ⟨earlier, directory, later, program, discovery, first, found⟩
    obtain ⟨snapshot, -, bound, -⟩ := found.holding
    exact Option.isSome_iff_exists.2 ⟨_, bound⟩
  · intro earlier directory later program discovery first found
    obtain ⟨snapshot, located, bound, stems⟩ := found.holding
    refine ⟨located, ?_, ?_, ?_⟩
    · rw [bound, Option.map_some]
    · rw [root?, bound, Option.map_some]
    · rwa [Tracker.snapshot, bound]
  · exact blank_of_bound_eq_none (Option.isNone_iff_eq_none.1 (Option.isSome_eq_false_iff.1 unavailable))

/-- The discovery of a second opening ends, and then that of the first one. -/
def reopening : List (Stimulus Subversion.State) :=
  [.ended 1 (.found ⟨"/bin/svn"⟩ ⟨⟨"/new"⟩, none, none⟩ ⟨"svn://new"⟩ false),
    .ended 0 (.found ⟨"/bin/svn"⟩ ⟨⟨"/old"⟩, none, none⟩ ⟨"svn://old"⟩ false)]

/-- The repository of a former opening does not come back. -/
theorem available_after_reopening :
    let former : List (Stimulus Subversion.State) := [.opened ⟨"/old"⟩, .closed]
    let tracker := idle.run Subversion.backend (former ++ .opened ⟨"/new"⟩ :: reopening)
    tracker.program = some ⟨"/bin/svn"⟩ ∧
      tracker.bound.map (·.discovery) = some ⟨⟨"/new"⟩, none, none⟩ ∧
      tracker.root? = some ⟨"/new"⟩ ∧
      Stems Subversion.backend (idle.run Subversion.backend (former ++ [.opened ⟨"/new"⟩]))
        ⟨"/bin/svn"⟩ ⟨⟨"/new"⟩, none, none⟩ ⟨"svn://new"⟩ reopening
        (tracker.snapshot Subversion.backend) :=
  (available_iff_found Subversion.backend _).2.1 [.opened ⟨"/old"⟩, .closed] ⟨"/new"⟩ reopening _ _ _
    ⟨rfl, by decide, ⟨1, 5, .discovery ⟨"/new"⟩⟩, false, rfl, rfl, rfl⟩

end TitleBar.Tracker
