import TitleBar.Proofs.Repository.Tickets
import Mathlib.Data.List.MinMax

/-! # The reading that is shown

While a tracker is bound, it shows what the reading with the largest number has read, of those of its
repository that have ended: as a whole, and in whatever order they have ended. Numbers are given in
the order in which readings are started. Readings of former openings count for nothing, although their
numbers are not given again.
-/

namespace TitleBar

variable {σ : Type}

/-- A snapshot is what reading a repository leads to; the reading that fails leads to a blank one. -/
def Backend.Reads (backend : Backend σ) (program : Path) (discovery : Discovery) (snapshot : σ) : Prop :=
  ∃ result, (backend.read program discovery).Gives result ∧ snapshot = result.getD backend.blank

theorem Backend.reads_of_readOrBlank {backend : Backend σ} {program : Path} {discovery : Discovery}
    {snapshot : σ} (gives : (backend.readOrBlank program discovery).Gives snapshot) :
    backend.Reads program discovery snapshot := by
  obtain ⟨result, read, rfl⟩ := Script.gives_map gives
  exact ⟨result, read, rfl⟩

theorem Backend.reads_of_readScript {backend : Backend σ} {program : Path} {discovery : Discovery}
    {snapshot : σ} (gives : (backend.readScript program discovery).Gives (.read snapshot)) :
    backend.Reads program discovery snapshot := by
  obtain ⟨inner, read, same⟩ := Script.gives_map gives
  obtain rfl := Outcome.read.inj same
  exact reads_of_readOrBlank read

/-- A script that looks for a program goes on with what it finds. -/
theorem Script.gives_locate {α : Type} {program : String} {next : Option Path → Script α} {answer : α}
    (gives : (Script.locate program next).Gives answer) : ∃ path, (next path).Gives answer := by
  cases gives with
  | locate path rest => exact ⟨path, rest⟩

theorem Backend.reads_of_bindScript {backend : Backend σ} {start program : Path}
    {discovery : Discovery} {snapshot : σ} {watching : Bool}
    (gives : (backend.bindScript start).Gives (.found program discovery snapshot watching)) :
    backend.Reads program discovery snapshot := by
  obtain ⟨path, rest⟩ := Script.gives_locate gives
  rcases path with _ | located
  · cases rest
  obtain ⟨discovered, -, rest⟩ := Script.gives_bind rest
  rcases discovered with _ | there
  · cases rest
  obtain ⟨first, read, rest⟩ := Script.gives_bind rest
  obtain ⟨files, -, rest⟩ := Script.gives_bind rest
  cases rest
  exact reads_of_readOrBlank read

namespace Tracker

/-- A reading that has ended. -/
structure Reading (σ : Type) where
  /-- The task that read. Tasks are numbered in the order of their start. -/
  task : ℕ
  ticket : ℕ
  snapshot : σ

/-- The reading of a generation that a stimulus ends, if it ends one. -/
def reading? (generation : ℕ) (tracker : Tracker σ) : Stimulus σ → Option (Reading σ)
  | .ended id (.read snapshot) => do
    let task ← tracker.task? id
    let ticket ← task.work.ticket?
    if task.generation = generation then some ⟨id, ticket, snapshot⟩ else none
  | _ => none

/-- What is shown behind some readings of a repository, given the first one of all. -/
def latest (first : σ) (readings : List (Reading σ)) : σ :=
  ((readings.argmax Reading.ticket).map Reading.snapshot).getD first

theorem reading?_eq_some {generation : ℕ} {tracker : Tracker σ} {stimulus : Stimulus σ}
    {reading : Reading σ} (ends : tracker.reading? generation stimulus = some reading) :
    stimulus = .ended reading.task (.read reading.snapshot) ∧ ∃ task,
      tracker.task? reading.task = some task ∧ task.work.ticket? = some reading.ticket ∧
        task.generation = generation := by
  unfold reading? at ends
  split at ends
  · simp only [Option.bind_eq_bind, Option.bind_eq_some_iff] at ends
    obtain ⟨task, pending, ticket, numbered, ends⟩ := ends
    split at ends
    · rename_i current
      obtain rfl := Option.some.inj ends
      exact ⟨rfl, task, pending, numbered, current⟩
    · contradiction
  · contradiction

theorem reading?_of_work {tracker : Tracker σ} {task : Task} {ticket : ℕ} {program : Path}
    {discovery : Discovery} (pending : tracker.task? task.id = some task)
    (work : task.work = .reading ticket program discovery) (snapshot : σ) :
    tracker.reading? task.generation (.ended task.id (.read snapshot)) =
      some ⟨task.id, ticket, snapshot⟩ := by
  simp [reading?, pending, work, Work.ticket?]

/-- A reading with a larger number than the one that is shown takes its place. -/
theorem argmax_concat_of_lt {ended : List (Reading σ)} {reading : Reading σ}
    (larger : ∀ other ∈ ended.argmax Reading.ticket, other.ticket < reading.ticket) :
    (ended ++ [reading]).argmax Reading.ticket = some reading := by
  rw [List.argmax_concat]
  rcases shown : ended.argmax Reading.ticket with _ | other
  · rfl
  · exact if_pos (larger other shown)

/-- A reading with no larger number than the one that is shown does not take its place. -/
theorem argmax_concat_of_le {ended : List (Reading σ)} {reading other : Reading σ}
    (shown : ended.argmax Reading.ticket = some other) (smaller : reading.ticket ≤ other.ticket) :
    (ended ++ [reading]).argmax Reading.ticket = some other := by
  rw [List.argmax_concat, shown]
  exact if_neg (Nat.not_lt.2 smaller)

/-- A tracker shows the latest of the readings of its repository. -/
structure Latest (first : σ) (ended : List (Reading σ)) (tracker : Tracker σ) : Prop where
  shown : tracker.bound.map (·.snapshot) = some (latest first ended)
  applied : ∀ reading ∈ ended.argmax Reading.ticket, tracker.appliedTicket = reading.ticket
  /-- The numbers of former openings are smaller. -/
  fresh : ended = [] → ∀ task ∈ tracker.tasks, task.generation = tracker.generation →
    ∀ ticket, task.work.ticket? = some ticket → tracker.appliedTicket < ticket

/-- A task has a number: it is still to end, or has ended with a reading. -/
def Carries (ended : List (Reading σ)) (tracker : Tracker σ) (id ticket : ℕ) : Prop :=
  (∃ task ∈ tracker.tasks, task.id = id ∧ task.work.ticket? = some ticket) ∨
    ∃ reading ∈ ended, reading.task = id ∧ reading.ticket = ticket

/-- Numbers are given in the order in which tasks are started. -/
structure Sorted (ended : List (Reading σ)) (tracker : Tracker σ) : Prop where
  counted : ∀ {id ticket : ℕ}, Carries ended tracker id ticket →
    id < tracker.started ∧ ticket ≤ tracker.nextTicket
  order : ∀ {id ticket other otherTicket : ℕ}, Carries ended tracker id ticket →
    Carries ended tracker other otherTicket → (ticket < otherTicket ↔ id < other)

theorem sorted_idle : Sorted [] (idle : Tracker σ) where
  counted carries := by rcases carries with ⟨_, member, _⟩ | ⟨_, member, _⟩ <;> contradiction
  order carries := by rcases carries with ⟨_, member, _⟩ | ⟨_, member, _⟩ <;> contradiction

theorem Sorted.of_fewer {ended less : List (Reading σ)} {tracker other : Tracker σ}
    (sorted : Sorted ended tracker)
    (fewer : ∀ {id ticket : ℕ}, Carries less other id ticket → Carries ended tracker id ticket)
    (started : tracker.started ≤ other.started) (next : tracker.nextTicket ≤ other.nextTicket) :
    Sorted less other where
  counted carries := by
    obtain ⟨earlier, given⟩ := sorted.counted (fewer carries)
    exact ⟨Nat.lt_of_lt_of_le earlier started, Nat.le_trans given next⟩
  order carries other := sorted.order (fewer carries) (fewer other)

/-- A reading that ends keeps the number of its task. -/
theorem Carries.of_reading? {ended : List (Reading σ)} {tracker other : Tracker σ}
    {generation id ticket : ℕ} {stimulus : Stimulus σ}
    (carries : Carries (ended ++ (tracker.reading? generation stimulus).toList) other id ticket)
    (fewer : ∀ task ∈ other.tasks, task.work.ticket?.isSome → task ∈ tracker.tasks) :
    Carries ended tracker id ticket := by
  rcases carries with ⟨task, member, own, reading⟩ | ⟨reading, member, own⟩
  · exact .inl ⟨task, fewer task member (reading ▸ rfl), own, reading⟩
  · rcases List.mem_append.1 member with earlier | ends
    · exact .inr ⟨reading, earlier, own⟩
    · obtain ⟨-, task, pending, numbered, -⟩ := reading?_eq_some (Option.mem_toList.1 ends)
      obtain ⟨member, same⟩ := task?_eq_some pending
      exact .inl ⟨task, member, same.trans own.1, numbered.trans (congrArg some own.2)⟩

/-- Starts a reading. -/
theorem Sorted.ask {ended : List (Reading σ)} {tracker : Tracker σ} (sorted : Sorted ended tracker)
    (program : Path) (discovery : Discovery) :
    Sorted ended ({ tracker with nextTicket := tracker.nextTicket + 1 }.start
      (.reading (tracker.nextTicket + 1) program discovery)) := by
  -- A task is an earlier one, or the new one with the next number.
  have new {id ticket : ℕ} (carries : Carries ended
      ({ tracker with nextTicket := tracker.nextTicket + 1 }.start
        (.reading (tracker.nextTicket + 1) program discovery)) id ticket) :
      Carries ended tracker id ticket ∨ id = tracker.started ∧ ticket = tracker.nextTicket + 1 := by
    rcases carries with ⟨task, member, own, reading⟩ | before
    · rcases mem_start.1 member with earlier | rfl
      · exact .inl (.inl ⟨task, earlier, own, reading⟩)
      · exact .inr ⟨own.symm, (Option.some.inj reading).symm⟩
    · exact .inl (.inr before)
  refine ⟨fun carries => ?_, fun carries other => ?_⟩
  · rcases new carries with earlier | ⟨rfl, rfl⟩
    · obtain ⟨started, given⟩ := sorted.counted earlier
      exact ⟨Nat.lt_succ_of_lt started, Nat.le_succ_of_le given⟩
    · exact ⟨Nat.lt_succ_self _, Nat.le_refl _⟩
  · rcases new carries with earlier | ⟨rfl, rfl⟩ <;> rcases new other with otherEarlier | ⟨rfl, rfl⟩
    · exact sorted.order earlier otherEarlier
    · have := sorted.counted earlier
      omega
    · have := sorted.counted otherEarlier
      omega
    · omega

variable [DecidableEq σ] {backend : Backend σ} {before : Tracker σ} {after : Tracker σ × Bool}
  {stimulus : Stimulus σ} {first : σ} {ended : List (Reading σ)}

/-- The readings of a generation that end in the course of some stimuli, in the order of their ends. -/
def readings (backend : Backend σ) (generation : ℕ) (tracker : Tracker σ) :
    List (Stimulus σ) → List (Reading σ)
  | [] => []
  | stimulus :: rest => (tracker.reading? generation stimulus).toList ++
      readings backend generation (tracker.step backend stimulus).1 rest

theorem readings_append (backend : Backend σ) (generation : ℕ) (tracker : Tracker σ)
    (former latter : List (Stimulus σ)) :
    tracker.readings backend generation (former ++ latter) =
      tracker.readings backend generation former ++
        (tracker.run backend former).readings backend generation latter := by
  induction former generalizing tracker with
  | nil => rfl
  | cons stimulus former ih =>
    rw [List.cons_append, readings, ih, readings, List.append_assoc]
    rfl

theorem readings_concat (backend : Backend σ) (generation : ℕ) (tracker : Tracker σ)
    (former : List (Stimulus σ)) (last : Stimulus σ) :
    tracker.readings backend generation (former ++ [last]) =
      tracker.readings backend generation former ++
        ((tracker.run backend former).reading? generation last).toList := by
  rw [readings_append, readings, readings, List.append_nil]

omit [DecidableEq σ] in
/-- Nothing but the end of a task ends a reading. -/
theorem reading?_of_asks {current asked generation : ℕ} (asks : stimulus.asks? current = some asked) :
    before.reading? generation stimulus = none := by
  cases stimulus <;> first | rfl | contradiction

theorem Sorted.of_moves {generation : ℕ} (sorted : Sorted ended before)
    (moves : Moves backend before stimulus after) :
    Sorted (ended ++ (before.reading? generation stimulus).toList) after.1 := by
  cases moves with
  | opened =>
    refine sorted.of_fewer (fun carries => carries.of_reading? fun task member reading => ?_)
      (Nat.le_succ _) (Nat.le_refl _)
    rcases mem_start.1 member with earlier | rfl
    · exact earlier
    · contradiction
  | closed =>
    exact sorted.of_fewer (fun carries => carries.of_reading? fun _ member _ => member)
      (Nat.le_refl _) (Nat.le_refl _)
  | asked asks =>
    rw [reading?_of_asks asks, Option.toList_none, List.append_nil]
    exact sorted.ask _ _
  | unasked asks =>
    rw [reading?_of_asks asks, Option.toList_none, List.append_nil]
    exact sorted
  | attached | applied | discarded =>
    exact sorted.of_fewer (fun carries => carries.of_reading? fun _ member _ => (mem_drop.1 member).1)
      (Nat.le_refl _) (Nat.le_refl _)

theorem Sorted.run {generation : ℕ} {tracker : Tracker σ} (sorted : Sorted [] tracker)
    (later : List (Stimulus σ)) :
    Sorted (tracker.readings backend generation later) (tracker.run backend later) := by
  induction later using List.reverseRecOn with
  | nil => exact sorted
  | append_singleton later last ih =>
    rw [readings_concat, run_concat]
    exact ih.of_moves (step_moves backend _ last)

theorem sorted_run (backend : Backend σ) (stimuli : List (Stimulus σ)) :
    Sorted [] (idle.run backend stimuli) := by
  have sorted : Sorted (idle.readings backend 0 stimuli) (idle.run backend stimuli) :=
    sorted_idle.run stimuli
  refine sorted.of_fewer (fun carries => ?_) (Nat.le_refl _) (Nat.le_refl _)
  rcases carries with outstanding | ⟨_, member, _⟩
  · exact .inl outstanding
  · contradiction

/-- A generation lasts as long as its solution. -/
theorem generation_of_moves (stays : stimulus.switches = false)
    (moves : Moves backend before stimulus after) : after.1.generation = before.generation := by
  cases moves with
  | opened => contradiction
  | closed => contradiction
  | _ => rfl

theorem generation_run {tracker : Tracker σ} {later : List (Stimulus σ)}
    (stays : ∀ stimulus ∈ later, stimulus.switches = false) :
    (tracker.run backend later).generation = tracker.generation := by
  induction later using List.reverseRecOn with
  | nil => rfl
  | append_singleton later last ih =>
    rw [List.forall_mem_append, List.forall_mem_singleton] at stays
    rw [run_concat, generation_of_moves stays.2 (step_moves backend _ last), ih stays.1]

omit [DecidableEq σ] in
/-- The first end of a task is the one that counts. -/
theorem split_of_outcomeOf? {id : ℕ} {outcome : Outcome σ} {stimuli : List (Stimulus σ)}
    (ends : outcomeOf? id stimuli = some outcome) :
    ∃ former latter, stimuli = former ++ .ended id outcome :: latter ∧ outcomeOf? id former = none := by
  obtain ⟨former, stimulus, latter, rfl, ends, before⟩ := List.findSome?_eq_some_iff.1 ends
  split at ends
  · split at ends
    · rename_i same
      obtain rfl := Option.some.inj ends
      exact ⟨former, latter, by rw [same], List.findSome?_eq_none_iff.2 before⟩
    · contradiction
  · contradiction

/-- Its first reading is what a tracker shows when it is bound. -/
theorem Searching.latest {discovering : Task} {program : Path} {discovery : Discovery}
    {watching : Bool} (searching : Searching discovering before)
    (ends : outcomeOf? discovering.id [stimulus] = some (.found program discovery first watching))
    (moves : Moves backend before stimulus after) : Latest first [] after.1 := by
  obtain ⟨former, latter, split, -⟩ := split_of_outcomeOf? ends
  have same : .ended discovering.id (.found program discovery first watching) = stimulus :=
    List.mem_singleton.1 (split ▸ List.mem_append_right former List.mem_cons_self)
  cases moves with
  | asked asks | unasked asks =>
    rw [← same] at asks
    contradiction
  | @attached task _ _ _ _ _ pending _ current =>
    obtain ⟨-, same⟩ := Stimulus.ended.inj same
    obtain ⟨rfl, rfl, rfl, rfl⟩ := Outcome.found.inj same
    obtain rfl := searching.only task (task?_eq_some pending).1 (.inr current)
    refine ⟨rfl, nofun, fun _ other member current => ?_⟩
    obtain ⟨member, different⟩ := mem_drop.1 member
    exact (different (congrArg Task.id (searching.only other member (.inr current)))).elim
  | discarded vain =>
    obtain ⟨rfl, rfl⟩ := Stimulus.ended.inj same
    exact (vain discovering searching.pending ⟨searching.discovery, searching.generation⟩).elim
  | applied =>
    obtain ⟨-, same⟩ := Stimulus.ended.inj same
    contradiction
  | _ => contradiction

theorem Latest.of_moves {discovering : Task} {program : Path} {discovery : Discovery} {snapshot : σ}
    (latest : Latest first ended before)
    (holding : Holding discovering program discovery snapshot before) (numbered : Numbered before)
    (stays : stimulus.switches = false) (moves : Moves backend before stimulus after) :
    Latest first (ended ++ (before.reading? before.generation stimulus).toList) after.1 := by
  cases moves with
  | opened => contradiction
  | closed => contradiction
  | asked asks =>
    rw [reading?_of_asks asks, Option.toList_none, List.append_nil]
    refine ⟨latest.shown, latest.applied, fun fresh task member current ticket reading => ?_⟩
    rcases mem_start.1 member with earlier | rfl
    · exact latest.fresh fresh task earlier current ticket reading
    · rw [← Option.some.inj reading]
      exact Nat.lt_succ_of_le numbered.applied
  | unasked asks =>
    rw [reading?_of_asks asks, Option.toList_none, List.append_nil]
    exact latest
  | attached pending work current => exact (holding.work_ne_discovery pending current work).elim
  | @applied task ticket program' discovery' next pending work current newer =>
    rw [← current, reading?_of_work pending work next, Option.toList_some]
    have shown : (ended ++ [(⟨task.id, ticket, next⟩ : Reading σ)]).argmax Reading.ticket =
        some ⟨task.id, ticket, next⟩ :=
      argmax_concat_of_lt fun other last => latest.applied other last ▸ newer
    refine ⟨?_, ?_, ?_⟩
    · rw [Tracker.latest, shown, holding.bound]
      rfl
    · intro reading last
      rw [shown] at last
      exact congrArg Reading.ticket (Option.some.inj last)
    · intro none
      exact (List.append_ne_nil_of_right_ne_nil _ (List.cons_ne_nil _ _) none).elim
  | @discarded id outcome vain =>
    rcases ends : before.reading? before.generation (.ended id outcome) with _ | reading
    · rw [Option.toList_none, List.append_nil]
      exact ⟨latest.shown, latest.applied, fun fresh task member =>
        latest.fresh fresh task (mem_drop.1 member).1⟩
    · -- A reading that is discarded was started before the one that is shown.
      obtain ⟨same, task, pending, numbered, current⟩ := reading?_eq_some ends
      obtain ⟨rfl, rfl⟩ := Stimulus.ended.inj same
      have late : reading.ticket ≤ before.appliedTicket := by
        rcases work : task.work with _ | ⟨ticket, program', discovery'⟩
        · rw [work] at numbered
          contradiction
        · rw [work] at numbered
          obtain rfl := Option.some.inj numbered
          refine Nat.not_lt.1 fun newer => vain task pending ?_
          exact ⟨_, program', discovery', work, current, newer⟩
      have member := (task?_eq_some pending).1
      have others : ended.argmax Reading.ticket ≠ none := fun none => Nat.not_lt.2 late
        (latest.fresh (List.argmax_eq_none.1 none) task member current reading.ticket numbered)
      obtain ⟨other, shown⟩ := Option.ne_none_iff_exists'.1 others
      have smaller : reading.ticket ≤ other.ticket := latest.applied other shown ▸ late
      rw [Option.toList_some]
      have kept := argmax_concat_of_le shown smaller
      refine ⟨?_, ?_, ?_⟩
      · rw [Tracker.latest, kept, ← shown]
        exact latest.shown
      · rw [kept, ← shown]
        exact latest.applied
      · intro none
        exact (List.append_ne_nil_of_right_ne_nil _ (List.cons_ne_nil _ _) none).elim

omit [DecidableEq σ] in
/-- Before a tracker is bound, none of its readings can end. -/
theorem Searching.reading?_eq_none {discovering : Task} (searching : Searching discovering before)
    (stimulus : Stimulus σ) : before.reading? before.generation stimulus = none := by
  rcases ends : before.reading? before.generation stimulus with _ | reading
  · rfl
  · obtain ⟨-, task, pending, numbered, current⟩ := reading?_eq_some ends
    obtain ⟨start, discovery⟩ := searching.discovery
    rw [searching.only task (task?_eq_some pending).1 (.inr current), discovery] at numbered
    contradiction

/-- A reading ends at one of the stimuli. -/
theorem exists_reading? {generation : ℕ} {tracker : Tracker σ} {later : List (Stimulus σ)}
    {reading : Reading σ} (member : reading ∈ tracker.readings backend generation later) :
    ∃ former last latter, later = former ++ last :: latter ∧
      (tracker.run backend former).reading? generation last = some reading := by
  induction later using List.reverseRecOn with
  | nil => contradiction
  | append_singleton later last ih =>
    rw [readings_concat, List.mem_append, Option.mem_toList] at member
    rcases member with earlier | ends
    · obtain ⟨former, middle, latter, rfl, ends⟩ := ih earlier
      exact ⟨former, middle, latter ++ [last], by simp, ends⟩
    · exact ⟨later, last, [], rfl, ends⟩

/-- What a tracker shows some time after an opening, given the outcome of the discovery so far. -/
def Shows (ended : List (Reading σ)) (tracker : Tracker σ) : Option (Outcome σ) → Prop
  | none => ended = []
  | some (.found _ _ first _) => Latest first ended tracker
  | some .nothing | some (.read _) => True

theorem Shows.concat {discovering : Task} {origin : Tracker σ} {later : List (Stimulus σ)}
    {soFar : Option (Outcome σ)} {last : Stimulus σ}
    (shows : Shows ended (origin.run backend later) soFar)
    (since : Since backend discovering origin later soFar)
    (numbered : Numbered (origin.run backend later)) (stays : last.switches = false) :
    Shows (ended ++ ((origin.run backend later).reading? (origin.run backend later).generation
      last).toList) (origin.run backend (later ++ [last]))
      (soFar.or (outcomeOf? discovering.id [last])) := by
  have moves := step_moves backend (origin.run backend later) last
  rw [run_concat]
  rcases soFar with _ | ⟨program, discovery, first, watching⟩ | _ | _
  · obtain rfl := shows
    rw [Option.none_or, Searching.reading?_eq_none since, Option.toList_none, List.append_nil]
    rcases ends : outcomeOf? discovering.id [last] with _ | ⟨program, discovery, first, _⟩ | _ | _
    · rfl
    · exact Searching.latest since ends moves
    · trivial
    · trivial
  · obtain ⟨snapshot, holding, -⟩ := since
    exact Latest.of_moves shows holding numbered stays moves
  · trivial
  · trivial

/-- A tracker shows the latest reading from when it is bound on. -/
theorem shows_since_opening (backend : Backend σ) (earlier : List (Stimulus σ)) (directory : Path)
    {later : List (Stimulus σ)} (stays : ∀ stimulus ∈ later, stimulus.switches = false) :
    let origin := idle.run backend (earlier ++ [.opened directory])
    Shows (origin.readings backend origin.generation later) (origin.run backend later)
      (outcomeOf? ((idle.run backend earlier).discovering directory).id later) := by
  intro origin
  induction later using List.reverseRecOn with
  | nil => rfl
  | append_singleton later last ih =>
    rw [List.forall_mem_append, List.forall_mem_singleton] at stays
    have numbered : Numbered (origin.run backend later) := by
      rw [← run_append]
      exact numbered_run backend _
    have shows := (ih stays.1).concat (since_opening backend earlier directory stays.1) numbered stays.2
    rwa [generation_run stays.1, ← outcomeOf?_append, ← readings_concat] at shows

theorem Found.shows {stimuli earlier later : List (Stimulus σ)} {directory program : Path}
    {discovery : Discovery}
    (found : Found backend stimuli earlier directory later program discovery first) :
    let origin := idle.run backend (earlier ++ [.opened directory])
    Latest first (origin.readings backend origin.generation later) (idle.run backend stimuli) := by
  intro origin
  obtain ⟨rfl, stays, task, watching, -, tasks, ends⟩ := found
  have shows := shows_since_opening backend earlier directory stays
  obtain rfl := List.singleton_inj.1 (List.append_cancel_left
    (tasks.symm.trans (tasks_opening backend earlier directory)))
  rw [ends] at shows
  rw [run_opening]
  exact shows

/-- If tasks end with outcomes of their scripts, all that is shown of a repository was read from it. -/
theorem Found.reads {stimuli earlier later : List (Stimulus σ)} {directory program : Path}
    {discovery : Discovery}
    (found : Found backend stimuli earlier directory later program discovery first)
    (honest : ∀ former last latter, stimuli = former ++ last :: latter →
      Honest backend (idle.run backend former) last) :
    let origin := idle.run backend (earlier ++ [.opened directory])
    backend.Reads program discovery first ∧
      ∀ reading ∈ origin.readings backend origin.generation later,
        backend.Reads program discovery reading.snapshot := by
  intro origin
  obtain ⟨rfl, stays, task, watching, -, tasks, ends⟩ := found
  obtain rfl := List.singleton_inj.1 (List.append_cancel_left
    (tasks.symm.trans (tasks_opening backend earlier directory)))
  have within {former latter : List (Stimulus σ)} {last : Stimulus σ}
      (split : later = former ++ last :: latter) :
      (∀ stimulus ∈ former, stimulus.switches = false) ∧
        Honest backend (origin.run backend former) last := by
    refine ⟨fun stimulus member => stays stimulus (split ▸ List.mem_append_left _ member), ?_⟩
    rw [← run_opening]
    exact honest _ last latter (by rw [split, List.append_assoc, List.cons_append])
  refine ⟨?_, fun reading member => ?_⟩
  · obtain ⟨former, latter, split, unended⟩ := split_of_outcomeOf? ends
    obtain ⟨stays, honest⟩ := within split
    have searching := since_opening backend earlier directory stays
    rw [unended] at searching
    exact Backend.reads_of_bindScript (honest _ _ _ rfl searching.pending)
  · obtain ⟨former, last, latter, split, ended⟩ := exists_reading? member
    obtain ⟨stays, honest⟩ := within split
    have since := since_opening backend earlier directory stays
    have generation : (origin.run backend former).generation = origin.generation :=
      generation_run stays
    rcases soFar : outcomeOf? ((idle.run backend earlier).discovering directory).id former with _ | _
    all_goals rw [soFar] at since
    · rw [← generation, Searching.reading?_eq_none since] at ended
      contradiction
    · rw [split, outcomeOf?_append, soFar, Option.some_or] at ends
      rw [ends] at since
      obtain ⟨snapshot, holding, -⟩ := since
      obtain ⟨rfl, task, pending, -, current⟩ := reading?_eq_some ended
      have gives := honest _ _ task rfl pending
      obtain ⟨-, ticket, work⟩ :=
        holding.readings task (task?_eq_some pending).1 (current.trans generation.symm)
      rw [script, work] at gives
      exact Backend.reads_of_readScript gives

/-- While a tracker is bound, it shows as a whole what the reading with the largest number has read,
of those of its opening that have ended; the first one until another has ended. Numbers follow the
order of the start, and what is shown never gives way to a reading that was started before it. -/
theorem snapshot_eq_latest {stimuli earlier later : List (Stimulus σ)} {directory program : Path}
    {discovery : Discovery}
    (found : Found backend stimuli earlier directory later program discovery first) :
    let origin := idle.run backend (earlier ++ [.opened directory])
    let ended := origin.readings backend origin.generation later
    (idle.run backend stimuli).bound = some ⟨discovery, latest first ended⟩ ∧
    (idle.run backend stimuli).snapshot backend = latest first ended ∧
    (∀ one ∈ ended, ∀ other ∈ ended, one.ticket < other.ticket ↔ one.task < other.task) ∧
    (∀ former latter, later = former ++ latter →
      ∀ one ∈ (origin.readings backend origin.generation former).argmax Reading.ticket,
        ∃ other ∈ ended.argmax Reading.ticket, one.task ≤ other.task) ∧
    ((∀ former last latter, stimuli = former ++ last :: latter →
        Honest backend (idle.run backend former) last) →
      backend.Reads program discovery first ∧
        ∀ reading ∈ ended, backend.Reads program discovery reading.snapshot) := by
  intro origin ended
  have shows : Latest first ended (idle.run backend stimuli) := found.shows
  obtain ⟨snapshot, -, bound, -⟩ := found.holding
  obtain rfl : snapshot = latest first ended := by
    have shown := shows.shown
    rw [bound] at shown
    exact Option.some.inj shown
  have sorted : Sorted ended (origin.run backend later) := (sorted_run backend _).run later
  have carries {reading : Reading σ} (member : reading ∈ ended) :
      Carries ended (origin.run backend later) reading.task reading.ticket :=
    .inr ⟨reading, member, rfl, rfl⟩
  refine ⟨bound, ?_, fun one member other otherMember => ?_, ?_, found.reads⟩
  · rw [snapshot, bound]
  · exact sorted.order (carries member) (carries otherMember)
  · rintro former latter rfl one shown
    have member : one ∈ ended := by
      have split : ended = origin.readings backend origin.generation former ++ _ :=
        readings_append backend origin.generation origin former latter
      rw [split]
      exact List.mem_append_left _ (List.argmax_mem shown)
    rcases last : ended.argmax Reading.ticket with _ | other
    · rw [List.argmax_eq_none.1 last] at member
      contradiction
    · refine ⟨other, rfl, not_lt.1 fun back => ?_⟩
      have newer := (sorted.order (carries (List.argmax_mem last)) (carries member)).2 back
      exact Nat.not_lt.2 (List.le_of_mem_argmax member last) newer

/-- The second of two readings ends before the first one, and then one of a former opening. -/
def overlapping : List (Stimulus Subversion.State) :=
  [.ended 3 (.found ⟨"/bin/svn"⟩ ⟨⟨"/new"⟩, none, none⟩ ⟨"svn://new"⟩ false), .refresh, .nudge 5,
    .ended 5 (.read ⟨"svn://second"⟩), .ended 4 (.read ⟨"svn://first"⟩), .ended 1 (.read ⟨"svn://old"⟩)]

/-- Two readings of a former opening have numbers, and the second one was shown. -/
theorem snapshot_of_overlapping :
    let former : List (Stimulus Subversion.State) :=
      [.opened ⟨"/old"⟩, .ended 0 (.found ⟨"/bin/svn"⟩ ⟨⟨"/old"⟩, none, none⟩ ⟨"svn://old"⟩ false),
        .refresh, .refresh, .ended 2 (.read ⟨"svn://older"⟩), .closed]
    let origin := idle.run Subversion.backend (former ++ [.opened ⟨"/new"⟩])
    let ended := origin.readings Subversion.backend origin.generation overlapping
    origin.appliedTicket = 2 ∧ ended = [⟨5, 4, ⟨"svn://second"⟩⟩, ⟨4, 3, ⟨"svn://first"⟩⟩] ∧
      (idle.run Subversion.backend (former ++ .opened ⟨"/new"⟩ :: overlapping)).snapshot
        Subversion.backend = latest ⟨"svn://new"⟩ ended ∧
      latest ⟨"svn://new"⟩ ended = ⟨"svn://second"⟩ :=
  ⟨rfl, rfl, (snapshot_eq_latest ⟨rfl, by decide, ⟨3, 5, .discovery ⟨"/new"⟩⟩, false, rfl, rfl,
    rfl⟩).2.1, rfl⟩

end Tracker

end TitleBar
