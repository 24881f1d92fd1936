import TitleBar.Proofs.Repository.Consistency
import TitleBar.Repository.Subversion

/-! # Updates of a repository

A change of the files shows in a reading that was started after it if the watcher of the repository
learns of the change. The watcher is attached after the first reading, so that a change in between is
missed: what the tracker shows then is older than the change, until something else asks for a reading.
-/

namespace TitleBar.Tracker

variable {σ : Type}

/-- A snapshot is the outcome of a reading that was started after a timeline and has ended in the
events since. -/
def ReadSince (there : Timeline (Tracker σ) (Stimulus σ) String) (events : List Event)
    (snapshot : σ) : Prop :=
  ∃ former index latter task, events = former ++ .resumed index :: latter ∧
    (there.undergoAll former).ending? index = some (.ended task.id (.read snapshot)) ∧
    task ∈ (there.undergoAll former).state.tasks ∧ there.state.started ≤ task.id ∧
    task.work.ticket?.isSome

theorem ReadSince.concat {there : Timeline (Tracker σ) (Stimulus σ) String} {events : List Event}
    {snapshot : σ} (read : ReadSince there events snapshot) (last : Event) :
    ReadSince there (events ++ [last]) snapshot := by
  obtain ⟨former, index, latter, task, split, rest⟩ := read
  refine ⟨former, index, latter ++ [last], task, ?_, rest⟩
  rw [split, List.append_assoc, List.cons_append]

variable [DecidableEq σ] {backend : Backend σ} {quiet : ℕ}
  {there line : Timeline (Tracker σ) (Stimulus σ) String}

theorem Consistent.started_le (consistent : Consistent backend quiet line) (positive : 0 < quiet)
    (events : List Event) : line.state.started ≤ (line.undergoAll events).state.started := by
  induction events generalizing line with
  | nil => exact Nat.le_refl _
  | cons event events ih =>
    have turns := consistent.turns event
    refine Nat.le_trans ?_ (ih (turns.consistent positive))
    generalize line.undergo event = next at turns
    cases turns with
    | silent _ state => exact Nat.le_of_eq (congrArg Tracker.started state).symm
    | @stimulated behind stimulus consistent state =>
      obtain ⟨changed, moves⟩ := consistent.happen_moves stimulus
      rw [← state]
      exact (tasks_of_moves moves).1

/-- A reading since then is one that was started since then. -/
theorem ReadSince.started_lt {events : List Event} {snapshot : σ}
    (read : ReadSince there events snapshot) (consistent : Consistent backend quiet there)
    (positive : 0 < quiet) : there.state.started < (there.undergoAll events).state.started := by
  obtain ⟨former, index, latter, task, rfl, -, member, since, -⟩ := read
  have counted := (consistent.undergoAll positive former).ordered.started task member
  have later := (consistent.undergoAll positive former).started_le positive (.resumed index :: latter)
  rw [← Timeline.undergoAll_append] at later
  omega

/-- How far a tracker has come since some change: it has started no reading, it awaits the latest one,
or it shows that one. -/
inductive Progress (backend : Backend σ) (there : Timeline (Tracker σ) (Stimulus σ) String)
    (learned : Prop) (events : List Event) (line : Timeline (Tracker σ) (Stimulus σ) String) : Prop
  | unread (none : line.state.started = there.state.started)
    (report : learned → line.Pending ∧ line.state.bound.isSome)
  | awaiting (bound : line.state.bound.isSome) (awaiting : Awaiting there.state.started line.state)
  | shown (bound : line.state.bound.isSome) (some : there.state.started < line.state.started)
    (latest : line.state.appliedTicket = line.state.nextTicket)
    (read : ReadSince there events (line.state.snapshot backend))

/-- A watcher that reports starts a reading. -/
theorem Holding.started_of_nudge {discovering : Task} {program : Path} {discovery : Discovery}
    {snapshot : σ} {tracker : Tracker σ} {after : Tracker σ × Bool}
    (holding : Holding discovering program discovery snapshot tracker)
    (moves : Moves backend tracker (.nudge tracker.generation) after) :
    after.1.started = tracker.started + 1 := by
  cases moves with
  | asked => rfl
  | unasked asks missing =>
    rw [holding.located, holding.bound] at missing
    rcases missing with missing | missing | former
    · contradiction
    · contradiction
    · exact (former (Option.some.inj asks)).elim

omit [DecidableEq σ] in
theorem Progress.silent {learned : Prop} {events : List Event}
    {next : Timeline (Tracker σ) (Stimulus σ) String}
    (progress : Progress backend there learned events line) (state : next.state = line.state)
    (keeps : line.Pending → next.Pending) (event : Event) :
    Progress backend there learned (events ++ [event]) next := by
  cases progress with
  | unread none report =>
    refine .unread ?_ fun learned => ?_
    · rwa [state]
    · rw [state]
      exact ⟨keeps (report learned).1, (report learned).2⟩
  | awaiting bound awaiting =>
    refine .awaiting ?_ ?_
    · rwa [state]
    · rwa [state]
  | shown bound some latest read =>
    rw [← state] at bound some latest read
    exact .shown bound some latest (read.concat event)

/-- A repository that is held keeps its watcher, and what that has to report. -/
theorem Consistent.pending_happen {stimulus : Stimulus σ} (consistent : Consistent backend quiet line)
    (bound : line.state.bound.isSome) (stays : stimulus.switches = false) (pending : line.Pending) :
    (line.happen stimulus).Pending := by
  obtain ⟨changed, moves⟩ := consistent.happen_moves stimulus
  obtain ⟨_, _, _, _, holding⟩ := consistent.phased.holding bound
  have kept : (line.happen stimulus).watchers = line.watchers :=
    consistent.watchers_become (holding.watchers_of_moves stays moves quiet) _
  rwa [Timeline.Pending, kept]

theorem Progress.happen {learned : Prop} {events : List Event} {event : Event}
    {behind : Timeline (Tracker σ) (Stimulus σ) String} {stimulus : Stimulus σ}
    (progress : Progress backend there learned events (there.undergoAll events))
    (consistent : Consistent backend quiet behind)
    (state : behind.state = (there.undergoAll events).state)
    (honest : Honest backend behind.state stimulus) (stays : stimulus.switches = false)
    (keeps : ((there.undergoAll events).Pending → behind.Pending) ∨
      stimulus = .nudge behind.state.generation)
    (ends : ∀ id outcome, stimulus = .ended id outcome →
      ∃ index, event = .resumed index ∧ (there.undergoAll events).ending? index = some stimulus) :
    Progress backend there learned (events ++ [event]) (behind.happen stimulus) := by
  obtain ⟨changed, moves⟩ := consistent.happen_moves stimulus
  have bound := (bound_of_moves consistent.watched moves).2 stays
  have counted := (tasks_of_moves moves).1
  cases progress with
  | unread none report =>
    rw [← state] at none report
    rcases consistent.numbered.started_of_moves stays moves with same | ⟨awaiting, bound⟩
    · refine .unread (same.trans none) fun learned => ?_
      obtain ⟨pending, held⟩ := report learned
      refine ⟨?_, bound held⟩
      rcases keeps with keeps | rfl
      · exact consistent.pending_happen held stays (keeps pending)
      · obtain ⟨_, _, _, _, holding⟩ := consistent.phased.holding held
        have more := holding.started_of_nudge moves
        exact (Nat.succ_ne_self _ (more.symm.trans same)).elim
    · rw [none] at awaiting
      exact .awaiting bound awaiting
  | awaiting held awaiting =>
    rw [← state] at held awaiting
    rcases awaiting.of_moves consistent.ordered consistent.numbered held honest stays moves with
      still | ⟨task, snapshot, rfl, member, since, reading, latest, shows⟩
    · exact .awaiting (bound held) still
    · obtain ⟨index, rfl, ending⟩ := ends _ _ rfl
      have started := consistent.ordered.started task member
      have some := Nat.lt_of_lt_of_le (Nat.lt_of_le_of_lt since started) counted
      rw [state] at member
      refine .shown (bound held) some latest ?_
      rw [shows]
      exact ⟨events, index, [], task, rfl, ending, member, since, reading⟩
  | shown held some latest read =>
    rw [← state] at held some latest read
    obtain ⟨_, _, _, _, holding⟩ := consistent.phased.holding held
    rcases holding.settled_of_moves consistent.numbered latest stays moves with
      awaiting | ⟨latest, shows⟩
    · exact .awaiting (bound held) (awaiting.of_le (Nat.le_of_lt some))
    · refine .shown (bound held) (Nat.lt_of_lt_of_le some counted) latest ?_
      rw [shows]
      exact read.concat event

theorem Progress.undergo {learned : Prop} {events : List Event} {event : Event}
    (progress : Progress backend there learned events (there.undergoAll events))
    (consistent : Consistent backend quiet (there.undergoAll events))
    (stays : event.switches = false) :
    Progress backend there learned (events ++ [event]) (there.undergoAll (events ++ [event])) := by
  rw [Timeline.undergoAll_append]
  have turns := consistent.turns event
  change Progress backend there learned _ ((there.undergoAll events).undergo event)
  generalize (there.undergoAll events).undergo event = next at turns
  cases turns with
  | silent _ state keeps => exact progress.silent state keeps event
  | stimulated behind state honest switches keeps ends =>
    rw [← state] at honest keeps
    exact progress.happen behind state honest (switches.trans stays) keeps ends

/-- A change that the watcher learns of leaves it with a report to make. -/
theorem Consistent.progress (consistent : Consistent backend quiet there) (change : Change) :
    Progress backend there
      (∃ held ∈ there.watchers, held.2.Learns (change.noting there.files).2)
      [.changed change] (there.undergoAll [.changed change]) := by
  change Progress backend there _ _ (there.undergo (.changed change))
  rw [Timeline.undergo_changed]
  refine .unread rfl fun learns => ⟨consistent.noteChanges_pending _ learns, ?_⟩
  rcases consistent.watchers_cases with ⟨none, -⟩ | ⟨_, _, -, -, -, watching⟩
  · obtain ⟨held, member, -⟩ := learns
    rw [none] at member
    contradiction
  · exact consistent.watched watching

theorem Consistent.progress_undergoAll (consistent : Consistent backend quiet there)
    (positive : 0 < quiet) (change : Change) {later : List Event}
    (stays : ∀ event ∈ later, event.switches = false) :
    Progress backend there
      (∃ held ∈ there.watchers, held.2.Learns (change.noting there.files).2)
      (.changed change :: later) (there.undergoAll (.changed change :: later)) := by
  induction later using List.reverseRecOn with
  | nil => exact consistent.progress change
  | append_singleton later last ih =>
    rw [List.forall_mem_append, List.forall_mem_singleton] at stays
    exact (ih stays.1).undergo (consistent.undergoAll positive _) stays.2

/-- Once nothing is outstanding, what a tracker shows was read after a change of the files exactly if
its watcher has learned of the change, or another reading was started since. -/
theorem read_since_change_iff (backend : Backend σ) {quiet : ℕ} (positive : 0 < quiet)
    (files : Files) (tools : Tools) (earlier later : List Event) (change : Change)
    {there now : Timeline (Tracker σ) (Stimulus σ) String}
    (reaches : there = (Timeline.start (machine backend quiet) files tools idle).undergoAll earlier)
    (ends : now = there.undergoAll (.changed change :: later))
    (stays : ∀ event ∈ later, event.switches = false) (settled : now.state.settled)
    (reported : ¬now.Pending) :
    ReadSince there (.changed change :: later) (now.state.snapshot backend) ↔
      (∃ held ∈ there.watchers, held.2.Learns (change.noting there.files).2) ∨
        there.state.started < now.state.started := by
  have consistent : Consistent backend quiet there := by
    rw [reaches]
    exact (consistent_start backend quiet files tools).undergoAll positive earlier
  have progress := consistent.progress_undergoAll positive change stays
  rw [← ends] at progress
  cases progress with
  | unread none report =>
    constructor
    · intro read
      have some := read.started_lt consistent positive
      rw [← ends] at some
      omega
    · rintro (learned | some)
      · exact (reported (report learned).1).elim
      · omega
  | awaiting _ awaiting =>
    obtain ⟨-, task, member, -⟩ := awaiting
    rw [List.isEmpty_iff.1 settled] at member
    contradiction
  | shown _ some _ read => exact ⟨fun _ => .inr some, fun _ => read⟩

/-- How Subversion finds and reads a working copy. -/
theorem bindScript_subversion (start : Path) :
    Subversion.backend.bindScript start = .locate "svn" fun
      | none => .done .nothing
      | some program => .look fun files =>
        (nearestMarked? files start ".svn").elim (.done .nothing) fun root =>
          .run ⟨root, program, ["info"]⟩ fun output => .look fun files =>
            .done (.found program ⟨root, some (root.join ".svn"), none⟩
              ((output.map fun lines =>
                (⟨(Subversion.url? lines).getD ""⟩ : Subversion.State)).getD ⟨""⟩)
              (files.contains (root.join ".svn"))) := by
  refine congrArg (Script.locate "svn") (funext fun program => ?_)
  rcases program with _ | program
  · rfl
  refine congrArg Script.look (funext fun files => ?_)
  change Script.bind (.done ((nearestMarked? files start ".svn").map _)) _ = _
  rcases nearestMarked? files start ".svn" with _ | root
  · rfl
  · rfl

/-- A working copy. -/
def workingCopy : Files := ⟨[(["wc"], .directory), (["wc", ".svn"], .directory)]⟩

theorem nearestMarked?_workingCopy :
    nearestMarked? workingCopy ⟨"/wc"⟩ ".svn" = some ⟨"/wc"⟩ := by
  have parts : Path.parts ⟨"/wc/.svn"⟩ = [.root, .name "wc", .name ".svn"] := by decide +kernel
  have outer : workingCopy.node? ["wc"] = some .directory := rfl
  have inner : workingCopy.node? ["wc", ".svn"] = some .directory := rfl
  have walked : workingCopy.walk Files.maxLinks [] [.root, .name "wc", .name ".svn"] =
      .ok ["wc", ".svn"] := by
    simp [Files.walk, outer, inner]
  have located : workingCopy.locate ⟨"/wc/.svn"⟩ = .ok ["wc", ".svn"] := by
    rw [Files.locate, if_neg (by decide +kernel), Files.resolve, if_neg (by decide +kernel), parts,
      walked]
    rfl
  have contained : workingCopy.contains ⟨"/wc/.svn"⟩ = true := by
    rw [Files.contains, Files.nodeAt?, located]
    rfl
  have ancestors : Path.ancestors ⟨"/wc"⟩ = [⟨"/wc"⟩, ⟨"/"⟩] := by decide +kernel
  have joined : Path.join ⟨"/wc"⟩ ".svn" = ⟨"/wc/.svn"⟩ := by decide +kernel
  rw [nearestMarked?, ancestors, List.find?_cons, joined, contained]

/-- A Subversion that takes two seconds to answer. -/
def slowly (url : String) : Tools :=
  ⟨fun _ _ => some ⟨"/bin/svn"⟩, fun _ _ => ⟨some ["URL: " ++ url], 2000⟩⟩

/-- A tracker whose first reading has been made and is still to end. -/
def firstReading : Timeline (Tracker Subversion.State) (Stimulus Subversion.State) String :=
  (Timeline.start (machine Subversion.backend quietPeriod) workingCopy (slowly "svn://old")
    idle).undergoAll [.opened ⟨"/wc"⟩, .resumed 0]

theorem firstReading_eq : firstReading =
    { Timeline.start (machine Subversion.backend quietPeriod) workingCopy (slowly "svn://old")
        (idle.unbind.bind ⟨"/wc"⟩) with
      jobs := [⟨2000, .look fun files => .done (.ended 0 (.found ⟨"/bin/svn"⟩
        ⟨⟨"/wc"⟩, some (Path.join ⟨"/wc"⟩ ".svn"), none⟩
        ⟨(Subversion.url? ["URL: " ++ "svn://old"]).getD ""⟩
        (files.contains (Path.join ⟨"/wc"⟩ ".svn"))))⟩]
      calls := [⟨⟨"/wc"⟩, ⟨"/bin/svn"⟩, ["info"]⟩] } := by
  have started : firstReading = { Timeline.start (machine Subversion.backend quietPeriod) workingCopy
      (slowly "svn://old") (idle.unbind.bind ⟨"/wc"⟩) with jobs := [] }.proceed
        ((Subversion.backend.bindScript ⟨"/wc"⟩).map (.ended 0)) := rfl
  rw [started, bindScript_subversion]
  change Timeline.proceed _
    (Script.bind (Option.elim (nearestMarked? workingCopy ⟨"/wc"⟩ ".svn") _ _) _) = _
  rw [nearestMarked?_workingCopy]
  rfl

/-- A change that comes before the end of the first reading is missed. -/
theorem read_since_change_missed :
    let events : List Event :=
      [.changed (.wrote ⟨"/wc/.svn/wc.db"⟩ []), .equipped (slowly "svn://new"), .resumed 0]
    let now := firstReading.undergoAll events
    now.state.bound.isSome ∧ now.state.settled ∧ ¬now.Pending ∧
      now.state.snapshot Subversion.backend = ⟨"svn://old"⟩ ∧
      ¬ReadSince firstReading events (now.state.snapshot Subversion.backend) := by
  intro events now
  have settled : now.state.settled := by
    simp only [now, events, firstReading_eq]
    rfl
  have held : now.state.bound = some ⟨⟨⟨"/wc"⟩, some (Path.join ⟨"/wc"⟩ ".svn"), none⟩,
      ⟨(Subversion.url? ["URL: " ++ "svn://old"]).getD ""⟩⟩ := by
    simp only [now, events, firstReading_eq]
    rfl
  have url : (Subversion.url? ["URL: " ++ "svn://old"]).getD "" = "svn://old" := by decide +kernel
  have started : now.state.started = firstReading.state.started := by
    simp only [now, events, firstReading_eq]
    rfl
  have unwatched : firstReading.watchers = [] := by
    rw [firstReading_eq]
    rfl
  have reported : ¬now.Pending := by
    simp only [now, events, firstReading_eq]
    exact Timeline.not_pending_become rfl
  refine ⟨?_, settled, reported, ?_, ?_⟩
  · rw [held]
    rfl
  · rw [snapshot, held, url]
  · have missed : ReadSince firstReading events (now.state.snapshot Subversion.backend) ↔ _ :=
      read_since_change_iff Subversion.backend (by decide) workingCopy (slowly "svn://old")
        [.opened ⟨"/wc"⟩, .resumed 0] [.equipped (slowly "svn://new"), .resumed 0] _ rfl rfl
        (by decide) settled reported
    rw [missed, unwatched, started]
    rintro (⟨_, member, -⟩ | more)
    · exact List.not_mem_nil member
    · exact Nat.lt_irrefl _ more

end TitleBar.Tracker
