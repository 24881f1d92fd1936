import TitleBar.Proofs.Repository.Consistency
import TitleBar.Proofs.Session.Audience

/-! # Rule files follow what their files hold

A watched rule file takes in every change that its watcher learns of, once the watcher has made its
report. Reading a file and watching it are separate operations, though, and watching does not read:
a change that comes between the two stays unknown until the host has the file read again, or until
another change comes. So does a change whose report is lost because another watcher takes the place
of the one that was to make it.
-/

namespace TitleBar.SettingsFile

/-- What was read last. -/
def reading (file : SettingsFile) : Option String × List Rule := (file.digest, file.rules)

/-- What happens to a rule file and to the files of its host. -/
inductive Event where
  | changed (change : Change)
  /-- The host has the file read again. -/
  | reloaded
  /-- The host has the file watched from now on. -/
  | watched
  /-- Time passes for the watcher, which makes its report. -/
  | waited (duration : ℕ)

/-- Whether an event changes the files of the host. -/
def Event.changes : Event → Bool
  | .changed _ => true
  | _ => false

/-- A rule file that has just been opened. -/
def start [RuleFormat] (files : Files) (tools : Tools) (origin : RuleOrigin) (path : Path) :
    Timeline SettingsFile Unit String :=
  Timeline.start machine files tools (opened files origin path)

/-- A timeline after an event. -/
def undergo [RuleFormat] (line : Timeline SettingsFile Unit String) : Event → Timeline SettingsFile Unit String
  | .changed (.wrote path content) => line.write path content
  | .changed (.removed path) => line.remove path
  | .reloaded => { line with state := (line.state.reload line.files).1 }
  | .watched => line.become (line.state.watch line.files) []
  | .waited duration => { line with waited := line.waited + duration }.report

/-- A timeline after some events. -/
def undergoAll [RuleFormat] (line : Timeline SettingsFile Unit String) (events : List Event) :
    Timeline SettingsFile Unit String :=
  events.foldl undergo line

/-- Whether what was read last is what the file holds. -/
def Current [RuleFormat] (line : Timeline SettingsFile Unit String) : Prop :=
  line.state.reading = content line.files line.state.path

/-- Whether a watcher learns of a change. -/
def Learned (line : Timeline SettingsFile Unit String) (change : Change) : Prop :=
  ∃ held ∈ line.watchers, held.2.Learns (change.noting line.files).2

/-- Whether a file can be watched, which takes a directory that it stands in. -/
def Watchable (files : Files) (file : SettingsFile) : Prop :=
  ∃ directory, file.path.parent? = some directory ∧ files.isDirectory directory

/-- Whether an event leaves nothing behind that nobody will report: a change of what the file holds
is one that its watcher learns of, unless there is a report to make anyhow, and no watcher that has
a report to make is replaced. -/
def Heard [RuleFormat] (line : Timeline SettingsFile Unit String) : Event → Prop
  | .changed change =>
    line.Pending ∨ Learned line change ∨
      content (change.noting line.files).1 line.state.path = content line.files line.state.path
  | .watched => line.Pending → ¬Watchable line.files line.state
  | .reloaded | .waited _ => True

/-- Whether all of some events leave nothing behind that nobody will report. -/
def AllHeard [RuleFormat] (line : Timeline SettingsFile Unit String) : List Event → Prop
  | [] => True
  | event :: events => Heard line event ∧ AllHeard (undergo line event) events

variable {line next : Timeline SettingsFile Unit String} {files : Files} {file : SettingsFile}

/-! ## Single steps -/

theorem watch_of_watchable (watchable : Watchable files file) :
    ∃ directory, file.watch files =
      { file with watched := some directory, attached := file.attached + 1 } := by
  obtain ⟨directory, parent, there⟩ := watchable
  exact ⟨directory, by simp [watch, parent, there]⟩

theorem watch_of_not_watchable (unwatchable : ¬Watchable files file) : file.watch files = file := by
  rw [watch]
  split
  · rename_i directory parent
    exact if_neg fun there => unwatchable ⟨directory, parent, there⟩
  · rfl

section Library

variable [RuleFormat]

theorem reload_fst (files : Files) (file : SettingsFile) :
    (file.reload files).1 =
      { file with digest := (content files file.path).1, rules := (content files file.path).2 } := by
  rcases read : content files file.path with ⟨digest, rules⟩
  simp only [reload, read]
  split
  · rename_i same
    rw [← same.1, ← same.2]
  · rfl

@[simp] theorem reading_reload : (file.reload files).1.reading = content files file.path := by
  rw [reload_fst]
  rfl

@[simp] theorem path_reload : (file.reload files).1.path = file.path := by rw [reload_fst]

theorem watchers_reload {E : Type} (source : String) (report : E) :
    watchers source report (file.reload files).1 = watchers source report file := by
  rw [reload_fst]
  rfl

/-- A timeline that carries the watcher that its rule file asks for. -/
structure Consistent (line : Timeline SettingsFile Unit String) : Prop where
  machine : line.machine = SettingsFile.machine
  held : line.watchers.map (·.1) = watchers source () line.state
  flat : ∀ held ∈ line.watchers, held.2.scope.recursive = false
  patient : ∀ held ∈ line.watchers, held.2.Patient line.waited

theorem consistent_start (files : Files) (tools : Tools) (origin : RuleOrigin) (path : Path) :
    Consistent (start files tools origin path) where
  machine := rfl
  held := by
    change [] = watchers source () (reload files _).1
    rw [watchers_reload]
    rfl
  flat _ member := (List.not_mem_nil member).elim
  patient _ member := (List.not_mem_nil member).elim

/-- The watcher of a rule file, if it has one. -/
theorem Consistent.watchers_cases (consistent : Consistent line) :
    (line.watchers = [] ∧ watchers source () line.state = []) ∨
      ∃ request watcher, line.watchers = [(request, watcher)] ∧
        watchers source () line.state = [request] ∧
        request.tie = ⟨source, line.state.attached⟩ := by
  have held := consistent.held
  rcases watching : line.state.watched with _ | directory
  · left
    have none : watchers source () line.state = [] := by rw [watchers, watching]; rfl
    rw [none] at held
    exact ⟨List.map_eq_nil_iff.1 held, none⟩
  · right
    have one : watchers source () line.state = [⟨⟨source, line.state.attached⟩,
        ⟨directory, false, .named line.state.path.fileName?⟩, quietPeriod, ()⟩] := by
      rw [watchers, watching]
      rfl
    rw [one] at held
    obtain ⟨⟨request, watcher⟩, single, rfl⟩ := List.map_eq_singleton_iff.1 held
    exact ⟨_, watcher, single, one, rfl⟩

/-- A rule file that asks for the same watcher as before keeps it. -/
theorem Consistent.watchers_become (consistent : Consistent line)
    (same : watchers source () file = watchers source () line.state) (notices : List String) :
    (line.become file notices).watchers = line.watchers := by
  have asked : line.machine.watchers file = watchers source () line.state := by
    rw [consistent.machine, ← same]
    rfl
  rcases consistent.watchers_cases with ⟨held, none⟩ | ⟨request, watcher, held, one, -⟩
  · simp [Timeline.become, Timeline.sync, asked, held, none]
  · simp [Timeline.become, Timeline.sync, asked, held, one]

theorem Consistent.become (consistent : Consistent line)
    (same : watchers source () file = watchers source () line.state) (notices : List String) :
    Consistent (line.become file notices) := by
  have kept := consistent.watchers_become same notices
  refine ⟨consistent.machine, ?_, ?_, ?_⟩
  · rw [kept, consistent.held, ← same]
    rfl
  · rw [kept]
    exact consistent.flat
  · rw [kept]
    exact consistent.patient

/-- What an event does to a timeline. -/
inductive Turns (line : Timeline SettingsFile Unit String) :
    Event → Timeline SettingsFile Unit String → Prop
  | changed {change : Change} {next : Timeline SettingsFile Unit String}
    (state : next.state = line.state) (files : next.files = (change.noting line.files).1)
    (notices : next.notices = line.notices)
    (pending : next.Pending ↔ line.Pending ∨ Learned line change) : Turns line (.changed change) next
  | reloaded {next : Timeline SettingsFile Unit String}
    (state : next.state = (line.state.reload line.files).1) (files : next.files = line.files)
    (notices : next.notices = line.notices) (pending : next.Pending ↔ line.Pending) :
    Turns line .reloaded next
  | watched {next : Timeline SettingsFile Unit String}
    (reading : next.state.reading = line.state.reading) (path : next.state.path = line.state.path)
    (files : next.files = line.files) (notices : next.notices = line.notices)
    (pending : next.Pending ↔ line.Pending ∧ ¬Watchable line.files line.state) :
    Turns line .watched next
  | waited {duration : ℕ} {next : Timeline SettingsFile Unit String}
    (state : next.state = line.state) (files : next.files = line.files)
    (notices : next.notices = line.notices) (pending : next.Pending ↔ line.Pending) :
    Turns line (.waited duration) next
  | reported {duration : ℕ} {next : Timeline SettingsFile Unit String} (due : line.Pending)
    (state : next.state = (line.state.reload line.files).1) (files : next.files = line.files)
    (notices : next.notices =
      line.notices ++ if (line.state.reload line.files).2 then [source] else [])
    (pending : ¬next.Pending) : Turns line (.waited duration) next

theorem undergo_changed (line : Timeline SettingsFile Unit String) (change : Change) :
    undergo line (.changed change) =
      { line with files := (change.noting line.files).1 }.noteChanges (change.noting line.files).2 := by
  cases change <;> rfl

/-- A watcher has a report to make behind a change if it had one before, or if it learns of the
change. -/
theorem Consistent.pending_noteChanges_iff (consistent : Consistent line) (files : Files)
    (changed : List Location) :
    ({ line with files }.noteChanges changed).Pending ↔
      line.Pending ∨ ∃ held ∈ line.watchers, held.2.Learns changed := by
  have noticed : ∀ held ∈ line.watchers,
      ((held.2.notice files line.waited changed).Pending ↔ held.2.Pending ∨ held.2.Learns changed) :=
    fun held member =>
      (consistent.patient held member).notice_pending_iff (consistent.flat held member) files changed
  constructor
  · rintro ⟨held, member, pending⟩
    obtain ⟨former, earlier, rfl⟩ := List.mem_map.1 member
    exact ((noticed former earlier).1 pending).imp (⟨former, earlier, ·⟩) (⟨former, earlier, ·⟩)
  · rintro (⟨former, earlier, before⟩ | ⟨former, earlier, learns⟩)
    · exact ⟨_, List.mem_map.2 ⟨former, earlier, rfl⟩, (noticed former earlier).2 (.inl before)⟩
    · exact ⟨_, List.mem_map.2 ⟨former, earlier, rfl⟩, (noticed former earlier).2 (.inr learns)⟩

theorem Consistent.noteChanges (consistent : Consistent line) (files : Files)
    (changed : List Location) : Consistent ({ line with files }.noteChanges changed) where
  machine := consistent.machine
  held := (line.map_fst_noteChanges files changed).trans consistent.held
  flat := by
    intro held member
    obtain ⟨former, earlier, rfl⟩ := List.mem_map.1 member
    exact (congrArg WatchScope.recursive
      ((consistent.patient former earlier).scope_notice files changed)).trans
        (consistent.flat former earlier)
  patient := by
    intro held member
    obtain ⟨former, earlier, rfl⟩ := List.mem_map.1 member
    exact (consistent.patient former earlier).notice files changed

/-- The watcher of a rule file that is watched anew takes the place of the one before. -/
theorem Consistent.watchers_become_attached (consistent : Consistent line) (directory : Path) :
    let scope : WatchScope := ⟨directory, false, .named line.state.path.fileName?⟩
    (line.become { line.state with watched := some directory, attached := line.state.attached + 1 }
        []).watchers =
      [(⟨⟨source, line.state.attached + 1⟩, scope, quietPeriod, ()⟩,
        Watcher.start scope line.files quietPeriod)] := by
  intro scope
  have asked : line.machine.watchers
      { line.state with watched := some directory, attached := line.state.attached + 1 } =
        [⟨⟨source, line.state.attached + 1⟩, scope, quietPeriod, ()⟩] := by
    rw [consistent.machine]
    rfl
  rcases consistent.watchers_cases with ⟨held, -⟩ | ⟨request, watcher, held, -, tie⟩
  · simp [Timeline.become, Timeline.sync, asked, held]
  · simp [Timeline.become, Timeline.sync, asked, held, tie]

theorem Consistent.watched_turns (consistent : Consistent line) :
    Consistent (undergo line .watched) ∧ Turns line .watched (undergo line .watched) := by
  rw [undergo]
  by_cases watchable : Watchable line.files line.state
  · obtain ⟨directory, attached⟩ := watch_of_watchable watchable
    rw [attached]
    have new := consistent.watchers_become_attached directory
    refine ⟨⟨consistent.machine, ?_, ?_, ?_⟩, .watched rfl rfl rfl (List.append_nil _) ?_⟩
    · rw [new]
      rfl
    · rw [new, List.forall_mem_singleton]
      rfl
    · rw [new, List.forall_mem_singleton]
      refine ⟨show 0 < quietPeriod by decide, fun ends some => ?_⟩
      contradiction
    · rw [Timeline.Pending, new]
      simp [watchable, Watcher.Pending, Watcher.start, Debouncer.idle]
  · rw [watch_of_not_watchable watchable]
    refine ⟨consistent.become rfl [], .watched rfl rfl rfl (List.append_nil _) ?_⟩
    rw [Timeline.Pending, consistent.watchers_become rfl]
    exact (and_iff_left watchable).symm

theorem Consistent.waited_turns (consistent : Consistent line) (duration : ℕ) :
    Consistent (undergo line (.waited duration)) ∧
      Turns line (.waited duration) (undergo line (.waited duration)) := by
  let passed := { line with waited := line.waited + duration }
  change Consistent passed.report ∧ Turns line (.waited duration) passed.report
  by_cases early : ∀ held ∈ line.watchers, held.2.debouncer.isDue passed.waited = false
  · rw [show passed.report = passed from Timeline.report_of_early early]
    refine ⟨{ consistent with patient := ?_ }, .waited rfl rfl rfl Iff.rfl⟩
    exact fun held member => (consistent.patient held member).of_early (early held member)
  · rcases consistent.watchers_cases with ⟨none, -⟩ | ⟨request, watcher, one, asked, -⟩
    · rw [none] at early
      exact (early fun _ member => (List.not_mem_nil member).elim).elim
    have patient := consistent.patient
    have flat := consistent.flat
    rw [one, List.forall_mem_singleton] at patient flat
    have due : watcher.debouncer.isDue passed.waited := by
      rw [one, List.forall_mem_singleton] at early
      simpa using early
    let told := { passed with
      watchers := [(request, { watcher with debouncer := watcher.debouncer.report })] }
    have reported : passed.report = told.happen request.report := Timeline.report_of_due one due
    have consistentTold : Consistent told := by
      refine ⟨consistent.machine, consistent.held.symm ▸ asked.symm, ?_, ?_⟩
      · rw [List.forall_mem_singleton]
        exact flat
      · rw [List.forall_mem_singleton]
        exact patient.report _
    have step : told.happen request.report = told.become (line.state.reload line.files).1
        (if (line.state.reload line.files).2 then [source] else []) := by
      rw [Timeline.happen_eq, show told.machine = SettingsFile.machine from consistent.machine]
      rfl
    rw [reported, step]
    refine ⟨consistentTold.become (watchers_reload source ()) _, .reported ?_ rfl rfl rfl ?_⟩
    · exact ⟨(request, watcher), by rw [one]; exact List.mem_cons_self, Watcher.pending_of_isDue due⟩
    · rw [Timeline.Pending, consistentTold.watchers_become (watchers_reload source ())]
      rintro ⟨held, member, pending⟩
      rw [List.mem_singleton.1 member] at pending
      contradiction

theorem Consistent.turns (consistent : Consistent line) (event : Event) :
    Consistent (undergo line event) ∧ Turns line event (undergo line event) := by
  cases event with
  | changed change =>
    rw [undergo_changed]
    exact ⟨consistent.noteChanges _ _, .changed rfl rfl rfl (consistent.pending_noteChanges_iff _ _)⟩
  | reloaded =>
    exact ⟨{ consistent with held := consistent.held.trans (watchers_reload source ()).symm },
      .reloaded rfl rfl rfl Iff.rfl⟩
  | watched => exact consistent.watched_turns
  | waited duration => exact consistent.waited_turns duration

theorem Turns.notices_length {event : Event} (turns : Turns line event next) :
    line.notices.length ≤ next.notices.length := by
  cases turns with
  | changed _ _ notices | reloaded _ _ notices | watched _ _ _ notices | waited _ _ notices =>
    exact Nat.le_of_eq (congrArg List.length notices.symm)
  | reported _ _ _ notices =>
    rw [notices, List.length_append]
    exact Nat.le_add_right _ _

/-- Rules become others only with a notice, or when the host has the file read. -/
theorem Turns.rules {event : Event} (turns : Turns line event next)
    (others : next.state.rules ≠ line.state.rules) :
    line.notices.length < next.notices.length ∨
      event = .reloaded ∧ (line.state.reload line.files).2 = true := by
  cases turns with
  | changed state | waited state => exact (others (congrArg SettingsFile.rules state)).elim
  | watched reading => exact (others (congrArg Prod.snd reading)).elim
  | reloaded state =>
    refine .inr ⟨rfl, Bool.of_not_eq_false fun unchanged => others ?_⟩
    rw [state, reload_of_unchanged unchanged]
  | reported _ state _ notices =>
    left
    have effective : (line.state.reload line.files).2 = true := by
      refine Bool.of_not_eq_false fun unchanged => others ?_
      rw [state, reload_of_unchanged unchanged]
    rw [notices, effective, if_pos rfl, List.length_append]
    exact Nat.lt_succ_self _

theorem current_of_reload (state : next.state = (line.state.reload line.files).1)
    (files : next.files = line.files) : Current next := by
  rw [Current, state, files, reading_reload, path_reload]

/-- As long as every event is heard, there is a report to make, or what was read last is what the
file holds. -/
theorem Turns.sound {event : Event} (turns : Turns line event next) (heard : Heard line event)
    (sound : line.Pending ∨ Current line) : next.Pending ∨ Current next := by
  cases turns with
  | changed state files _ pending =>
    rcases sound with before | current
    · exact .inl (pending.2 (.inl before))
    · rcases heard with before | learned | same
      · exact .inl (pending.2 (.inl before))
      · exact .inl (pending.2 (.inr learned))
      · right
        rw [Current, state, files, same]
        exact current
  | reloaded state files => exact .inr (current_of_reload state files)
  | watched reading path files _ pending =>
    rcases sound with before | current
    · exact .inl (pending.2 ⟨before, heard before⟩)
    · right
      rw [Current, reading, path, files]
      exact current
  | waited state files _ pending =>
    rcases sound with before | current
    · exact .inl (pending.2 before)
    · right
      rw [Current, state, files]
      exact current
  | reported _ state files => exact .inr (current_of_reload state files)

theorem Turns.current_of_reloaded (turns : Turns line .reloaded next) : Current next := by
  cases turns with
  | reloaded state files => exact current_of_reload state files

theorem Turns.of_changed {change : Change} (turns : Turns line (.changed change) next) :
    next.state = line.state ∧ (next.Pending ↔ line.Pending ∨ Learned line change) := by
  cases turns with
  | changed state _ _ pending => exact ⟨state, pending⟩

/-- What was read last stays what the file holds while no files are changed. -/
theorem Turns.current {event : Event} (turns : Turns line event next) (quiet : event.changes = false)
    (current : Current line) : Current next := by
  cases turns with
  | changed => contradiction
  | reloaded state files | reported _ state files => exact current_of_reload state files
  | watched reading path files =>
    rw [Current, reading, path, files]
    exact current
  | waited state files =>
    rw [Current, state, files]
    exact current

/-- Without a change of files, a watcher gets no report to make, and none is lost where there is
none. -/
theorem Turns.not_pending {event : Event} (turns : Turns line event next)
    (quiet : event.changes = false) (reported : ¬line.Pending) :
    ¬next.Pending ∧ Heard line event := by
  cases turns with
  | changed => contradiction
  | reloaded _ _ _ pending | waited _ _ _ pending => exact ⟨mt pending.1 reported, trivial⟩
  | watched _ _ _ _ pending =>
    exact ⟨fun still => reported (pending.1 still).1, fun before => (reported before).elim⟩
  | reported due => exact (reported due).elim

/-- Without a change of files and unless the host asks for it, a file is read again only for a
report. -/
theorem Turns.unread {event : Event} (turns : Turns line event next) (quiet : event.changes = false)
    (unasked : .reloaded ≠ event) :
    (next.state.reading = line.state.reading ∧ (next.Pending → line.Pending ∧ Heard line event)) ∨
      line.Pending ∧ ¬next.Pending ∧ Heard line event := by
  cases turns with
  | changed => contradiction
  | reloaded => contradiction
  | watched reading _ _ _ pending =>
    exact .inl ⟨reading, fun still => ⟨(pending.1 still).1, fun _ => (pending.1 still).2⟩⟩
  | waited state _ _ pending =>
    exact .inl ⟨congrArg reading state, fun still => ⟨pending.1 still, trivial⟩⟩
  | reported due _ _ _ reported => exact .inr ⟨due, reported, trivial⟩

/-! ## Runs -/

theorem undergoAll_append (line : Timeline SettingsFile Unit String) (first second : List Event) :
    undergoAll line (first ++ second) = undergoAll (undergoAll line first) second :=
  List.foldl_append

theorem Consistent.after (consistent : Consistent line) (events : List Event) :
    Consistent (undergoAll line events) := by
  induction events generalizing line with
  | nil => exact consistent
  | cons event events ih => exact ih (consistent.turns event).1

theorem Consistent.sound_undergoAll (consistent : Consistent line) {events : List Event}
    (heard : AllHeard line events) (sound : line.Pending ∨ Current line) :
    (undergoAll line events).Pending ∨ Current (undergoAll line events) := by
  induction events generalizing line with
  | nil => exact sound
  | cons event events ih =>
    obtain ⟨consistentNext, turns⟩ := consistent.turns event
    exact ih consistentNext heard.2 (turns.sound heard.1 sound)

theorem Consistent.current_undergoAll (consistent : Consistent line) {events : List Event}
    (quiet : ∀ event ∈ events, event.changes = false) (current : Current line) :
    Current (undergoAll line events) := by
  induction events generalizing line with
  | nil => exact current
  | cons event events ih =>
    rw [List.forall_mem_cons] at quiet
    obtain ⟨consistentNext, turns⟩ := consistent.turns event
    exact ih consistentNext quiet.2 (turns.current quiet.1 current)

theorem Consistent.notices_undergoAll (consistent : Consistent line) (events : List Event) :
    line.notices.length ≤ (undergoAll line events).notices.length := by
  induction events generalizing line with
  | nil => exact Nat.le_refl _
  | cons event events ih =>
    obtain ⟨consistentNext, turns⟩ := consistent.turns event
    exact Nat.le_trans turns.notices_length (ih consistentNext)

theorem Consistent.rules_undergoAll (consistent : Consistent line) {events : List Event}
    (others : (undergoAll line events).state.rules ≠ line.state.rules) :
    line.notices.length < (undergoAll line events).notices.length ∨
      ∃ part rest, events = part ++ .reloaded :: rest ∧
        ((undergoAll line part).state.reload (undergoAll line part).files).2 = true := by
  induction events generalizing line with
  | nil => exact (others rfl).elim
  | cons event events ih =>
    obtain ⟨consistentNext, turns⟩ := consistent.turns event
    by_cases same : (undergo line event).state.rules = line.state.rules
    · rcases ih consistentNext (same ▸ others) with more | ⟨part, rest, rfl, effective⟩
      · exact .inl (Nat.lt_of_le_of_lt turns.notices_length more)
      · exact .inr ⟨event :: part, rest, rfl, effective⟩
    · rcases turns.rules same with more | ⟨rfl, effective⟩
      · exact .inl (Nat.lt_of_lt_of_le more (consistentNext.notices_undergoAll events))
      · exact .inr ⟨[], events, rfl, effective⟩

/-- While no files are changed, there is nothing to miss for a watcher that has no report to make. -/
theorem Consistent.allHeard_of_not_pending (consistent : Consistent line) {events : List Event}
    (quiet : ∀ event ∈ events, event.changes = false) (reported : ¬line.Pending) :
    AllHeard line events := by
  induction events generalizing line with
  | nil => exact trivial
  | cons event events ih =>
    rw [List.forall_mem_cons] at quiet
    obtain ⟨consistentNext, turns⟩ := consistent.turns event
    obtain ⟨reportedNext, heard⟩ := turns.not_pending quiet.1 reported
    exact ⟨heard, ih consistentNext quiet.2 reportedNext⟩

/-- While no files are changed, a file is read again only if the host asks for it or a report has to
be made and is made. -/
theorem Consistent.reading_undergoAll (consistent : Consistent line) {events : List Event}
    (quiet : ∀ event ∈ events, event.changes = false) (unread : .reloaded ∉ events)
    (missed : ¬(line.Pending ∧ AllHeard line events)) :
    (undergoAll line events).state.reading = line.state.reading := by
  induction events generalizing line with
  | nil => rfl
  | cons event events ih =>
    rw [List.forall_mem_cons] at quiet
    rw [List.mem_cons, not_or] at unread
    obtain ⟨consistentNext, turns⟩ := consistent.turns event
    rcases turns.unread quiet.1 unread.1 with ⟨reading, still⟩ | ⟨due, reported, heard⟩
    · refine (ih consistentNext quiet.2 unread.2 ?_).trans reading
      rintro ⟨pending, heard⟩
      exact missed ⟨(still pending).1, (still pending).2, heard⟩
    -- Behind a report that is made there is nothing left to miss, so that nothing was missed at all.
    · exact (missed ⟨due, heard, consistentNext.allHeard_of_not_pending quiet.2 reported⟩).elim

/-- Whether a change behind which no other one follows is taken in: the host has the file read again,
or there is a report to make, be it because of this change or of an earlier one, that is not lost. -/
def Informed (line : Timeline SettingsFile Unit String) (change : Change) (later : List Event) : Prop :=
  .reloaded ∈ later ∨
    (line.Pending ∨ Learned line change) ∧ AllHeard (undergo line (.changed change)) later

theorem Consistent.current_of_informed (consistent : Consistent line) {change : Change}
    {later : List Event} (quiet : ∀ event ∈ later, event.changes = false)
    (reported : ¬(undergoAll line (.changed change :: later)).Pending)
    (informed : Informed line change later) :
    Current (undergoAll line (.changed change :: later)) := by
  obtain ⟨consistentNext, turns⟩ := consistent.turns (.changed change)
  rcases informed with asked | ⟨told, heard⟩
  · obtain ⟨part, rest, rfl⟩ := List.append_of_mem asked
    rw [List.forall_mem_append, List.forall_mem_cons] at quiet
    obtain ⟨consistentRead, read⟩ := (consistent.after (.changed change :: part)).turns .reloaded
    have current := consistentRead.current_undergoAll quiet.2.2 read.current_of_reloaded
    rwa [← List.cons_append, undergoAll_append]
  · exact (consistentNext.sound_undergoAll heard (.inl (turns.of_changed.2.2 told))).resolve_left
      reported

theorem Consistent.reading_of_uninformed (consistent : Consistent line) {change : Change}
    {later : List Event} (quiet : ∀ event ∈ later, event.changes = false)
    (uninformed : ¬Informed line change later) :
    (undergoAll line (.changed change :: later)).state.reading = line.state.reading := by
  obtain ⟨consistentNext, turns⟩ := consistent.turns (.changed change)
  obtain ⟨state, pending⟩ := turns.of_changed
  have missed : ¬((undergo line (.changed change)).Pending ∧
      AllHeard (undergo line (.changed change)) later) := by
    rintro ⟨still, heard⟩
    exact uninformed (.inr ⟨pending.1 still, heard⟩)
  have kept := consistentNext.reading_undergoAll quiet (fun asked => uninformed (.inl asked)) missed
  exact kept.trans (congrArg reading state)

/-- In every run of a rule file, from any point of it on: what was read last is what the file holds
once all reports have been made, as long as nothing was behind at that point and all is heard since.
A last change of the files is taken in exactly if the file is informed of it, and else all stays as
it was read before. Rules become others only with a notice, or when the host itself has the file
read and is told that this is a change. -/
theorem rules_follow_file (files : Files) (tools : Tools) (origin : RuleOrigin) (path : Path)
    (past later : List Event) (change : Change) :
    let there := undergoAll (start files tools origin path) past
    let now := undergoAll there later
    let behind := undergoAll there (.changed change :: later)
    (there.Pending ∨ Current there → AllHeard there later → ¬now.Pending → Current now) ∧
      ((∀ event ∈ later, event.changes = false) → ¬behind.Pending →
        (Informed there change later → Current behind) ∧
          (¬Informed there change later → behind.state.reading = there.state.reading)) ∧
      (now.state.rules ≠ there.state.rules →
        there.notices.length < now.notices.length ∨
          ∃ part rest, later = part ++ .reloaded :: rest ∧
            ((undergoAll there part).state.reload (undergoAll there part).files).2 = true) := by
  intro there now behind
  have consistent : Consistent there := (consistent_start files tools origin path).after past
  refine ⟨fun sound heard reported => ?_, fun quiet reported => ⟨?_, fun uninformed => ?_⟩, ?_⟩
  · exact (consistent.sound_undergoAll heard sound).resolve_left reported
  · exact consistent.current_of_informed quiet reported
  · exact consistent.reading_of_uninformed quiet uninformed
  · exact consistent.rules_undergoAll

end Library

/-- A rule document, and the change that writes it. -/
def ruleText : String := "[[rules]]\nsearch-box = true\n"

def ruleChange : Change := .wrote ⟨"/rules.toml"⟩ (Text.encode ruleText.toList)

theorem parts_rules : Path.parts ⟨"/rules.toml"⟩ = [.root, .name "rules.toml"] := by decide +kernel

theorem put_rules (node : Node) :
    Files.put ⟨[]⟩ ⟨"/rules.toml"⟩ node true = ⟨[(["rules.toml"], node)]⟩ := by
  have fits : Files.fits ⟨"/rules.toml"⟩ = true := by decide +kernel
  have walked : Files.walk ⟨[]⟩ Files.maxLinks [] [.root] = .ok [] := by simp [Files.walk]
  simp [Files.put, fits, parts_rules, Files.makeDirectories, walked, Files.landing?, Files.node?,
    Files.set]

theorem noting_ruleChange : ∃ executable, (ruleChange.noting ⟨[]⟩).1 =
    ⟨[(["rules.toml"], .file (Text.encode ruleText.toList) executable)]⟩ := by
  rw [ruleChange, Change.noting, Files.writeNoting]
  split
  · exact ⟨_, put_rules _⟩
  · exact ⟨_, put_rules _⟩

theorem content_ruleChange [RuleFormat] :
    content (ruleChange.noting ⟨[]⟩).1 ⟨"/rules.toml"⟩ =
      (some (RuleFormat.digest ruleText), rulesOf ruleText) := by
  obtain ⟨executable, files⟩ := noting_ruleChange
  have walked : Files.walk ⟨[(["rules.toml"], .file (Text.encode ruleText.toList) executable)]⟩
      Files.maxLinks [] [.root, .name "rules.toml"] = .ok ["rules.toml"] := by
    simp [Files.walk, Files.node?]
  have located : Files.locate ⟨[(["rules.toml"], .file (Text.encode ruleText.toList) executable)]⟩
      ⟨"/rules.toml"⟩ = .ok ["rules.toml"] := by
    have plain : Files.asksDirectory ⟨"/rules.toml"⟩ = false := by decide +kernel
    rw [Files.locate, if_neg (by decide +kernel), Files.resolve, if_neg (by decide +kernel),
      parts_rules, walked]
    simp [Files.node?, plain]
    rfl
  have decoded : Text.decode (Text.encode ruleText.toList) = .ok ruleText.toList := by decide +kernel
  have text : Files.text? ⟨[(["rules.toml"], .file (Text.encode ruleText.toList) executable)]⟩
      ⟨"/rules.toml"⟩ = some ruleText := by
    simp [Files.text?, Files.content?, Files.nodeAt?, located, Files.node?, decoded]
  rw [files, content, text]

theorem watchable_rules (files : Files) (origin : RuleOrigin) :
    Watchable files ⟨origin, ⟨"/rules.toml"⟩, none, [], none, 0⟩ := by
  have parts : Path.parts ⟨"/"⟩ = [.root] := by decide +kernel
  have located : files.locate ⟨"/"⟩ = .ok [] := by
    rw [Files.locate, if_neg (by decide +kernel), Files.resolve, if_neg (by decide +kernel), parts]
    simp [Files.walk]
    rfl
  have parent : Path.parent? ⟨"/rules.toml"⟩ = some ⟨"/"⟩ := by decide +kernel
  refine ⟨⟨"/"⟩, parent, ?_⟩
  rw [Files.isDirectory, Files.nodeAt?, located]
  rfl

/-- A rule file that is written after it was opened and before it is watched is missed: although it
is watched and no report has to be made, its rules are not those that it holds. -/
theorem rules_follow_file_missed :
    let there := start ⟨[]⟩ ⟨fun _ _ => none, fun _ _ => ⟨none, 0⟩⟩ .user ⟨"/rules.toml"⟩
    let behind := undergoAll there [.changed ruleChange, .watched]
    behind.state.isWatching ∧ ¬behind.Pending ∧ behind.state.rules = [] ∧
      (content behind.files behind.state.path).2 ≠ [] := by
  intro there behind
  have opened : there.state = ⟨.user, ⟨"/rules.toml"⟩, none, [], none, 0⟩ :=
    opened_of_missing Audience.text?_of_no_files .user
  have reported : ¬behind.Pending := Timeline.not_pending_become rfl
  have uninformed : ¬Informed there ruleChange [.watched] := by
    rintro (asked | ⟨⟨_, member, -⟩ | ⟨_, member, -⟩, -⟩)
    · simp at asked
    · exact List.not_mem_nil member
    · exact List.not_mem_nil member
  have kept : behind.state.reading = there.state.reading :=
    ((rules_follow_file ⟨[]⟩ _ .user ⟨"/rules.toml"⟩ [] [.watched] ruleChange).2.1
      (by decide) reported).2 uninformed
  have files : behind.files = (ruleChange.noting ⟨[]⟩).1 := rfl
  have state : behind.state = there.state.watch (ruleChange.noting ⟨[]⟩).1 := rfl
  obtain ⟨directory, attached⟩ :=
    watch_of_watchable (watchable_rules (ruleChange.noting ⟨[]⟩).1 .user)
  rw [opened, attached] at state
  refine ⟨?_, reported, ?_, ?_⟩
  · rw [state]
    rfl
  · rw [opened] at kept
    exact congrArg Prod.snd kept
  · rw [files, state, content_ruleChange]
    decide +kernel

end TitleBar.SettingsFile
