import TitleBar.Proofs.Repository.Binding
import TitleBar.Proofs.Resolver.Gate
import TitleBar.Proofs.Session.Moves
import TitleBar.Proofs.Watch.RuleFile

/-! # The parts of a session agree on the open solution

The session itself, the resolver of the open solution, the rule file of the solution and the trackers
all hold a part of what is open. An opening and a closing change them one after another, and tasks of
the trackers end whenever they like, but behind every step they agree.

The rule file is followed through a run as well: it is watched exactly if that was possible when it was
opened, or when watching was asked for first.
-/

namespace TitleBar

/-- A tracker that has a repository only while a solution is open. -/
structure Tracker.Confined {σ : Type} (isOpen : Bool) (tracker : Tracker σ) : Prop where
  ordered : Ordered tracker
  unbound : isOpen = false → Unbound tracker

namespace Tracker

variable {σ : Type} {tracker : Tracker σ} {isOpen : Bool}

theorem confined_idle (isOpen : Bool) : Confined isOpen (idle : Tracker σ) :=
  ⟨ordered_idle, fun _ => ⟨rfl, nofun⟩⟩

theorem Ordered.confined_unbind (ordered : Ordered tracker) : Confined false tracker.unbind :=
  ⟨ordered.unbind, fun _ => ordered.unbound⟩

theorem Ordered.confined_bind (ordered : Ordered tracker) (directory : Path) :
    Confined true (tracker.unbind.bind directory) :=
  ⟨ordered.unbind.bind directory, nofun⟩

/-- Only openings give a tracker a repository that it could not have had before. -/
theorem Confined.step [DecidableEq σ] (confined : Confined isOpen tracker) (backend : Backend σ)
    {stimulus : Stimulus σ} (stays : stimulus.switches = false) :
    Confined isOpen (tracker.step backend stimulus).1 where
  ordered := confined.ordered.of_moves (step_moves backend tracker stimulus)
  unbound shut := (confined.unbound shut).of_moves stays (step_moves backend tracker stimulus)

theorem Confined.bound_eq_none (confined : Confined isOpen tracker) (shut : isOpen = false) :
    tracker.bound = none := (confined.unbound shut).bound

end Tracker

/-- Whether a stimulus comes from outside of a session, whose trackers see the openings and closings
of the session and no others. -/
def SessionStimulus.outer : SessionStimulus → Bool
  | .git stimulus => !stimulus.switches
  | .vsr stimulus => !stimulus.switches
  | .svn stimulus => !stimulus.switches
  | .p4 stimulus => !stimulus.switches
  | _ => true

namespace SettingsFile

theorem path_opened [RuleFormat] (files : Files) (origin : RuleOrigin) (path : Path) :
    (opened files origin path).path = path := path_reload

theorem path_watch (files : Files) (file : SettingsFile) : (file.watch files).path = file.path := by
  by_cases watchable : Watchable files file
  · obtain ⟨directory, attached⟩ := watch_of_watchable watchable
    rw [attached]
  · rw [watch_of_not_watchable watchable]

theorem isWatching_opened [RuleFormat] (files : Files) (origin : RuleOrigin) (path : Path) :
    (opened files origin path).isWatching = false := by
  rw [opened, reload_fst]
  rfl

theorem isWatching_watch_iff {files : Files} {file : SettingsFile}
    (unwatched : file.isWatching = false) : (file.watch files).isWatching = true ↔ Watchable files file := by
  by_cases watchable : Watchable files file
  · obtain ⟨directory, attached⟩ := watch_of_watchable watchable
    rw [attached]
    exact iff_of_true rfl watchable
  · rw [watch_of_not_watchable watchable, unwatched]
    exact iff_of_false Bool.false_ne_true watchable

theorem watchable_iff_of_path {files : Files} {file other : SettingsFile}
    (path : other.path = file.path) : Watchable files other ↔ Watchable files file := by
  rw [Watchable, path, Watchable]

end SettingsFile

/-- Whether the rule file of the solution is to be watched from a moment on: the solution is opened
behind a request to watch rule files, or this is the first such request. -/
def Moment.Attaches (former : List Moment) (moment : Moment) : Prop :=
  (moment.opens = true ∧ ∃ earlier ∈ former, earlier.stimulus = .watchRules) ∨
    (moment.stimulus = .watchRules ∧ ∀ earlier ∈ former, earlier.stimulus ≠ .watchRules)

namespace Session

open Transition

variable {session : Session} {files : Files} {stimulus : SessionStimulus}

/-! ## The solution, its resolver and its rule file -/

/-- The resolver of the open solution holds the solution of the session, and the rule file is that of
this solution. -/
structure Tied (session : Session) : Prop where
  held : session.held.solution? = session.solution
  rules : session.solutionRules.map (·.path) = session.solution.map Solution.ruleFile

theorem tied_vacated (session : Session) : session.vacated.Tied := ⟨rfl, rfl⟩

theorem Tied.trackers {transition : Transition} (tied : Throughout Tied transition)
    (git : Stimulus Git.State) (vsr : Stimulus Versionr.State) (svn : Stimulus Subversion.State)
    (p4 : Stimulus Perforce.State) :
    Throughout Tied ((((transition.git git).vsr vsr).svn svn).p4 p4) :=
  Throughout.trackers tied (fun _ _ _ _ _ tied => ⟨tied.held, tied.rules⟩) git vsr svn p4

theorem Tied.closeSolution (tied : session.Tied) : Throughout Tied session.closeSolution := by
  have vacated := (throughout_begin tied).part Session.vacated "solution"
    session.held.solution?.isSome session.tied_vacated
  exact Tied.trackers vacated .closed .closed .closed .closed

theorem Tied.openSolution [RuleFormat] (tied : session.Tied) (files : Files) (solution : Solution) :
    Throughout Tied (session.openSolution files solution) := by
  have closed : Throughout Tied
      (if session.solution.isSome then session.closeSolution else Transition.begin session) := by
    split
    · exact tied.closeSolution
    · exact throughout_begin tied
  let opened := SettingsFile.opened files .solution solution.ruleFile
  let rules := if session.watchesRules then opened.watch files else opened
  have path : rules.path = solution.ruleFile := by
    simp only [rules, opened, apply_ite SettingsFile.path, SettingsFile.path_watch,
      SettingsFile.path_opened, ite_self]
  have told := closed.part (fun session => { session with
    solution := some solution
    solutionRules := some rules
    held := OpenSolution.opened solution }) "solution" true ⟨rfl, congrArg some path⟩
  exact Tied.trackers told (.opened _) (.opened _) (.opened _) (.opened _)

/-- In every step, all that subscribers see is tied to one solution. -/
theorem Tied.step [RuleFormat] (tied : session.Tied) (files : Files) (stimulus : SessionStimulus) :
    Throughout Tied (session.step files stimulus) := by
  have start := throughout_begin tied
  cases stimulus with
  | opens path =>
    rw [step_opens]
    cases Solution.ofPath? files path with
    | none => exact start
    | some solution => exact tied.openSolution files solution
  | closes => exact tied.closeSolution
  | mode mode => exact start.part _ _ _ ⟨tied.held, tied.rules⟩
  | watchRules =>
    refine throughout_begin ?_
    rw [watchRules]
    split
    · exact tied
    · refine ⟨tied.held, ?_⟩
      simp only [Option.map_map, Function.comp_def, SettingsFile.path_watch, tied.rules]
  | userRulesEdited => exact start.part _ _ _ ⟨tied.held, tied.rules⟩
  | solutionRulesEdited =>
    rw [Session.step, reloadSolutionRules]
    split
    · exact start
    · rename_i rules held
      refine start.part _ _ _ ⟨tied.held, ?_⟩
      have path := tied.rules
      rw [held] at path
      change some (rules.reload files).1.path = _
      rw [SettingsFile.path_reload]
      exact path
  | git | vsr | svn | p4 => exact start.part _ _ _ ⟨tied.held, tied.rules⟩

theorem tied_run [RuleFormat] (files : Files) (ruleFile : Path) (past : List Moment) :
    ((new files ruleFile).run past).Tied := by
  induction past using List.reverseRecOn with
  | nil => exact ⟨rfl, rfl⟩
  | append_singleton past last ih =>
    rw [run_concat]
    exact (ih.step last.files last.stimulus).session

/-! ## The trackers -/

/-- The trackers of a session have repositories only while a solution is open. -/
structure Confined (session : Session) : Prop where
  git : session.git.Confined session.solution.isSome
  vsr : session.vsr.Confined session.solution.isSome
  svn : session.svn.Confined session.solution.isSome
  p4 : session.p4.Confined session.solution.isSome

theorem Confined.closeSolution (confined : session.Confined) :
    session.closeSolution.session.Confined := by
  rw [session_closeSolution]
  exact ⟨confined.git.ordered.confined_unbind, confined.vsr.ordered.confined_unbind,
    confined.svn.ordered.confined_unbind, confined.p4.ordered.confined_unbind⟩

theorem Confined.openSolution [RuleFormat] (confined : session.Confined) (files : Files) (solution : Solution) :
    (session.openSolution files solution).session.Confined := by
  have closed : session.closed.Confined := by
    rw [Session.closed]
    split
    · exact confined.closeSolution
    · exact confined
  rw [session_openSolution]
  exact ⟨closed.git.ordered.confined_bind _, closed.vsr.ordered.confined_bind _,
    closed.svn.ordered.confined_bind _, closed.p4.ordered.confined_bind _⟩

theorem Confined.step [RuleFormat] (confined : session.Confined) (files : Files) (outer : stimulus.outer = true) :
    (session.step files stimulus).session.Confined := by
  cases stimulus with
  | opens path =>
    rw [step_opens]
    cases Solution.ofPath? files path with
    | none => exact confined
    | some solution => exact confined.openSolution files solution
  | closes => exact confined.closeSolution
  | mode mode =>
    rw [Session.step, setMode, session_tell]
    exact ⟨confined.git, confined.vsr, confined.svn, confined.p4⟩
  | watchRules =>
    change (session.watchRules files).Confined
    rw [watchRules]
    split
    · exact confined
    · exact ⟨confined.git, confined.vsr, confined.svn, confined.p4⟩
  | userRulesEdited =>
    rw [Session.step, reloadUserRules, session_tell]
    exact ⟨confined.git, confined.vsr, confined.svn, confined.p4⟩
  | solutionRulesEdited =>
    rw [Session.step, reloadSolutionRules]
    split
    · exact confined
    · rw [session_tell]
      exact ⟨confined.git, confined.vsr, confined.svn, confined.p4⟩
  | git stimulus =>
    rw [Session.step, session_git]
    exact { confined with git := confined.git.step Git.backend (Bool.not_eq_true' _ ▸ outer) }
  | vsr stimulus =>
    rw [Session.step, session_vsr]
    exact { confined with vsr := confined.vsr.step Versionr.backend (Bool.not_eq_true' _ ▸ outer) }
  | svn stimulus =>
    rw [Session.step, session_svn]
    exact { confined with svn := confined.svn.step Subversion.backend (Bool.not_eq_true' _ ▸ outer) }
  | p4 stimulus =>
    rw [Session.step, session_p4]
    exact { confined with p4 := confined.p4.step Perforce.backend (Bool.not_eq_true' _ ▸ outer) }

theorem confined_run [RuleFormat] (files : Files) (ruleFile : Path) {past : List Moment}
    (outer : ∀ moment ∈ past, moment.stimulus.outer = true) :
    ((new files ruleFile).run past).Confined := by
  induction past using List.reverseRecOn with
  | nil =>
    exact ⟨Tracker.confined_idle _, Tracker.confined_idle _, Tracker.confined_idle _,
      Tracker.confined_idle _⟩
  | append_singleton past last ih =>
    rw [List.forall_mem_append, List.forall_mem_singleton] at outer
    rw [run_concat]
    exact (ih outer.1).step last.files outer.2

/-! ## The watcher of the rule file -/

/-- What a moment does to the rule file of the solution, and to whether rule files are watched. -/
inductive RuleMoves (session : Session) (moment : Moment) (after : Session) : Prop
  /-- The rule file of another solution is read. -/
  | read (opens : moment.opens = true) (rules : SettingsFile) (fresh : rules.isWatching = false)
    (loaded : after.solutionRules =
      some (if session.watchesRules then rules.watch moment.files else rules))
    (unasked : moment.stimulus ≠ .watchRules) (watches : after.watchesRules = session.watchesRules)
  | dropped (none : after.solutionRules = none) (unasked : moment.stimulus ≠ .watchRules)
    (watches : after.watchesRules = session.watchesRules)
  /-- Watching is asked for, and was not before. -/
  | asked (asks : moment.stimulus = .watchRules) (unwatched : session.watchesRules = false)
    (watched : after.solutionRules = session.solutionRules.map (·.watch moment.files))
    (watches : after.watchesRules = true)
  /-- The rule file stays where it is and is watched as before. -/
  | kept (stays : moment.switches = false)
    (same : ∀ rules, after.solutionRules = some rules → ∃ former, session.solutionRules = some former ∧
      rules.path = former.path ∧ rules.isWatching = former.isWatching)
    (asked : moment.stimulus = .watchRules → session.watchesRules = true)
    (watches : after.watchesRules = session.watchesRules)

theorem step_ruleMoves [RuleFormat] (session : Session) (moment : Moment) :
    RuleMoves session moment (session.step moment.files moment.stimulus).session := by
  obtain ⟨files, stimulus⟩ := moment
  have unchanged {after : Session} (stays : Moment.switches ⟨files, stimulus⟩ = false)
      (asked : stimulus = .watchRules → session.watchesRules = true)
      (rules : after.solutionRules = session.solutionRules)
      (watches : after.watchesRules = session.watchesRules) :
      RuleMoves session ⟨files, stimulus⟩ after :=
    .kept stays (fun loaded held => ⟨loaded, rules ▸ held, rfl, rfl⟩) asked watches
  cases stimulus with
  | opens path =>
    change RuleMoves session _ (session.step files (.opens path)).session
    rw [step_opens]
    cases found : Solution.ofPath? files path with
    | none => exact unchanged (by simp [Moment.switches, Moment.opens, found]) (by simp) rfl rfl
    | some solution =>
      refine .read ?_ (SettingsFile.opened files .solution solution.ruleFile)
        (SettingsFile.isWatching_opened ..) ?_ (by simp) ?_
      · simp [Moment.opens, found]
      · rw [session_openSolution]
      · rw [session_openSolution]
        exact session.watchesRules_closed
  | closes =>
    change RuleMoves session _ session.closeSolution.session
    rw [session_closeSolution]
    exact .dropped rfl (by simp) rfl
  | mode mode =>
    change RuleMoves session _ (session.setMode mode).session
    rw [setMode, session_tell]
    exact unchanged rfl (by simp) rfl rfl
  | watchRules =>
    change RuleMoves session _ (session.watchRules files)
    rw [watchRules]
    split
    · rename_i watches
      exact unchanged rfl (fun _ => watches) rfl rfl
    · rename_i watches
      exact .asked rfl (Bool.eq_false_iff.2 watches) rfl rfl
  | userRulesEdited =>
    change RuleMoves session _ (session.reloadUserRules files).session
    rw [reloadUserRules, session_tell]
    exact unchanged rfl (by simp) rfl rfl
  | solutionRulesEdited =>
    change RuleMoves session _ (session.reloadSolutionRules files).session
    rw [reloadSolutionRules]
    split
    · exact unchanged rfl (by simp) rfl rfl
    · rename_i rules held
      rw [session_tell]
      refine .kept rfl (fun loaded reloaded => ⟨rules, held, ?_⟩) (by simp) rfl
      obtain rfl := Option.some.inj reloaded
      rw [SettingsFile.reload_fst]
      exact ⟨rfl, rfl⟩
  | git stimulus =>
    change RuleMoves session _ ((begin session).git stimulus).session
    rw [session_git]
    exact unchanged rfl (by simp) rfl rfl
  | vsr stimulus =>
    change RuleMoves session _ ((begin session).vsr stimulus).session
    rw [session_vsr]
    exact unchanged rfl (by simp) rfl rfl
  | svn stimulus =>
    change RuleMoves session _ ((begin session).svn stimulus).session
    rw [session_svn]
    exact unchanged rfl (by simp) rfl rfl
  | p4 stimulus =>
    change RuleMoves session _ ((begin session).p4 stimulus).session
    rw [session_p4]
    exact unchanged rfl (by simp) rfl rfl

/-- What has become of the rule file of the solution in a run. As long as nobody asks for it, it is not
watched; and then it is watched exactly if that was possible when it was attached to a watcher. -/
structure Followed (past : List Moment) (session : Session) : Prop where
  asked : session.watchesRules = true ↔ ∃ moment ∈ past, moment.stimulus = .watchRules
  before : session.watchesRules = false →
    ∀ rules, session.solutionRules = some rules → rules.isWatching = false
  since : session.watchesRules = true → ∀ rules, session.solutionRules = some rules →
    ∃ former moment later, past = former ++ moment :: later ∧ moment.Attaches former ∧
      (∀ other ∈ later, other.switches = false) ∧
      (rules.isWatching = true ↔ SettingsFile.Watchable moment.files rules)

theorem Followed.concat {past : List Moment} {last : Moment} {after : Session}
    (followed : Followed past session) (moves : RuleMoves session last after) :
    Followed (past ++ [last]) after := by
  have asks : (∃ moment ∈ past ++ [last], moment.stimulus = .watchRules) ↔
      (∃ moment ∈ past, moment.stimulus = .watchRules) ∨ last.stimulus = .watchRules := by
    simp only [List.mem_append, List.mem_singleton, or_and_right, exists_or, exists_eq_left]
  cases moves with
  | read opens rules fresh loaded unasked watches =>
    refine ⟨?_, fun unwatched file held => ?_, fun watched file held => ?_⟩
    · rw [watches, asks, followed.asked, or_iff_left unasked]
    · rw [loaded, if_neg (by rw [← watches, unwatched]; decide)] at held
      rw [← Option.some.inj held, fresh]
    · rw [watches] at watched
      rw [loaded, if_pos watched] at held
      obtain rfl := Option.some.inj held
      refine ⟨past, last, [], rfl, .inl ⟨opens, followed.asked.1 watched⟩, List.forall_mem_nil _, ?_⟩
      rw [SettingsFile.isWatching_watch_iff fresh,
        SettingsFile.watchable_iff_of_path (SettingsFile.path_watch ..)]
  | dropped none unasked watches =>
    refine ⟨?_, fun _ rules held => ?_, fun _ rules held => ?_⟩
    · rw [watches, asks, followed.asked, or_iff_left unasked]
    · rw [none] at held
      contradiction
    · rw [none] at held
      contradiction
  | asked first unwatched watched watches =>
    refine ⟨?_, fun still => ?_, fun _ file held => ?_⟩
    · exact iff_of_true watches (asks.2 (.inr first))
    · rw [watches] at still
      contradiction
    · rw [watched, Option.map_eq_some_iff] at held
      obtain ⟨rules, held, rfl⟩ := held
      have unasked : ∀ earlier ∈ past, earlier.stimulus ≠ .watchRules := by
        intro earlier member same
        have watches := followed.asked.2 ⟨earlier, member, same⟩
        rw [unwatched] at watches
        contradiction
      refine ⟨past, last, [], rfl, .inr ⟨first, unasked⟩, List.forall_mem_nil _, ?_⟩
      rw [SettingsFile.isWatching_watch_iff (followed.before unwatched rules held),
        SettingsFile.watchable_iff_of_path (SettingsFile.path_watch ..)]
  | kept stays same asked watches =>
    refine ⟨?_, fun unwatched file held => ?_, fun watched file held => ?_⟩
    · rw [watches, asks, ← followed.asked]
      exact ⟨.inl, fun either => either.elim id asked⟩
    · obtain ⟨rules, former, -, watching⟩ := same file held
      rw [watches] at unwatched
      rw [watching, followed.before unwatched rules former]
    · obtain ⟨rules, before, path, watching⟩ := same file held
      rw [watches] at watched
      obtain ⟨former, moment, later, rfl, attaches, quiet, iff⟩ := followed.since watched rules before
      refine ⟨former, moment, later ++ [last], ?_, attaches, ?_, ?_⟩
      · rw [List.append_assoc, List.cons_append]
      · exact List.forall_mem_append.2 ⟨quiet, List.forall_mem_singleton.2 stays⟩
      · rw [watching, iff, SettingsFile.watchable_iff_of_path path]

theorem followed_run [RuleFormat] (files : Files) (ruleFile : Path) (past : List Moment) :
    Followed past ((new files ruleFile).run past) := by
  induction past using List.reverseRecOn with
  | nil => exact ⟨⟨nofun, nofun⟩, nofun, nofun⟩
  | append_singleton past last ih =>
    rw [run_concat]
    exact ih.concat (step_ruleMoves _ last)

/-! ## Runs -/

/-- Without a solution, no resolver of a session but that of the IDE is available. -/
theorem isSome_of_available (tied : session.Tied) (confined : session.Confined) {resolver : Resolver}
    (member : resolver ∈ session.resolvers) (other : resolver.name ≠ "ide")
    (available : resolver.available = true) : session.solution.isSome = true := by
  by_contra shut
  rw [Bool.not_eq_true] at shut
  have none := Option.isNone_iff_eq_none.1 (Option.isSome_eq_false_iff.1 shut)
  rcases mem_resolvers.1 member with rfl | rfl | rfl | rfl | rfl | rfl
  · exact other rfl
  · simp [OpenSolution.resolver, tied.held, none] at available
  · simp [Tracker.resolver, confined.git.bound_eq_none shut] at available
  · simp [Tracker.resolver, confined.vsr.bound_eq_none shut] at available
  · simp [Tracker.resolver, confined.svn.bound_eq_none shut] at available
  · simp [Tracker.resolver, confined.p4.bound_eq_none shut] at available

theorem solution_of_open? [RuleFormat] {path : Path} {solution : Solution} {transition : Transition}
    (opened : session.open? files path = .ok (solution, transition)) :
    transition.session.solution = some solution := by
  rw [open?] at opened
  split at opened
  · obtain ⟨rfl, rfl⟩ := Prod.mk.inj (Except.ok.inj opened)
    rw [session_openSolution]
  · contradiction

theorem ide_step_opens [RuleFormat] (files : Files) (session : Session) (path : Path) :
    (session.step files (.opens path)).session.ide = session.ide := by
  rw [step_opens]
  cases Solution.ofPath? files path with
  | none => rfl
  | some solution =>
    rw [session_openSolution]
    exact session.ide_closed

/-- Behind every step of a run the parts of a session agree on what is open: the solution that was opened
last, unless it was closed. Without one, no resolver but that of the IDE is available. A path that is no
solution leaves no trace when it is opened, nobody is told of a closing without a solution, and the
debugger has no part in openings and closings. Once watching was asked for, the rule file of the
solution is watched exactly if it could be when it was opened or, if that was before, when watching was
asked for first. -/
theorem parts_agree [RuleFormat] (files : Files) (ruleFile : Path) (past : List Moment)
    (outer : ∀ moment ∈ past, moment.stimulus.outer = true) :
    let session := (new files ruleFile).run past
    session.held.solution? = session.solution ∧
      session.solutionRules.map (·.path) =
        session.solution.map (fun solution => solution.directory.join "shellbent.toml") ∧
      (∀ resolver ∈ session.resolvers, resolver.name ≠ "ide" → resolver.available = true →
        session.solution.isSome = true) ∧
      (∀ files path solution transition, session.open? files path = .ok (solution, transition) →
        session.step files (.opens path) = transition ∧
          transition.session.solution = some solution) ∧
      (∀ files path error, session.open? files path = .error error →
        session.step files (.opens path) = ⟨session, []⟩) ∧
      (∀ files, (session.step files .closes).session.solution = none ∧
        (session.solution = none → (session.step files .closes).notices = [])) ∧
      (∀ files path, (session.step files (.opens path)).session.ide = session.ide) ∧
      (∀ files, (session.step files .closes).session.ide = session.ide) ∧
      ((∃ moment ∈ past, moment.stimulus = .watchRules) →
        ∀ rules, session.solutionRules = some rules →
          ∃ former moment later, past = former ++ moment :: later ∧ moment.Attaches former ∧
            (∀ other ∈ later, other.switches = false) ∧
            (rules.isWatching = true ↔ SettingsFile.Watchable moment.files rules)) := by
  intro session
  have tied : session.Tied := tied_run files ruleFile past
  have confined : session.Confined := confined_run files ruleFile outer
  have followed : Followed past session := followed_run files ruleFile past
  refine ⟨tied.held, tied.rules, fun resolver member other available => ?_, ?_, ?_, ?_, ?_, ?_, ?_⟩
  · exact isSome_of_available tied confined member other available
  · intro files path solution transition opened
    refine ⟨?_, solution_of_open? opened⟩
    rw [Session.step, opened]
  · intro files path error failed
    rw [Session.step, failed]
    rfl
  · intro files
    refine ⟨?_, fun nothing => ?_⟩
    · rw [Session.step, session_closeSolution]
      rfl
    · have shut : session.solution.isSome = false := by rw [nothing, Option.isSome_none]
      exact notices_closeSolution (tied.held.trans nothing) (confined.git.bound_eq_none shut)
        (confined.vsr.bound_eq_none shut) (confined.svn.bound_eq_none shut)
        (confined.p4.bound_eq_none shut)
  · exact fun files path => ide_step_opens files session path
  · intro files
    rw [Session.step, session_closeSolution]
    rfl
  · exact fun asked => followed.since (followed.asked.2 asked)

theorem ofPath?_app :
    Solution.ofPath? ⟨[]⟩ ⟨"/app.sln"⟩ = some ⟨⟨"/app.sln"⟩, ⟨"/"⟩, "app"⟩ := by
  have parts : Path.parts ⟨"/app.sln"⟩ = [.root, .name "app.sln"] := by decide +kernel
  have short : ¬Files.maxNameBytes < "app.sln".utf8ByteSize := by decide +kernel
  have walked : Files.walk ⟨[]⟩ Files.maxLinks [] [.root, .name "app.sln"] = .error .missing := by
    simp [Files.walk, Files.node?, short]
  have resolved : Files.resolve ⟨[]⟩ ⟨"/app.sln"⟩ = .error .missing := by
    rw [Files.resolve, if_neg (by decide +kernel), parts, walked]
    rfl
  have elsewhere : Files.isDirectory ⟨[]⟩ ⟨"/app.sln"⟩ = false := by
    rw [Files.isDirectory, Files.nodeAt?, Files.locate, if_neg (by decide +kernel), resolved]
    rfl
  rw [Solution.ofPath?, Files.canonical?, resolved, Option.getD_none, Solution.ofCanonical?, elsewhere]
  decide +kernel

/-- A solution is opened without any files, and then rule files are watched. -/
def openedAndWatched : List Moment :=
  [⟨⟨[]⟩, .opens ⟨"/app.sln"⟩⟩, ⟨⟨[]⟩, .watchRules⟩]

theorem solution_openedAndWatched :
    ((new ⟨[]⟩ ⟨"/rules.toml"⟩).run openedAndWatched).solution =
      some ⟨⟨"/app.sln"⟩, ⟨"/"⟩, "app"⟩ := by
  change (Session.watchRules ⟨[]⟩
    ((new ⟨[]⟩ ⟨"/rules.toml"⟩).step ⟨[]⟩ (.opens ⟨"/app.sln"⟩)).session).solution = _
  rw [step_opens, ofPath?_app]
  simp only [watchRules, session_openSolution]
  split <;> rfl

/-- The resolver holds this solution, and the rule file beside it is watched. -/
theorem parts_agree_openedAndWatched :
    let session := (new ⟨[]⟩ ⟨"/rules.toml"⟩).run openedAndWatched
    session.held.solution? = some ⟨⟨"/app.sln"⟩, ⟨"/"⟩, "app"⟩ ∧
      ∃ rules, session.solutionRules = some rules ∧ rules.path = ⟨"/shellbent.toml"⟩ ∧
        rules.isWatching = true := by
  intro session
  obtain ⟨held, path, -, -, -, -, -, -, watched⟩ := parts_agree ⟨[]⟩ ⟨"/rules.toml"⟩ openedAndWatched
    (by simp [openedAndWatched, SessionStimulus.outer])
  have opened : session.solution = some ⟨⟨"/app.sln"⟩, ⟨"/"⟩, "app"⟩ := solution_openedAndWatched
  change session.solutionRules.map (·.path) = session.solution.map _ at path
  rw [opened, Option.map_some, Option.map_eq_some_iff] at path
  obtain ⟨rules, loaded, beside⟩ := path
  have located : rules.path = ⟨"/shellbent.toml"⟩ := beside.trans (by decide +kernel)
  obtain ⟨former, moment, later, split, -, -, watching⟩ :=
    watched ⟨⟨⟨[]⟩, .watchRules⟩, by simp [openedAndWatched], rfl⟩ rules loaded
  have empty : moment.files = ⟨[]⟩ := by
    have member : moment ∈ openedAndWatched := by
      rw [split]
      exact List.mem_append_right _ List.mem_cons_self
    simp only [openedAndWatched, List.mem_cons, List.not_mem_nil, or_false] at member
    rcases member with rfl | rfl <;> rfl
  obtain ⟨directory, parent, there⟩ := SettingsFile.watchable_rules ⟨[]⟩ .solution
  have same : Path.parent? ⟨"/shellbent.toml"⟩ = Path.parent? ⟨"/rules.toml"⟩ := by decide +kernel
  refine ⟨held.trans opened, rules, loaded, located, watching.2 ⟨directory, ?_, ?_⟩⟩
  · rw [located, same, parent]
  · rw [empty]
    exact there

end Session

end TitleBar
