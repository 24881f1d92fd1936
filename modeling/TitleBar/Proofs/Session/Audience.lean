import TitleBar.Proofs.Repository.Moves
import TitleBar.Proofs.Resolver.Agreement
import TitleBar.Rule.Library
import TitleBar.Session
import Mathlib.Data.List.Forall2
import Mathlib.Data.List.Induction

/-! # Subscribers see the current title bar

Whatever changes the title bar tells the subscribers of the session, and not before the change is
made: the session that they see in the last notice of a step already has the title bar that it has
behind the step. A host that computes the title bar anew at every notice therefore always shows the
current one.
-/

namespace TitleBar

/-- A step that is no change of a tracker leaves its repository and its reading alone. -/
theorem Tracker.bound_of_unchanged {σ : Type} [DecidableEq σ] {backend : Backend σ}
    {tracker : Tracker σ} {stimulus : Stimulus σ}
    (unchanged : (tracker.step backend stimulus).2 = false) :
    (tracker.step backend stimulus).1.bound = tracker.bound := by
  have moves := step_moves backend tracker stimulus
  generalize tracker.step backend stimulus = after at moves unchanged
  cases moves with
  | opened | closed => exact (Option.isNone_iff_eq_none.1 (Option.isSome_eq_false_iff.1 unchanged)).symm
  | asked | unasked | discarded => rfl
  | attached => contradiction
  | @applied _ _ _ _ snapshot =>
    rcases held : tracker.bound with _ | ⟨discovery, last⟩
    · rfl
    · have same : last = snapshot := by simpa [held] using unchanged
      rw [Option.map_some, same]

namespace SettingsFile

/-- A rule file whose reading is no change keeps its rules. -/
theorem reload_of_unchanged [RuleFormat] {files : Files} {file : SettingsFile}
    (unchanged : (file.reload files).2 = false) : (file.reload files).1 = file := by
  rcases read : content files file.path with ⟨digest, rules⟩
  simp only [reload, read] at unchanged ⊢
  split at unchanged
  · rename_i same
    rw [if_pos same]
  · contradiction

/-- A rule file that is missing has no rules. -/
theorem opened_of_missing [RuleFormat] {files : Files} {path : Path} (missing : files.text? path = none)
    (origin : RuleOrigin) : opened files origin path = ⟨origin, path, none, [], none, 0⟩ := by
  simp [opened, reload, content, missing]

/-- Watching a rule file does not read it. -/
theorem ruleSet_watch (files : Files) (file : SettingsFile) :
    (file.watch files).ruleSet = file.ruleSet := by
  rw [watch]
  split
  · split <;> rfl
  · rfl

end SettingsFile

namespace Session

/-- Two sessions that show the same: they may differ in what is outstanding and in what is
watched. -/
structure Alike (first second : Session) : Prop where
  ide : first.ide = second.ide
  held : first.held = second.held
  git : first.git.bound = second.git.bound
  vsr : first.vsr.bound = second.vsr.bound
  svn : first.svn.bound = second.svn.bound
  p4 : first.p4.bound = second.p4.bound
  userRules : first.userRules.ruleSet = second.userRules.ruleSet
  solutionRules : first.solutionRules.map SettingsFile.ruleSet =
    second.solutionRules.map SettingsFile.ruleSet
  solution : first.solution = second.solution

theorem Alike.refl (session : Session) : Alike session session :=
  ⟨rfl, rfl, rfl, rfl, rfl, rfl, rfl, rfl, rfl⟩

theorem Alike.titleBar {first second : Session} (alike : Alike first second) :
    first.titleBar = second.titleBar := by
  have rules : first.ruleSets = second.ruleSets := by
    rw [ruleSets, alike.userRules, alike.solutionRules, ruleSets]
  have situation : first.situation = second.situation := by
    rw [Session.situation, alike.ide, alike.solution, Session.situation]
  have resolvers : first.resolvers.map Resolver.calm = second.resolvers.map Resolver.calm := by
    simp only [Session.resolvers, List.map_cons, List.map_nil, Resolver.calm, Tracker.resolver,
      alike.ide, alike.held, alike.git, alike.vsr, alike.svn, alike.p4]
  have computed : first.lookup.titleBar = second.lookup.titleBar :=
    Lookup.titleBar_eq_of_calm situation resolvers
  rw [Session.titleBar, computed, rules, Session.titleBar]

/-- Without a solution at its resolver, a session has neither a solution nor its rules. -/
def Coherent (session : Session) : Prop :=
  session.held.solution? = none → session.solution = none ∧ session.solutionRules = none

end Session

namespace Transition

/-- What a host shows that computes the title bar anew at every notice, and has shown `former`. -/
def shown (former : TitleBarData) (transition : Transition) : TitleBarData :=
  transition.notices.foldl (fun _ notice => notice.seen.titleBar) former

/-- A transition at whose end such a host shows the current title bar. -/
structure Current (former : TitleBarData) (transition : Transition) : Prop where
  shown : transition.shown former = transition.session.titleBar
  coherent : transition.session.Coherent

variable {former : TitleBarData} {transition : Transition}

theorem current_begin {session : Session} (coherent : session.Coherent) :
    Current session.titleBar (begin session) := ⟨rfl, coherent⟩

@[simp] theorem session_tell (transition : Transition) (source : String) (changed : Bool) :
    (transition.tell source changed).session = transition.session := by
  rw [tell]
  split <;> rfl

/-- Behind a notice, what came before does not matter. -/
theorem current_tell {source : String} (coherent : transition.session.Coherent) :
    Current former (transition.tell source true) where
  shown := by simp [Transition.shown, tell]
  coherent := by rwa [session_tell]

/-- A part of a session changes, and subscribers are told unless that cannot be seen. -/
theorem Current.part (current : Current former transition) (change : Session → Session)
    {source : String} {changed : Bool}
    (alike : changed = false → (change transition.session).Alike transition.session)
    (coherent : (change transition.session).Coherent) :
    Current former ((transition.update change).tell source changed) := by
  cases changed with
  | true => exact current_tell coherent
  | false =>
    refine ⟨?_, coherent⟩
    rw [session_tell]
    exact current.shown.trans (alike rfl).titleBar.symm

theorem Current.git (current : Current former transition) (stimulus : Stimulus Git.State) :
    Current former (transition.git stimulus) :=
  current.part _ (fun same => { Session.Alike.refl _ with git := Tracker.bound_of_unchanged same })
    current.coherent

theorem Current.vsr (current : Current former transition) (stimulus : Stimulus Versionr.State) :
    Current former (transition.vsr stimulus) :=
  current.part _ (fun same => { Session.Alike.refl _ with vsr := Tracker.bound_of_unchanged same })
    current.coherent

theorem Current.svn (current : Current former transition) (stimulus : Stimulus Subversion.State) :
    Current former (transition.svn stimulus) :=
  current.part _ (fun same => { Session.Alike.refl _ with svn := Tracker.bound_of_unchanged same })
    current.coherent

theorem Current.p4 (current : Current former transition) (stimulus : Stimulus Perforce.State) :
    Current former (transition.p4 stimulus) :=
  current.part _ (fun same => { Session.Alike.refl _ with p4 := Tracker.bound_of_unchanged same })
    current.coherent

end Transition

namespace Session

open Transition

variable {session : Session}

/-- A session that has given up its solution, and whose trackers have not yet heard of it. -/
def vacated (session : Session) : Session :=
  { session with solution := none, solutionRules := none, held := OpenSolution.none }

theorem Coherent.alike_vacated (coherent : session.Coherent)
    (unheld : session.held.solution? = none) : Alike session.vacated session := by
  obtain ⟨closed, noRules⟩ := coherent unheld
  exact { Alike.refl session with
    held := congrArg OpenSolution.mk unheld.symm
    solution := closed.symm
    solutionRules := (congrArg (Option.map _) noRules).symm }

/-- The solution is given up before anybody is told of it, but if there was one, then there is a
notice. -/
theorem Coherent.closeSolution (coherent : session.Coherent) :
    Current session.titleBar session.closeSolution := by
  have vacated : Current session.titleBar
      (((Transition.begin session).update Session.vacated).tell "solution"
        session.held.solution?.isSome) :=
    (current_begin coherent).part _
      (fun same => coherent.alike_vacated
        (Option.isNone_iff_eq_none.1 (Option.isSome_eq_false_iff.1 same)))
      fun _ => ⟨rfl, rfl⟩
  exact (((vacated.git .closed).vsr .closed).svn .closed).p4 .closed

/-- Opening always tells, behind which only the trackers change. -/
theorem openSolution_current [RuleFormat] (files : Files) (session : Session) (solution : Solution)
    (former : TitleBarData) : Current former (session.openSolution files solution) := by
  unfold openSolution
  refine Current.p4 (Current.svn (Current.vsr (Current.git ?_ _) _) _) _
  exact current_tell nofun

theorem Coherent.setMode (coherent : session.Coherent) (mode : DebugMode) :
    Current session.titleBar (session.setMode mode) := by
  refine (current_begin coherent).part _ (fun same => ?_) coherent
  have kept : session.ide.mode = mode := by simpa [Ide.setMode] using same
  subst kept
  exact { Alike.refl session with ide := rfl }

theorem alike_watchRules (files : Files) (session : Session) :
    Alike (session.watchRules files) session := by
  rw [watchRules]
  split
  · exact .refl session
  · refine { Alike.refl session with
      userRules := SettingsFile.ruleSet_watch .., solutionRules := ?_ }
    simp only [Option.map_map, Function.comp_def, SettingsFile.ruleSet_watch]

theorem Coherent.watchRules (coherent : session.Coherent) (files : Files) :
    (session.watchRules files).Coherent := by
  rw [Session.watchRules]
  split
  · exact coherent
  · intro none
    obtain ⟨closed, noRules⟩ := coherent none
    exact ⟨closed, by simp only [noRules, Option.map_none]⟩

theorem Coherent.reloadUserRules [RuleFormat] (coherent : session.Coherent) (files : Files) :
    Current session.titleBar (session.reloadUserRules files) :=
  (current_begin coherent).part _ (fun same => { Alike.refl _ with
    userRules := congrArg SettingsFile.ruleSet (SettingsFile.reload_of_unchanged same) }) coherent

theorem Coherent.reloadSolutionRules [RuleFormat] (coherent : session.Coherent) (files : Files) :
    Current session.titleBar (session.reloadSolutionRules files) := by
  rw [Session.reloadSolutionRules]
  split
  · exact current_begin coherent
  · rename_i rules held
    refine (current_begin coherent).part _ (fun same => ?_) fun none => ?_
    · have kept : (rules.reload files).1 = rules := SettingsFile.reload_of_unchanged same
      refine { Alike.refl session with solutionRules := ?_ }
      change some (rules.reload files).1.ruleSet = session.solutionRules.map _
      rw [kept, held, Option.map_some]
    · rw [(coherent none).2] at held
      contradiction

/-- Behind every step, a host that computes the title bar anew at every notice shows the current
one. -/
theorem Coherent.step [RuleFormat] (coherent : session.Coherent) (files : Files) (stimulus : SessionStimulus) :
    Current session.titleBar (session.step files stimulus) := by
  cases stimulus with
  | opens path =>
    rw [Session.step, open?]
    cases Solution.ofPath? files path with
    | none => exact current_begin coherent
    | some solution => exact openSolution_current files session solution _
  | closes => exact coherent.closeSolution
  | mode mode => exact coherent.setMode mode
  | watchRules =>
    exact ⟨(alike_watchRules files session).titleBar.symm, coherent.watchRules files⟩
  | userRulesEdited => exact coherent.reloadUserRules files
  | solutionRulesEdited => exact coherent.reloadSolutionRules files
  | git stimulus => exact (current_begin coherent).git stimulus
  | vsr stimulus => exact (current_begin coherent).vsr stimulus
  | svn stimulus => exact (current_begin coherent).svn stimulus
  | p4 stimulus => exact (current_begin coherent).p4 stimulus

end Session

/-- A subscriber of a session that shows its title bar. -/
structure Subscriber where
  /-- The notices that it got, in order. -/
  received : List Notice
  shown : TitleBarData

/-- Gets a notice, and computes the title bar anew. -/
def Subscriber.receive (subscriber : Subscriber) (notice : Notice) : Subscriber :=
  ⟨subscriber.received ++ [notice], notice.seen.titleBar⟩

/-- A session and those who have subscribed to its notices. -/
structure Audience where
  session : Session
  subscribers : List Subscriber

/-- What happens to a session and its subscribers. -/
inductive Occurrence where
  /-- Somebody subscribes, and shows the title bar at that moment. -/
  | subscribes
  /-- Something happens to the session, with the files as they are then. -/
  | happens (files : Files) (stimulus : SessionStimulus)

namespace Audience

/-- A new session, to which nobody has subscribed. -/
def start [RuleFormat] (files : Files) (ruleFile : Path) : Audience := ⟨Session.new files ruleFile, []⟩

/-- Lets something happen. Every subscriber gets all notices. -/
def undergo [RuleFormat] (audience : Audience) : Occurrence → Audience
  | .subscribes =>
    { audience with subscribers := audience.subscribers ++ [⟨[], audience.session.titleBar⟩] }
  | .happens files stimulus =>
    let transition := audience.session.step files stimulus
    { session := transition.session
      subscribers := audience.subscribers.map (transition.notices.foldl Subscriber.receive) }

/-- Lets several things happen, one after another. -/
def undergoAll [RuleFormat] (audience : Audience) (past : List Occurrence) : Audience :=
  past.foldl undergo audience

/-- All subscribers show the current title bar. -/
structure Current (audience : Audience) : Prop where
  coherent : audience.session.Coherent
  shown : ∀ subscriber ∈ audience.subscribers, subscriber.shown = audience.session.titleBar

theorem received_foldl (notices : List Notice) (subscriber : Subscriber) :
    (notices.foldl Subscriber.receive subscriber).received = subscriber.received ++ notices := by
  induction notices generalizing subscriber with
  | nil => exact (List.append_nil _).symm
  | cons notice rest ih => rw [List.foldl_cons, ih, Subscriber.receive, List.append_assoc]; rfl

theorem shown_foldl (notices : List Notice) (subscriber : Subscriber) :
    (notices.foldl Subscriber.receive subscriber).shown =
      notices.foldl (fun _ notice => notice.seen.titleBar) subscriber.shown := by
  induction notices generalizing subscriber with
  | nil => rfl
  | cons notice rest ih => rw [List.foldl_cons, ih, List.foldl_cons]; rfl

theorem Current.undergo [RuleFormat] {audience : Audience} (current : Current audience)
    (occurrence : Occurrence) : Current (audience.undergo occurrence) := by
  cases occurrence with
  | subscribes =>
    refine ⟨current.coherent, fun subscriber member => ?_⟩
    rcases List.mem_append.1 member with earlier | new
    · exact current.shown subscriber earlier
    · rw [List.mem_singleton.1 new]
      rfl
  | happens files stimulus =>
    have after := current.coherent.step files stimulus
    refine ⟨after.coherent, fun subscriber member => ?_⟩
    obtain ⟨former, earlier, rfl⟩ := List.mem_map.1 member
    rw [shown_foldl, current.shown former earlier]
    exact after.shown

theorem current_undergoAll [RuleFormat] (files : Files) (ruleFile : Path) (past : List Occurrence) :
    Current ((start files ruleFile).undergoAll past) := by
  induction past using List.reverseRecOn with
  | nil => exact ⟨fun _ => ⟨rfl, rfl⟩, nofun⟩
  | append_singleton past last ih =>
    rw [undergoAll, List.foldl_append]
    exact ih.undergo last

/-- In every run of a session, all subscribers show the current title bar. When a step changes that,
each of them gets a notice, and in the last one it sees the title bar that the session has behind the
step. -/
theorem shown_and_noticed [RuleFormat] (files : Files) (ruleFile : Path) (past : List Occurrence)
    (filesThen : Files) (stimulus : SessionStimulus) :
    let before := (start files ruleFile).undergoAll past
    let after := before.undergo (.happens filesThen stimulus)
    (∀ subscriber ∈ before.subscribers, subscriber.shown = before.session.titleBar) ∧
      (after.session.titleBar ≠ before.session.titleBar →
        List.Forall₂ (fun former next => ∃ notices last,
            next.received = former.received ++ notices ++ [last] ∧
              last.seen.titleBar = after.session.titleBar)
          before.subscribers after.subscribers) := by
  intro before after
  have current : Current before := current_undergoAll files ruleFile past
  refine ⟨current.shown, fun changed => ?_⟩
  have shown := (current.coherent.step filesThen stimulus).shown
  rcases List.eq_nil_or_concat (before.session.step filesThen stimulus).notices with
    silent | ⟨notices, last, told⟩
  · rw [Transition.shown, silent] at shown
    exact (changed shown.symm).elim
  · rw [Transition.shown, told, List.concat_eq_append, List.foldl_append] at shown
    refine List.forall₂_map_right_iff.2 (List.forall₂_same.2 fun subscriber _ => ?_)
    refine ⟨notices, last, ?_, shown⟩
    rw [received_foldl, told, List.concat_eq_append, List.append_assoc]

theorem text?_of_no_files : Files.text? ⟨[]⟩ ⟨"/rules.toml"⟩ = none := by
  have parts : Path.parts ⟨"/rules.toml"⟩ = [.root, .name "rules.toml"] := by decide +kernel
  have short : ¬Files.maxNameBytes < "rules.toml".utf8ByteSize := by decide +kernel
  have walked : Files.walk ⟨[]⟩ Files.maxLinks [] [.root, .name "rules.toml"] = .error .missing := by
    simp [Files.walk, Files.node?, short]
  have located : Files.locate ⟨[]⟩ ⟨"/rules.toml"⟩ = .error .missing := by
    rw [Files.locate, if_neg (by decide +kernel), Files.resolve, if_neg (by decide +kernel), parts,
      walked]
    rfl
  rw [Files.text?, Files.content?, Files.nodeAt?, located]
  rfl

/-- Without any files, a subscriber sees the built-in caption change when a debuggee runs. -/
theorem mode_noticed :
    let before := (start ⟨[]⟩ ⟨"/rules.toml"⟩).undergoAll [.subscribes]
    let after := before.undergo (.happens ⟨[]⟩ (.mode .run))
    after.session.titleBar ≠ before.session.titleBar ∧
      List.Forall₂ (fun former next => ∃ notices last,
          next.received = former.received ++ notices ++ [last] ∧
            last.seen.titleBar = after.session.titleBar)
        before.subscribers after.subscribers := by
  intro before after
  have changed : after.session.titleBar ≠ before.session.titleBar := by
    simp only [after, before, start, Session.new, SettingsFile.opened_of_missing text?_of_no_files]
    decide +kernel
  exact ⟨changed, (shown_and_noticed ⟨[]⟩ ⟨"/rules.toml"⟩ [.subscribes] ⟨[]⟩ (.mode .run)).2 changed⟩

end Audience

end TitleBar
