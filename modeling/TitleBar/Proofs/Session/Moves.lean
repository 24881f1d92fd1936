import TitleBar.Proofs.Session.Audience

/-! # What a step of a session does

Openings and closings change a session part by part, and subscribers see it in between. Here is what
they leave behind, what holds all along, and how steps make a run.
-/

namespace TitleBar

namespace Transition

variable {transition : Transition}

@[simp] theorem tell_false (transition : Transition) (source : String) :
    transition.tell source false = transition := rfl

theorem notices_tell (transition : Transition) (source : String) (changed : Bool) :
    (transition.tell source changed).notices =
      transition.notices ++ if changed then [⟨source, transition.session⟩] else [] := by
  rw [tell]
  split
  · rfl
  · exact (List.append_nil _).symm

@[simp] theorem session_git (transition : Transition) (stimulus : Stimulus Git.State) :
    (transition.git stimulus).session =
      { transition.session with git := (transition.session.git.step Git.backend stimulus).1 } :=
  session_tell ..

@[simp] theorem session_vsr (transition : Transition) (stimulus : Stimulus Versionr.State) :
    (transition.vsr stimulus).session =
      { transition.session with vsr := (transition.session.vsr.step Versionr.backend stimulus).1 } :=
  session_tell ..

@[simp] theorem session_svn (transition : Transition) (stimulus : Stimulus Subversion.State) :
    (transition.svn stimulus).session =
      { transition.session with
        svn := (transition.session.svn.step Subversion.backend stimulus).1 } :=
  session_tell ..

@[simp] theorem session_p4 (transition : Transition) (stimulus : Stimulus Perforce.State) :
    (transition.p4 stimulus).session =
      { transition.session with p4 := (transition.session.p4.step Perforce.backend stimulus).1 } :=
  session_tell ..

/-- A property that a session has behind a transition, and had whenever subscribers were told of
something. -/
structure Throughout (holds : Session → Prop) (transition : Transition) : Prop where
  session : holds transition.session
  seen : ∀ notice ∈ transition.notices, holds notice.seen

variable {holds : Session → Prop}

theorem throughout_begin {session : Session} (start : holds session) :
    Throughout holds (begin session) := ⟨start, List.forall_mem_nil _⟩

/-- A property is kept by a change that keeps it, whether or not subscribers are told. -/
theorem Throughout.part (throughout : Throughout holds transition) (change : Session → Session)
    (source : String) (changed : Bool) (kept : holds (change transition.session)) :
    Throughout holds ((transition.update change).tell source changed) where
  session := by rwa [session_tell]
  seen notice member := by
    rw [notices_tell] at member
    rcases List.mem_append.1 member with earlier | new
    · exact throughout.seen notice earlier
    · cases changed with
      | false => exact (List.not_mem_nil new).elim
      | true => rwa [List.mem_singleton.1 new]

/-- What does not depend on trackers is kept while all of them are told of something. -/
theorem Throughout.trackers (throughout : Throughout holds transition)
    (kept : ∀ session git vsr svn p4, holds session → holds { session with git, vsr, svn, p4 })
    (git : Stimulus Git.State) (vsr : Stimulus Versionr.State) (svn : Stimulus Subversion.State)
    (p4 : Stimulus Perforce.State) :
    Throughout holds ((((transition.git git).vsr vsr).svn svn).p4 p4) := by
  have told : Throughout holds (transition.git git) :=
    throughout.part _ _ _ (kept _ _ _ _ _ throughout.session)
  have told : Throughout holds ((transition.git git).vsr vsr) :=
    told.part _ _ _ (kept _ _ _ _ _ told.session)
  have told : Throughout holds (((transition.git git).vsr vsr).svn svn) :=
    told.part _ _ _ (kept _ _ _ _ _ told.session)
  exact told.part _ _ _ (kept _ _ _ _ _ told.session)

end Transition

namespace Session

open Transition

variable {session : Session}

/-- A closing takes the solution from all parts of a session. -/
theorem session_closeSolution (session : Session) :
    session.closeSolution.session =
      { session.vacated with
        git := session.git.unbind
        vsr := session.vsr.unbind
        svn := session.svn.unbind
        p4 := session.p4.unbind } := by
  simp only [closeSolution, session_p4, session_svn, session_vsr, session_git, session_tell]
  rfl

/-- Nobody is told of a closing that takes nothing from any part of a session. -/
theorem notices_closeSolution (held : session.held.solution? = none)
    (git : session.git.bound = none) (vsr : session.vsr.bound = none)
    (svn : session.svn.bound = none) (p4 : session.p4.bound = none) :
    session.closeSolution.notices = [] := by
  simp only [closeSolution, OpenSolution.close, Transition.git, Transition.vsr, Transition.svn,
    Transition.p4, Tracker.step, held, git, vsr, svn, p4, update, begin, Option.isSome_none, tell_false]

/-- The session in which a solution is opened: what was open before is closed. -/
def closed (session : Session) : Session :=
  if session.solution.isSome then session.closeSolution.session else session

theorem watchesRules_closed (session : Session) :
    session.closed.watchesRules = session.watchesRules := by
  rw [closed, session_closeSolution]
  split <;> rfl

theorem ide_closed (session : Session) : session.closed.ide = session.ide := by
  rw [closed, session_closeSolution]
  split <;> rfl

/-- An opening gives the solution to all parts of a session. -/
theorem session_openSolution [RuleFormat] (files : Files) (session : Session) (solution : Solution) :
    (session.openSolution files solution).session =
      { session.closed with
        solution := some solution
        solutionRules :=
          let rules := SettingsFile.opened files .solution solution.ruleFile
          some (if session.watchesRules then rules.watch files else rules)
        held := OpenSolution.opened solution
        git := session.closed.git.unbind.bind solution.directory
        vsr := session.closed.vsr.unbind.bind solution.directory
        svn := session.closed.svn.unbind.bind solution.directory
        p4 := session.closed.p4.unbind.bind solution.directory } := by
  simp only [openSolution, closed, session_p4, session_svn, session_vsr, session_git, session_tell,
    update]
  split <;> rfl

/-- A session in which a path is opened goes on with the solution that the path stands for, and stays
as it is where there is none. -/
theorem step_opens [RuleFormat] (files : Files) (session : Session) (path : Path) :
    session.step files (.opens path) =
      match Solution.ofPath? files path with
      | some solution => session.openSolution files solution
      | none => begin session := by
  rw [step, open?]
  cases Solution.ofPath? files path <;> rfl

end Session

/-- A stimulus, and the files as they are when it comes. -/
structure Moment where
  files : Files
  stimulus : SessionStimulus

namespace Moment

/-- Whether a solution is opened at a moment. -/
def opens (moment : Moment) : Bool :=
  match moment.stimulus with
  | .opens path => (Solution.ofPath? moment.files path).isSome
  | _ => false

/-- Whether a solution is opened or closed at a moment. -/
def switches (moment : Moment) : Bool :=
  match moment.stimulus with
  | .closes => true
  | _ => moment.opens

end Moment

namespace Session

/-- A session after some moments. -/
def run [RuleFormat] (session : Session) (past : List Moment) : Session :=
  past.foldl (fun session moment => (session.step moment.files moment.stimulus).session) session

theorem run_concat [RuleFormat] (session : Session) (past : List Moment) (last : Moment) :
    session.run (past ++ [last]) =
      ((session.run past).step last.files last.stimulus).session :=
  List.foldl_append

end Session

end TitleBar
