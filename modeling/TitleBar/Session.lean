import TitleBar.Aggregate
import TitleBar.Host.Locations
import TitleBar.Repository.Git
import TitleBar.Repository.Machine
import TitleBar.Repository.Perforce
import TitleBar.Repository.Subversion
import TitleBar.Repository.Versionr
import TitleBar.Resolver.Ide
import TitleBar.Resolver.OpenSolution
import TitleBar.SettingsFile

/-! # Sessions

A session is one window of a host: the resolvers, the rule files and the open solution. Hosts open
and close solutions and report the state of the debugger, and they are told whenever the title bar
may have changed.
-/

namespace TitleBar

structure Session where
  ide : Ide
  held : OpenSolution
  git : Tracker Git.State
  vsr : Tracker Versionr.State
  svn : Tracker Subversion.State
  p4 : Tracker Perforce.State
  userRules : SettingsFile
  solutionRules : Option SettingsFile
  solution : Option Solution
  /-- Whether rule files are watched. -/
  watchesRules : Bool
deriving DecidableEq, Repr

/-- What subscribers are told: what has changed, and the session at that moment. -/
structure Notice where
  source : String
  seen : Session
deriving DecidableEq, Repr

structure NotSolution where
  path : Path
deriving DecidableEq, Repr

def NotSolution.message (error : NotSolution) : String :=
  "'" ++ error.path.text ++ "' cannot be opened as a solution"

/-- A session on its way through several changes, and the notices up to now. -/
structure Transition where
  session : Session
  notices : List Notice

namespace Transition

def begin (session : Session) : Transition := ⟨session, []⟩

def update (transition : Transition) (change : Session → Session) : Transition :=
  { transition with session := change transition.session }

/-- Tells subscribers of a change, if there was one. -/
def tell (transition : Transition) (source : String) (changed : Bool) : Transition :=
  if changed then
    { transition with notices := transition.notices ++ [⟨source, transition.session⟩] }
  else transition

def git (transition : Transition) (stimulus : Stimulus Git.State) : Transition :=
  let (tracker, changed) := transition.session.git.step Git.backend stimulus
  (transition.update fun session => { session with git := tracker }).tell Git.backend.name changed

def vsr (transition : Transition) (stimulus : Stimulus Versionr.State) : Transition :=
  let (tracker, changed) := transition.session.vsr.step Versionr.backend stimulus
  (transition.update fun session => { session with vsr := tracker }).tell Versionr.backend.name
    changed

def svn (transition : Transition) (stimulus : Stimulus Subversion.State) : Transition :=
  let (tracker, changed) := transition.session.svn.step Subversion.backend stimulus
  (transition.update fun session => { session with svn := tracker }).tell Subversion.backend.name
    changed

def p4 (transition : Transition) (stimulus : Stimulus Perforce.State) : Transition :=
  let (tracker, changed) := transition.session.p4.step Perforce.backend stimulus
  (transition.update fun session => { session with p4 := tracker }).tell Perforce.backend.name
    changed

end Transition

inductive SessionStimulus where
  /-- The host opens a path as a solution. -/
  | opens (path : Path)
  /-- The host closes the solution. -/
  | closes
  /-- The host reports the state of the debugger. -/
  | mode (mode : DebugMode)
  /-- The host asks that rule files are watched. -/
  | watchRules
  /-- The watcher of the rule file of the user reports. -/
  | userRulesEdited
  /-- The watcher of the rule file of the solution reports. -/
  | solutionRulesEdited
  | git (stimulus : Stimulus Git.State)
  | vsr (stimulus : Stimulus Versionr.State)
  | svn (stimulus : Stimulus Subversion.State)
  | p4 (stimulus : Stimulus Perforce.State)

namespace Session

/-- A new session; `ruleFile` is the rule file of the user. -/
def new [RuleFormat] (files : Files) (ruleFile : Path) : Session :=
  { ide := Ide.ofName Ide.defaultName
    held := OpenSolution.none
    git := Tracker.idle
    vsr := Tracker.idle
    svn := Tracker.idle
    p4 := Tracker.idle
    userRules := SettingsFile.opened files .user ruleFile
    solutionRules := none
    solution := none
    watchesRules := false }

/-- Closes the solution and gives up its rule file. -/
def closeSolution (session : Session) : Transition :=
  let transition := (Transition.begin session).update fun session =>
    { session with solution := none, solutionRules := none }
  let (held, changed) := session.held.close
  let transition := (transition.update fun session => { session with held }).tell "solution" changed
  (((transition.git .closed).vsr .closed).svn .closed).p4 .closed

/-- Opens a solution; the one that was open before is closed first. -/
def openSolution [RuleFormat] (files : Files) (session : Session) (solution : Solution) : Transition :=
  let transition :=
    if session.solution.isSome then session.closeSolution else Transition.begin session
  let rules := SettingsFile.opened files .solution solution.ruleFile
  let rules := if session.watchesRules then rules.watch files else rules
  let transition := transition.update fun session =>
    { session with solution := some solution, solutionRules := some rules }
  let transition := (transition.update fun session =>
    { session with held := OpenSolution.opened solution }).tell "solution" true
  let directory := solution.directory
  (((transition.git (.opened directory)).vsr (.opened directory)).svn (.opened directory)).p4
    (.opened directory)

def open? [RuleFormat] (files : Files) (session : Session) (path : Path) :
    Except NotSolution (Solution × Transition) :=
  match Solution.ofPath? files path with
  | some solution => .ok (solution, session.openSolution files solution)
  | none => .error ⟨path⟩

def setMode (session : Session) (mode : DebugMode) : Transition :=
  let (ide, changed) := session.ide.setMode mode
  ((Transition.begin session).update fun session => { session with ide }).tell "ide" changed

/-- Watches the rule files from now on. -/
def watchRules (files : Files) (session : Session) : Session :=
  if session.watchesRules then session
  else { session with
    watchesRules := true
    userRules := session.userRules.watch files
    solutionRules := session.solutionRules.map (·.watch files) }

def reloadUserRules [RuleFormat] (files : Files) (session : Session) : Transition :=
  let (userRules, changed) := session.userRules.reload files
  ((Transition.begin session).update fun session => { session with userRules }).tell
    SettingsFile.source changed

/-- Reads the rule file of the solution again, if a solution is open. -/
def reloadSolutionRules [RuleFormat] (files : Files) (session : Session) : Transition :=
  match session.solutionRules with
  | none => Transition.begin session
  | some rules =>
    let (rules, changed) := rules.reload files
    ((Transition.begin session).update fun session =>
      { session with solutionRules := some rules }).tell SettingsFile.source changed

/-- What a stimulus does to a session. A path that is no solution is not opened, and changes
nothing. -/
def step [RuleFormat] (files : Files) (session : Session) : SessionStimulus → Transition
  | .opens path =>
    match session.open? files path with
    | .ok (_, transition) => transition
    | .error _ => Transition.begin session
  | .closes => session.closeSolution
  | .mode mode => session.setMode mode
  | .watchRules => Transition.begin (session.watchRules files)
  | .userRulesEdited => session.reloadUserRules files
  | .solutionRulesEdited => session.reloadSolutionRules files
  | .git stimulus => (Transition.begin session).git stimulus
  | .vsr stimulus => (Transition.begin session).vsr stimulus
  | .svn stimulus => (Transition.begin session).svn stimulus
  | .p4 stimulus => (Transition.begin session).p4 stimulus

/-- The resolvers, in query order. -/
def resolvers (session : Session) : List Resolver := [
  session.ide.resolver,
  session.held.resolver,
  session.git.resolver Git.backend,
  session.vsr.resolver Versionr.backend,
  session.svn.resolver Subversion.backend,
  session.p4.resolver Perforce.backend]

def tags : List String :=
  ["ide-name", "ide-mode", "solution", "solution-name", "item-name", "solution-path",
    "solution-dir", "path"] ++ Git.tags ++ ["vsr", "vsr-branch", "vsr-sha", "svn", "svn-url", "p4",
    "p4-client", "p4-view", "p4-root"]

theorem tags_nodup : tags.Nodup := by decide

def registry (session : Session) : Registry := ⟨session.resolvers, tags_nodup⟩

/-- The situation of queries. -/
def situation (session : Session) : Situation := ⟨session.ide.mode, session.solution⟩

def lookup (session : Session) : Lookup := ⟨session.registry, session.situation⟩

/-- The rules in force, from the lowest precedence to the highest. -/
def ruleSets (session : Session) : List RuleSet :=
  [RuleSet.defaults, session.userRules.ruleSet] ++
    (session.solutionRules.map SettingsFile.ruleSet).toList

def titleBar (session : Session) : TitleBarData :=
  (session.lookup.titleBar session.ruleSets).answer

def expand (session : Session) (template : String) : String :=
  (session.lookup.expand template).answer

/-- Whether no work is outstanding in the background. -/
def settled (session : Session) : Bool := session.resolvers.all (·.settled)

def describe (session : Session) : String :=
  let solution := match session.solution with
    | some solution => "Some(" ++ Text.quoted solution.name ++ ")"
    | none => "None"
  "Session \x7b resolvers: " ++ Lookup.quotedList session.registry.names ++ ", user_rules: " ++
    Text.quoted session.userRules.path.text ++ ", solution: " ++ solution ++ " \x7d"

/-- The work that was started between two states; the kinds of source control come in query order. -/
def launched (before after : Session) : List (Script SessionStimulus) :=
  (Tracker.launched Git.backend before.git after.git).map (·.map .git) ++
  (Tracker.launched Versionr.backend before.vsr after.vsr).map (·.map .vsr) ++
  (Tracker.launched Subversion.backend before.svn after.svn).map (·.map .svn) ++
  (Tracker.launched Perforce.backend before.p4 after.p4).map (·.map .p4)

def liftTimer {E : Type} (wrap : E → SessionStimulus) (request : TimerRequest E) :
    TimerRequest SessionStimulus :=
  ⟨request.tie, wrap request.tick⟩

def liftWatcher {E : Type} (wrap : E → SessionStimulus) (request : WatchRequest E) :
    WatchRequest SessionStimulus :=
  ⟨request.tie, request.scope, request.quiet, wrap request.report⟩

def timers (session : Session) : List (TimerRequest SessionStimulus) :=
  (session.git.timers Git.backend).map (liftTimer .git) ++
  (session.vsr.timers Versionr.backend).map (liftTimer .vsr) ++
  (session.svn.timers Subversion.backend).map (liftTimer .svn) ++
  (session.p4.timers Perforce.backend).map (liftTimer .p4)

def watchers (session : Session) : List (WatchRequest SessionStimulus) :=
  session.userRules.watchers "user" .userRulesEdited ++
  (session.solutionRules.toList.flatMap fun rules =>
    rules.watchers rules.path.text .solutionRulesEdited) ++
  (session.git.watchers Git.backend Tracker.quietPeriod).map (liftWatcher .git) ++
  (session.vsr.watchers Versionr.backend Tracker.quietPeriod).map (liftWatcher .vsr) ++
  (session.svn.watchers Subversion.backend Tracker.quietPeriod).map (liftWatcher .svn) ++
  (session.p4.watchers Perforce.backend Tracker.quietPeriod).map (liftWatcher .p4)

def machine [RuleFormat] : Machine Session SessionStimulus Notice :=
  { step := fun files session stimulus =>
      let transition := session.step files stimulus
      (transition.session, transition.notices)
    launched
    timers
    watchers }

end Session

end TitleBar
