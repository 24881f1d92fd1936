import TitleBar.CommandLine.Request
import TitleBar.Host.Process
import TitleBar.Rule.Library
import TitleBar.Session
import TitleBar.Timeline

/-! # Opening a session

A command sets up a session of its own, opens a solution in it if there is one, and waits for
source control as long as the request allows.
-/

namespace TitleBar.CommandLine

inductive OpeningError where
  | location (error : LocationError)
  /-- The path of the solution leads nowhere. -/
  | missing (path : Path)
  /-- The path stands for no solution. -/
  | notSolution (error : NotSolution)
deriving DecidableEq, Repr

def OpeningError.message : OpeningError → String
  | .location error => error.message
  | .missing path => "Solution '" ++ path.text ++ "' does not exist."
  | .notSolution error => "Failed to open '" ++ error.path.text ++ "': " ++ error.message

/-- The path of the solution that a request names, if it leads anywhere. -/
def solutionPath? (host : Host) (raw : String) : Except OpeningError Path := do
  let path ← (host.environment.expandPath? raw).mapError OpeningError.location
  if host.files.contains path then return path else throw (.missing path)

/-- Opens a solution in a session, and waits for source control for some milliseconds. Without any
patience nothing is waited for. -/
def openAndSettle (host : Host) (session : Session) (path : Path) (patience : Nat) :
    Except OpeningError Session :=
  match session.open? host.files path with
  | .error error => .error (.notSolution error)
  | .ok _ =>
    let line := (Timeline.start Session.machine host.files host.tools session).happen (.opens path)
    .ok (line.advanceUntil Session.settled patience).state

def openSession (host : Host) (options : SessionOptions) (solution : Option String) :
    Except OpeningError Session := do
  let ruleFile ← (host.environment.userRuleFile? options.config).mapError OpeningError.location
  let session := ((Session.new host.files ruleFile).setMode options.mode).session
  match solution with
  | none => return session
  | some raw => openAndSettle host session (← solutionPath? host raw) options.patience

end TitleBar.CommandLine
