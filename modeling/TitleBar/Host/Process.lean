import TitleBar.Host.Programs
import TitleBar.Host.Tools
import TitleBar.Shell.Run

/-! # Running commands

How a command ends within a time limit. Its output can be read as a whole once the command has
ended, or line by line while it runs; the two differ in what they wait for and in when they notice
output that is no text.
-/

namespace TitleBar

open Shell

/-- Why a command could not be carried out. -/
inductive CommandFault where
  | launch (error : LaunchError)
  /-- A line of the output is no text. -/
  | undecodable (error : Text.Utf8Error)
deriving DecidableEq, Repr

def CommandFault.message : CommandFault → String
  | .launch error => error.message
  | .undecodable error => error.message

/-- Why a command has no output. -/
inductive CommandError where
  | failed (command : String) (fault : CommandFault)
  /-- The command ended with a status other than zero. -/
  | badStatus (command : String)
  /-- The command ran for longer than the limit, in milliseconds. -/
  | timedOut (command : String) (limit : Nat)
  /-- The output as a whole is no text. -/
  | notText (command : String)
deriving DecidableEq, Repr

/-- The digits behind the point of a number of thousandths, without zeros at their end. -/
def thousandths (n : Nat) : List Char :=
  let digits := Nat.toDigits 10 (1000 + n % 1000)
  (digits.tail.reverse.dropWhile (· == '0')).reverse

/-- A time in milliseconds, in the largest unit that fits. -/
def durationText (time : Nat) : String :=
  if time = 0 then "0ns"
  else if time < 1000 then toString time ++ "ms"
  else
    let places := thousandths time
    toString (time / 1000) ++
      (if places.isEmpty then "" else "." ++ String.ofList places) ++ "s"

def CommandError.message : CommandError → String
  | .failed command fault =>
    "Command '" ++ command ++ "' could not be executed: " ++ fault.message
  | .badStatus command => "Command '" ++ command ++ "' exited with a non-zero error code."
  | .timedOut command limit =>
    "Command '" ++ command ++ "' did not finish within " ++ durationText limit ++
      " and was killed."
  | .notText command => "Command '" ++ command ++ "' produced output that was not valid UTF-8"

/-- A host: its files, and the environment that programs are started with. -/
structure Host where
  files : Files
  environment : Environment
deriving DecidableEq, Repr

namespace Host

/-- How many steps a program may take before it counts as one that never ends. -/
def maxSteps : Nat := 200000

/-- How a command knows the directory that it is started in: as the environment says if that is
right, and else without links. -/
def knownDirectory (host : Host) (directory : Path) : Path :=
  let canonical := (host.files.canonical? directory).getD directory
  match host.environment.bindings.lookup "PWD" with
  | some text =>
    if Path.isAbsolute ⟨text⟩ && host.files.canonical? ⟨text⟩ == some canonical then ⟨text⟩
    else canonical
  | none => canonical

/-- The state in which a command is started. It reads nothing, and what it writes to its second
channel is dropped. -/
def startState (host : Host) (directory : Path) : State :=
  { files := host.files
    directory := host.knownDirectory directory
    bindings := host.environment.bindings.map fun (name, value) => (name, ⟨value, true, false⟩)
    functions := []
    traps := []
    pending := []
    name := ""
    parameters := []
    scan := OptionScan.start
    escapes := true
    strict := false
    careful := false
    literal := false
    tested := false
    inFunction := false
    loops := 0
    hidden := []
    status := 0
    captured := 0
    input := Stream.empty
    channels := [(1, .kept), (2, .dropped)]
    written := []
    jobs := []
    clock := 0
    closed := some 0 }

/-- Checks that a command can be started in its directory. -/
def checkDirectory (host : Host) (directory : Path) : Except LaunchError Unit := do
  let location ← (host.files.locate directory).mapError Fault.launchError
  if host.files.node? location ≠ some .directory then throw .notDirectory

def execute (host : Host) (command : Command) : Except LaunchError Finished := do
  if (command.directory.text :: command.program.text :: command.arguments).any
      (·.toList.contains '\x00') then
    throw .zeroByte
  host.checkDirectory command.directory
  let (program, arguments) ← host.files.launch? host.environment command.directory
    command.program command.arguments
  let state := host.startState command.directory
  match (start maxSteps command.program.text program arguments).run.run state with
  | (.ok finished, _) => return finished
  | (.error _, state) => return state.finished (.repeats [])

/-- The output of a command as a whole, and the host as the command leaves it. The limit is for the
command itself; programs that it leaves behind are waited for as long as they may write. -/
def output? (host : Host) (command : Command) (limit : Nat) :
    Except CommandError String × Host :=
  let line := command.line
  match host.execute command with
  | .error error => (.error (.failed line (.launch error)), host)
  | .ok finished =>
    let result := match finished.ending, finished.closed with
      | .closes ended, some _ =>
        if limit ≤ ended then .error (.timedOut line limit)
        else if finished.status ≠ 0 then .error (.badStatus line)
        else match Text.decode (finished.output.map Chunk.bytes).flatten with
          | .ok text => .ok (String.ofList text)
          | .error _ => .error (.notText line)
      | _, _ => .error (.timedOut line limit)
    (result, { host with files := finished.files })

/-- The lines of what was written, without the ends of lines, and when each one was complete. What
follows the last newline is complete at time `closed`. -/
def timedLines (closed : Nat) (chunks : List Chunk) : List (Nat × List UInt8) :=
  let (lines, last) := chunks.foldl (fun state chunk =>
    chunk.bytes.foldl (fun (lines, last) byte =>
      if byte = 10 then
        ((chunk.time, (if last.head? = some 13 then last.tail else last).reverse) :: lines, [])
      else (lines, byte :: last)) state) (([], []) : List (Nat × List UInt8) × List UInt8)
  (if last.isEmpty then lines else (closed, last.reverse) :: lines).reverse

/-- The first line that is no text, and when it was complete. -/
def firstUndecodable? (lines : List (Nat × List UInt8)) : Option (Nat × Text.Utf8Error) :=
  lines.findSome? fun (time, line) =>
    match Text.decode line with
    | .ok _ => none
    | .error error => some (time, error)

/-- The output of a command line by line, and how long that took. The limit holds for all that may
still write; a line that is no text ends the reading at once. -/
def outputLines (host : Host) (command : Command) (limit : Nat) :
    Except CommandError (List String) × Nat :=
  let line := command.line
  let timedOut := (.error (.timedOut line limit), limit)
  match host.execute command with
  | .error error => (.error (.failed line (.launch error)), 0)
  | .ok finished =>
    let ended := (latest finished.ending.time? finished.closed).getD limit
    let lines := timedLines (finished.closed.getD limit) finished.output
    match firstUndecodable? lines with
    | some (time, error) =>
      if limit ≤ time then timedOut else (.error (.failed line (.undecodable error)), time)
    | none =>
      if limit ≤ ended then timedOut
      else if finished.status ≠ 0 then (.error (.badStatus line), ended)
      else (.ok (lines.map fun (_, line) =>
        String.ofList ((Text.decode line).toOption.getD [])), ended)

/-- The time limit for the commands of source control, in milliseconds. -/
def toolLimit : Nat := 5000

def tools (host : Host) : Tools :=
  { locate := fun files program => findProgram? host.environment files program
    reply := fun files command =>
      let (result, time) := { host with files }.outputLines command toolLimit
      ⟨result.toOption, time⟩ }

end Host

end TitleBar
