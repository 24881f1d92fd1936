import TitleBar.Host.Environment
import TitleBar.Host.Files
import TitleBar.Shell.Arithmetic
import TitleBar.Shell.OptionScan
import TitleBar.Shell.Program
import TitleBar.Shell.Stream

/-! # States of the shell

What a running shell knows: its files and variables, where its channels lead, and its clock.
-/

namespace TitleBar.Shell

/-- Where what is written to a channel goes. -/
inductive Sink where
  /-- To the reader of the output. -/
  | kept
  /-- Nowhere. -/
  | dropped
  /-- To the end of a file. -/
  | file (location : Location)
  /-- To a device that takes nothing. -/
  | full
deriving DecidableEq, Repr

structure Variable where
  value : String
  /-- Programs get it as part of their environment. -/
  exported : Bool
  /-- It cannot be changed any more. -/
  fixed : Bool
deriving DecidableEq, Repr

/-- A program that has run; times are in milliseconds. -/
structure Finished where
  /-- What was written, in the order of time. -/
  output : List Chunk
  status : Nat
  /-- When the program ended, or what it writes for ever. -/
  ending : Ending
  /-- When the last one of the programs that it started let go of the output; none if that never
  happens. -/
  closed : Option Nat
  /-- The files as they are then. -/
  files : Files
  /-- The input that is left. -/
  input : Stream
deriving DecidableEq, Repr

structure Job where
  number : Nat
  finished : Finished
deriving DecidableEq, Repr

structure State where
  files : Files
  directory : Path
  bindings : List (String × Variable)
  functions : List (String × Program)
  /-- The commands to run when a signal comes, or at the end. -/
  traps : List (String × String)
  /-- The signals that have come and whose commands have still to run. -/
  pending : List String
  /-- The name under which the shell runs. -/
  name : String
  parameters : List String
  /-- How far the options of arguments have been read. -/
  scan : OptionScan
  /-- Whether `echo` knows escapes. -/
  escapes : Bool
  /-- Whether a command that fails ends the shell. -/
  strict : Bool
  /-- Whether a variable has to be set. -/
  careful : Bool
  /-- Whether wildcards stand for themselves. -/
  literal : Bool
  /-- Whether the command that runs is a test, which may fail. -/
  tested : Bool
  /-- Whether a function runs. -/
  inFunction : Bool
  /-- The number of loops around the command that runs. -/
  loops : Nat
  /-- What the variables were that are local to the function that runs. -/
  hidden : List (String × Option Variable)
  /-- The status of the last command. -/
  status : Nat
  /-- The status of the last command whose output was put into a word. -/
  captured : Nat
  input : Stream
  /-- Where the open channels lead that can be written. -/
  channels : List (Nat × Sink)
  /-- What was written, the last chunk first. -/
  written : List Chunk
  jobs : List Job
  clock : Nat
  /-- When the last one of the programs that are left alone lets go of the output; none if that
  never happens. -/
  closed : Option Nat

namespace State

def variableValue? (state : State) (name : String) : Option String :=
  (state.bindings.lookup name).map Variable.value

/-- The rank of a variable by its name. A shell hands its variables on in the order of their ranks. -/
def rank (name : String) : Nat :=
  let bytes := (Text.encode name.toList).map UInt8.toNat
  (16 * bytes.headD 0 + bytes.foldl (· + ·) 0) % 39

/-- Replaces a variable; a new one comes behind those whose rank is not higher. -/
def bind (state : State) (name : String) (found? : Option Variable) : State :=
  { state with
    bindings := match found? with
      | none => state.bindings.filter (·.1 != name)
      | some entry =>
        if state.bindings.any (·.1 == name) then
          state.bindings.map fun pair => if pair.1 == name then (name, entry) else pair
        else
          let lower := state.bindings.takeWhile fun pair => rank pair.1 ≤ rank name
          lower ++ (name, entry) :: state.bindings.drop lower.length }

/-- The variable that holds the number of the next argument while options are read. -/
def optionVariable : String := "OPTIND"

def assign (state : State) (name value : String) : State :=
  let state := if name = optionVariable then
      { state with scan := ⟨max 1 ((integer? value).getD 1).toNat, none⟩ }
    else state
  state.bind name (some
    { (state.bindings.lookup name).getD ⟨"", false, false⟩ with value })

def environment (state : State) : Environment :=
  ⟨(state.bindings.filter (·.2.exported)).map fun (name, entry) => (name, entry.value), none⟩

/-- The environment in which programs are searched; the search path need not be exported. -/
def searching (state : State) : Environment :=
  ⟨(state.bindings.filter fun (name, entry) => entry.exported || name == "PATH").map
    fun (name, entry) => (name, entry.value), none⟩

/-- The state with a search path, if there is none. -/
def withSearchPath (state : State) (usual : String) : State :=
  if (state.variableValue? "PATH").isSome then state else state.assign "PATH" usual

/-- Sets a variable that programs get, too. -/
def publish (state : State) (name value : String) : State :=
  let state := state.assign name value
  state.bind name ((state.bindings.lookup name).map fun entry => { entry with exported := true })

/-- Whether the shell can write to the reader of its output. -/
def holds (state : State) : Bool := state.channels.any (·.2 == .kept)

/-- Where a shell is after it has gone to a path. Parts are taken back by `..` as they are written,
whether they are links or not. -/
def destination (state : State) (target : String) : Path :=
  Path.ofParts ((state.directory.join target).parts.foldl (fun parts part =>
    match part with
    | .root => [.root]
    | .here => parts
    | .up => if parts = [.root] then parts else parts.dropLast
    | .name name => parts ++ [.name name]) [])

/-- Goes to a directory that is there. -/
def enter (state : State) (directory : Path) : State :=
  let before := state.directory.text
  ({ state with directory }.publish "OLDPWD" before).publish "PWD" directory.text

/-- The current directory, and what links on the way to it lead to if they do not count. -/
def currentDirectory (state : State) (physical : Bool) : Path :=
  if physical then (state.files.canonical? state.directory).getD state.directory
  else state.directory

/-- The path of a name, as seen from the current directory. -/
def path (state : State) (name : String) : Path := state.directory.join name

/-- The number that the shell has among the processes of its host. -/
def processNumber : Nat := 4242

def value? (state : State) (name : String) : Option String :=
  match name.toList with
  | ['?'] => some (toString state.status)
  | ['#'] => some (toString state.parameters.length)
  | ['$'] => some (toString processNumber)
  | ['!'] => state.jobs.head?.map fun job => toString job.number
  | ['-'] => some ((if state.strict then "e" else "") ++ (if state.careful then "u" else ""))
  | ['*'] | ['@'] =>
    if state.parameters.isEmpty then none
    else
      let mark := match state.variableValue? "IFS" with
        | some text => String.ofList (text.toList.take 1)
        | none => " "
      some (String.intercalate mark state.parameters)
  | c :: _ =>
    if c.isDigit then
      match numeral 10 name.toList with
      | 0 => some state.name
      | n + 1 => state.parameters[n]?
    else state.variableValue? name
  | [] => none

/-- The state of a shell within a shell: it starts with nothing written, and no job is its own. -/
def inside (state : State) : State :=
  { state with
    written := []
    jobs := []
    pending := []
    closed := some state.clock
    traps := state.traps.filter (·.2.isEmpty) }

/-- The state in which what a job has written counts as written by the shell. -/
def collect (state : State) (number : Nat) : State :=
  let jobs := state.jobs.map fun job =>
    if job.number = number then
      { job with finished := { job.finished with output := [] } }
    else job
  let output := (state.jobs.find? (·.number == number)).elim [] fun job => job.finished.output
  { state with jobs, written := output.reverse ++ state.written }

/-- What has run, once a shell has come to its end. -/
def finished (state : State) (ending : Ending) : Finished :=
  let chunks := state.written.reverse ++ (state.jobs.map fun job => job.finished.output).flatten
  let own := if state.holds then ending.time? else some 0
  { output := chunks.mergeSort fun a b => a.time ≤ b.time
    status := state.status
    ending
    closed := (own :: state.jobs.map fun job => job.finished.closed).foldl latest state.closed
    files := state.files
    input := state.input }

end State

end TitleBar.Shell
