import TitleBar.Host.Launch
import TitleBar.Host.Programs
import TitleBar.Shell.Batch
import TitleBar.Shell.Builtin

/-! # Calls

What a shell is asked to run, what the names of commands stand for, and what is left of a program
once it has run.
-/

namespace TitleBar.Shell

open Effect

structure ShellCall where
  script : List Char
  name : String
  parameters : List String
  /-- The letters of its options. -/
  letters : List Char

/-- Reads the arguments of a shell behind some letters of options; none when its script cannot be
read. -/
def ShellCall.of? (called : String) (letters : List Char) :
    List String → Effect (Option ShellCall)
  | [] => do
    let bytes ← takeAll
    return some ⟨(Text.decode bytes).toOption.getD [], called, [], letters⟩
  | argument :: rest => do
    match argument.toList with
    | '-' :: more =>
      let letters := letters ++ more
      if more.contains 'c' then
        match rest.dropWhile (·.toList.head? == some '-') with
        | [] => return none
        | script :: more =>
          let options := (rest.takeWhile (·.toList.head? == some '-')).map (·.toList.tail)
          return some ⟨script.toList, more.headD called, more.tail, letters ++ options.flatten⟩
      else if more.contains 's' then
        let bytes ← takeAll
        return some ⟨(Text.decode bytes).toOption.getD [], called, rest, letters⟩
      else ShellCall.of? called letters rest
    | _ =>
      let state ← get
      return (state.files.content? (state.path argument)).map fun content =>
        ⟨(Text.decode content).toOption.getD [], argument, rest, letters⟩

/-- The state in which a shell is started by another program. -/
def State.fresh (state : State) (call : ShellCall) (escapes : Bool) : State :=
  let inherited := state.bindings.filter (·.2.exported)
  let state := inherited.foldl (fun state (name, entry) => state.bind name (some entry))
    { state with bindings := [] }
  let known := (state.publish "PWD" state.directory.text).withSearchPath
    "/usr/local/sbin:/usr/local/bin:/usr/sbin:/usr/bin:/sbin:/bin"
  { known.assign State.optionVariable "1" with
    functions := []
    name := call.name
    parameters := call.parameters
    escapes
    strict := call.letters.contains 'e'
    careful := call.letters.contains 'u'
    literal := call.letters.contains 'f'
    tested := false
    inFunction := false
    loops := 0
    hidden := []
    status := 0 }

/-- The text that bytes are, without the newlines at its end. -/
def capturedText (bytes : List UInt8) : List Char :=
  let text := (Text.decode (bytes.filter (· != 0))).toOption.getD []
  (text.reverse.dropWhile (· == '\n')).reverse

/-- The stream that a reader of the output gets. -/
def Finished.stream (finished : Finished) : Stream :=
  ⟨finished.output, match finished.ending, finished.closed with
    | .repeats bytes, _ => .repeats bytes
    | .closes _, some time => .closes time
    | .closes _, none => .repeats []⟩

/-- Whether a reader that goes away ends the program. -/
def Finished.endsWithReader (finished : Finished) : Bool :=
  !finished.output.isEmpty || finished.ending != .repeats []

/-- What has run of a program, if it is stopped at a time. -/
def Finished.within (finished : Finished) (limit : Nat) : Finished :=
  if finished.ending.time?.any (· < limit) then finished
  else
    { finished with
      output := finished.output.filter (·.time ≤ limit)
      status := 124
      ending := .closes limit
      closed := some limit }

def launchStatus : LaunchError → Nat
  | .missing | .notDirectory | .linkLoop | .tooLong => 127
  | .denied | .badFormat | .zeroByte => 126

/-- What a name stands for as a command: the word for it, or the path of its file. -/
def State.described? (state : State) (name : String) : Option (String × String) :=
  if (state.functions.lookup name).isSome then some (name, name ++ " is a shell function")
  else if Builtin.special.contains name then some (name, name ++ " is a special shell builtin")
  else if (Builtin.table.lookup name).isSome then some (name, name ++ " is a shell builtin")
  else
    let path? := if name.toList.contains '/' then
        if state.files.isFile (state.path name) then some name else none
      else (findProgram? state.searching state.files name).map Path.text
    path?.map fun path => (path, name ++ " is " ++ path)

/-- Describes names; the status is 127 if one of them stands for nothing. -/
def describe (long : Bool) (names : List String) : Effect Unit := do
  setStatus 0
  for name in names do
    match (← get).described? name with
    | some (short, text) =>
      let line := if long then text else short
      let _ ← write 1 (Text.encode line.toList ++ [10])
    | none => do
      if long then
        let _ ← write 1 (Text.encode (name ++ ": not found").toList ++ [10])
      setStatus 127

end TitleBar.Shell
