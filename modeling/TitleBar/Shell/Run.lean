import TitleBar.Shell.Call
import TitleBar.Shell.Redirection

/-! # Running programs of the shell

An evaluator of programs. A program that does not come to an end within its fuel counts as one that
never ends.
-/

namespace TitleBar.Shell

open Effect

/-- A program and the redirections around it, which a shell of its own can carry out for good. -/
def Program.detached : Program → List Redirect × Program
  | .simple assignments (word :: words) redirects =>
    (redirects, .simple assignments (word :: words) [])
  | .redirected program redirects => (redirects, program)
  | program => ([], program)

def assignAll (capture : Capture) (exported : Bool) (assignments : List (String × Word)) :
    Effect Unit := do
  for (name, word) in assignments do
    assign name (← word.value capture)
    if exported then
      modify fun state =>
        state.bind name ((state.bindings.lookup name).map fun entry => { entry with exported })

/-- The variables that are taken from an environment, or all of them if there is no list, and the
arguments behind the options that say so. -/
def environmentOptions : List String → Option (List String) × List String
  | "-i" :: rest | "-" :: rest => (none, (environmentOptions rest).2)
  | "-u" :: name :: rest =>
    let (names, rest) := environmentOptions rest
    (names.map (name :: ·), rest)
  | "--" :: rest => (some [], rest)
  | arguments => (some [], arguments)

mutual
def run : Nat → Program → Effect Unit
  | 0, _ => throw (.endless [])
  | fuel + 1, program => do
    let capture := captureOutput fuel
    match program with
    | .nothing => return
    | .malformed => leave 2
    | .simple assignments words redirects => do
      modify fun state => { state with captured := 0 }
      let fields ← words.mapM fun word => word.fields capture
      match fields.flatten with
      | [] =>
        redirecting capture redirects (setStatus 2) do
          assignAll capture false assignments
          setStatus (← get).captured
      | name :: arguments => runSimple fuel assignments name arguments redirects
      runPending fuel
      check
    | .pipe first second => do
      let left ← runApart fuel (·.connect 1 .kept) first
      let right ← runApart fuel
        (fun state => { state with input := left.stream, files := left.files }) second
      absorb { right with input := left.input }
      match left.ending with
      | .closes time => waitUntil time
      | .repeats _ => if !left.endsWithReader then throw (.endless [])
      check
    | .negation program => do
      testing (run fuel program)
      setStatus (if (← get).status = 0 then 1 else 0)
    | .both first second => do
      testing (run fuel first)
      if (← get).status = 0 then run fuel second
    | .either first second => do
      testing (run fuel first)
      if (← get).status ≠ 0 then run fuel second
    | .sequence first second => do
      run fuel first
      run fuel second
    | .background program => do
      let finished ← runApart fuel (fun state => { state with input := Stream.empty }) program
      modify fun state =>
        let job : Job := ⟨State.processNumber + state.jobs.length + 1, finished⟩
        { state with jobs := job :: state.jobs, files := finished.files }
      setStatus 0
    | .choice test yes no => do
      testing (run fuel test)
      if (← get).status = 0 then run fuel yes
      else
        setStatus 0
        run fuel no
    | .repetition wanted test body => do
      let before := (← get).loops
      modify fun state => { state with loops := before + 1 }
      andThen (runLoop fuel wanted test body 0) fun state => { state with loops := before }
    | .each name words body => do
      let fields ← words.mapM fun word => word.fields capture
      let before := (← get).loops
      modify fun state => { state with loops := before + 1, status := 0 }
      andThen (runEach fuel name body fields.flatten) fun state => { state with loops := before }
    | .selection word branches => do
      let subject ← word.value capture
      setStatus 0
      let branch? ← branches.findM? fun (patterns, _) =>
        patterns.anyM fun pattern => do
          return matchesPattern (← pattern.pattern capture) subject.toList
      match branch? with
      | some (_, body) => run fuel body
      | none => return
    | .inner program => do
      absorb (← runApart fuel id program)
      check
    | .redirected program [] => run fuel program
    | .redirected program redirects =>
      redirecting capture redirects (do setStatus 2; check) (run fuel program)
    | .definition name body => do
      modify fun state =>
        { state with functions := (name, body) :: state.functions.filter (·.1 != name) }
      setStatus 0

/-- Runs a program in a shell of its own. The redirections around it are carried out for good. -/
def runApart : Nat → (State → State) → Program → Effect Finished
  | 0, _, _ => throw (.endless [])
  | fuel + 1, prepare, program => do
    let (redirects, program) := program.detached
    apart prepare do
      if ← redirectAll (captureOutput fuel) redirects then runWhole fuel program else setStatus 2

/-- Runs a program up to the end of its shell, where the command for that runs. -/
def runWhole : Nat → Program → Effect Unit
  | 0, _ => throw (.endless [])
  | fuel + 1, program => do
    match ← attempt (run fuel program) with
    | .error (.endless bytes) => throw (.endless bytes)
    | .error .killed => throw .killed
    | _ => runTrap fuel "EXIT"

/-- Runs the command for a condition. The status stays as it is. -/
def runTrap : Nat → String → Effect Unit
  | 0, _ => throw (.endless [])
  | fuel + 1, condition => do
    let state ← get
    match state.traps.lookup condition with
    | some command =>
      if condition = "EXIT" then
        set { state with traps := state.traps.filter (·.1 != condition) }
      run fuel (Program.ofScript command.toList)
      setStatus state.status
    | none => return

/-- Runs the commands for the signals that have come. -/
def runPending : Nat → Effect Unit
  | 0 => throw (.endless [])
  | fuel + 1 => do
    match (← get).pending with
    | [] => return
    | condition :: more => do
      modify fun state => { state with pending := more }
      runTrap fuel condition
      runPending fuel

/-- Runs a script and gives what it prints. -/
def captureOutput : Nat → List Char → Effect (List Char)
  | 0, _ => throw (.endless [])
  | fuel + 1, script => do
    let finished ← runApart fuel (·.connect 1 .kept) (Program.ofScript script)
    let bytes ← await finished.stream
    modify fun state =>
      { state with
        files := finished.files
        input := finished.input
        captured := finished.status }
    if let some time := finished.ending.time? then waitUntil time
    return capturedText bytes

/-- Runs a loop; `last` is the status of the last turn. -/
def runLoop : Nat → Bool → Program → Program → Nat → Effect Unit
  | 0, _, _, _, _ => throw (.endless [])
  | fuel + 1, wanted, test, body, last => do
    testing (run fuel test)
    if ((← get).status == 0) != wanted then setStatus last
    else
      match ← attempt (run fuel body) with
      | .ok () | .error (.continues 0) => runLoop fuel wanted test body (← get).status
      | .error (.breaks 0) => return
      | .error (.breaks (loops + 1)) => throw (.breaks loops)
      | .error (.continues (loops + 1)) => throw (.continues loops)
      | .error escape => throw escape

/-- Runs a loop over fields. -/
def runEach : Nat → String → Program → List String → Effect Unit
  | 0, _, _, _ => throw (.endless [])
  | _ + 1, _, _, [] => return
  | fuel + 1, name, body, field :: fields => do
    assign name field
    match ← attempt (run fuel body) with
    | .ok () | .error (.continues 0) => runEach fuel name body fields
    | .error (.breaks 0) => return
    | .error (.breaks (loops + 1)) => throw (.breaks loops)
    | .error (.continues (loops + 1)) => throw (.continues loops)
    | .error escape => throw escape

/-- Runs a command with the assignments and redirections that are written with it. -/
def runSimple : Nat → List (String × Word) → String → List String → List Redirect → Effect Unit
  | 0, _, _, _, _ => throw (.endless [])
  | fuel + 1, assignments, name, arguments, redirects => do
    let capture := captureOutput fuel
    let special := Builtin.special.contains name
    let failed : Effect Unit := if special then leave 2 else setStatus 2
    if name = "exec" then
      let before ← get
      if !(← redirectAll capture redirects) then leave 2
      assignAll capture true assignments
      match arguments with
      | [] =>
        modify fun state =>
          if before.holds && !state.holds then
            { state with closed := latest state.closed (some state.clock) }
          else state
        setStatus 0
      | name :: arguments => do
        runFile fuel name arguments
        modify fun state => { state with traps := [] }
        throw .leaves
    else
      redirecting capture redirects failed do
        if assignments.isEmpty || special then
          assignAll capture false assignments
          runCommand fuel true name arguments
        else
          let before := (← get).bindings
          assignAll capture true assignments
          andThen (runCommand fuel true name arguments) fun state =>
            assignments.foldl (fun state (name, _) => state.bind name (before.lookup name)) state

/-- Runs a command by its name; functions count when `functions` holds. -/
def runCommand : Nat → Bool → String → List String → Effect Unit
  | 0, _, _, _ => throw (.endless [])
  | fuel + 1, functions, name, arguments => do
    let state ← get
    match if functions then state.functions.lookup name else none with
    | some body => runFunction fuel body arguments
    | none =>
      match name, arguments with
      | "eval", texts =>
        setStatus 0
        run fuel (Program.ofScript (String.intercalate " " texts).toList)
      | ".", file :: _ =>
        match state.files.content? (state.path file) with
        | none => leave 2
        | some content =>
          let script := (Text.decode content).toOption.getD []
          match ← attempt (run fuel (Program.ofScript script)) with
          | .error .returns => return
          | result => resume result
      | "command", "-v" :: names => describe false names
      | "command", "-V" :: names => describe true names
      | "command", name :: arguments => runCommand fuel false name arguments
      | "type", names => describe true names
      | name, arguments =>
        match Builtin.table.lookup name with
        | some builtin => builtin arguments
        | none => runFile fuel name arguments

def runFunction : Nat → Program → List String → Effect Unit
  | 0, _, _ => throw (.endless [])
  | fuel + 1, body, arguments => do
    let before ← get
    set { before with
      parameters := arguments
      scan := OptionScan.start
      hidden := []
      inFunction := true
      loops := 0 }
    let result ← attempt (run fuel body)
    modify fun state =>
      let restored := state.hidden.foldl (fun state (name, found?) => state.bind name found?) state
      { restored with
        parameters := before.parameters
        scan := before.scan
        hidden := before.hidden
        inFunction := before.inFunction
        loops := before.loops }
    match result with
    | .error .returns => return
    | result => resume result

/-- Runs a command that is a file. A file without an interpreter is a script of the shell. -/
def runFile : Nat → String → List String → Effect Unit
  | 0, _, _ => throw (.endless [])
  | fuel + 1, name, arguments => do
    let state ← get
    match state.files.launch? state.searching state.directory ⟨name⟩ arguments with
    | .ok (program, arguments) => absorb (← start fuel name program arguments)
    | .error .badFormat =>
      let path := if name.toList.contains '/' then name
        else ((findProgram? state.searching state.files name).map Path.text).getD name
      absorb (← start fuel name (.shell state.escapes) (path :: arguments))
    | .error error => setStatus (launchStatus error)

/-- Runs a program of the system that is called by a name. -/
def start : Nat → String → SystemProgram → List String → Effect Finished
  | 0, _, _, _ => throw (.endless [])
  | fuel + 1, called, program, arguments =>
    match program with
    | .utility utility => apart id (utility arguments)
    | .launcher .plain =>
      apart id do
        match arguments with
        | name :: arguments => runFile fuel name arguments
        | [] => setStatus 125
    | .launcher .batch =>
      apart id do
        match Batch.commands? arguments (← takeAll) with
        | none => setStatus 1
        | some commands => do
          let statuses ← commands.mapM fun command => do
            match command with
            | name :: arguments => runFile fuel name arguments
            | [] => setStatus 0
            return (← get).status
          setStatus (Batch.status statuses)
    | .launcher .limit => do
      let began := (← get).clock
      match arguments with
      | time :: name :: arguments =>
        let finished ← apart id (runFile fuel name arguments)
        match Utility.milliseconds? time with
        | some (some limit) => return finished.within (began + limit)
        | some none => return finished
        | none => apart id (setStatus 125)
      | _ => apart id (setStatus 125)
    | .launcher .environment =>
      apart id do
        let (without, arguments) := environmentOptions arguments
        match without with
        | none => modify fun state => { state with bindings := [] }
        | some names => names.forM fun name => modify (·.bind name none)
        modify (·.withSearchPath "/bin:/usr/bin")
        for text in arguments.takeWhile (·.toList.contains '=') do
          let (name, value?) := Builtin.splitAssignment text
          let pair := (name, ({ value := value?.getD "", exported := true, fixed := false } : Variable))
          modify fun state =>
            { state with
              bindings :=
                if state.bindings.any (·.1 == name) then
                  state.bindings.map fun other => if other.1 == name then pair else other
                else state.bindings ++ [pair] }
        match arguments.dropWhile (·.toList.contains '=') with
        | name :: arguments => runFile fuel name arguments
        | [] =>
          for (name, value) in (← get).environment.bindings do
            let _ ← write 1 (Text.encode (name ++ "=" ++ value).toList ++ [10])
          setStatus 0
    | .shell escapes =>
      apart id do
        match ← ShellCall.of? called [] arguments with
        | none => setStatus 2
        | some call => do
          modify fun state => state.fresh call escapes
          runWhole fuel (Program.ofScript call.script)
end

end TitleBar.Shell
