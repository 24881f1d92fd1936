import TitleBar.Shell.Expansion
import TitleBar.Shell.Utility

/-! # Commands of the shell itself

The commands that change the state of the shell, or that every shell brings along.
-/

namespace TitleBar.Shell.Builtin

open Text Effect

/-- The name and the value of an assignment that a text is. -/
def splitAssignment (text : String) : String × Option String :=
  let name := text.toList.takeWhile (· != '=')
  match text.toList.drop name.length with
  | _ :: value => (String.ofList name, some (String.ofList value))
  | [] => (text, none)

/-- Assigns to variables and marks them. -/
def mark (change : Variable → Variable) (arguments : List String) : Effect Unit := do
  for text in arguments.filter (·.toList.head? != some '-') do
    let (name, value?) := splitAssignment text
    if !isName name.toList then leave 2
    if let some value := value? then assign name value
    match (← get).bindings.lookup name with
    | some entry => modify (·.bind name (some (change entry)))
    | none => pure ()
  setStatus 0

/-- Makes variables of a function; what they were before comes back at its end. -/
def makeLocal (arguments : List String) : Effect Unit := do
  if !(← get).inFunction then leave 2
  for text in arguments do
    let (name, value?) := splitAssignment text
    let before := (← get).bindings.lookup name
    modify fun state => { state with hidden := (name, before) :: state.hidden }
    if let some value := value? then assign name value
  setStatus 0

def unset (arguments : List String) : Effect Unit := do
  let (options, names) := (arguments.filter (·.toList.head? == some '-'),
    arguments.filter (·.toList.head? != some '-'))
  for name in names do
    if options.contains "-f" then
      modify fun state => { state with functions := state.functions.filter (·.1 != name) }
    else
      if ((← get).bindings.lookup name).any Variable.fixed then leave 2
      modify (·.bind name none)
  setStatus 0

/-- The status that an argument asks for; without one that of the last command. -/
def statusOf (arguments : List String) : Effect Nat := do
  match arguments with
  | [] => return (← get).status
  | text :: _ =>
    match natural? text.toList with
    | some n => return n % 256
    | none => leave 2

def exit (arguments : List String) : Effect Unit := do leave (← statusOf arguments)

def leaveFunction (arguments : List String) : Effect Unit := do
  setStatus (← statusOf arguments)
  throw .returns

/-- The count that an argument gives, which is one without it. -/
def countOf (arguments : List String) : Effect Nat :=
  match arguments with
  | [] => return 1
  | text :: _ =>
    match natural? text.toList with
    | some n => return n
    | none => leave 2

def leaveLoops (arguments : List String) : Effect Unit := do
  let count ← countOf arguments
  if count = 0 then leave 2
  setStatus 0
  let loops := (← get).loops
  if loops ≠ 0 then throw (.breaks (min count loops - 1))

def nextTurn (arguments : List String) : Effect Unit := do
  let count ← countOf arguments
  if count = 0 then leave 2
  setStatus 0
  let loops := (← get).loops
  if loops ≠ 0 then throw (.continues (min count loops - 1))

def shift (arguments : List String) : Effect Unit := do
  let count ← countOf arguments
  let state ← get
  if state.parameters.length < count then leave 2
  set { state with parameters := state.parameters.drop count, scan := OptionScan.start }
  setStatus 0

def setLetters (on : Bool) (letters : List Char) : Effect Unit :=
  modify fun state =>
    { state with
      strict := if letters.contains 'e' then on else state.strict
      careful := if letters.contains 'u' then on else state.careful
      literal := if letters.contains 'f' then on else state.literal }

def setOptions : List String → Effect Unit
  | [] => setStatus 0
  | "--" :: parameters => do
    modify fun state => { state with parameters, scan := OptionScan.start }
    setStatus 0
  | argument :: rest =>
    match argument.toList, rest with
    | ['-', 'o'], name :: rest | ['+', 'o'], name :: rest => do
      let on := argument == "-o"
      setLetters on (match name with
        | "errexit" => ['e']
        | "nounset" => ['u']
        | "noglob" => ['f']
        | _ => [])
      setOptions rest
    | '-' :: letter :: letters, rest => do
      setLetters true (letter :: letters)
      setOptions rest
    | '+' :: letter :: letters, rest => do
      setLetters false (letter :: letters)
      setOptions rest
    | _, _ => do
      modify fun state =>
        { state with parameters := argument :: rest, scan := OptionScan.start }
      setStatus 0

def readOption (arguments : List String) : Effect Unit := do
  match arguments with
  | letters :: name :: given => do
    let state ← get
    let values := if given.isEmpty then state.parameters else given
    let (scan, found?) := state.scan.step letters.toList values
    match found? with
    | some ⟨_, some text⟩ => assign "OPTARG" text
    | some ⟨_, none⟩ => modify (·.bind "OPTARG" none)
    | none => pure ()
    assign State.optionVariable (toString scan.index)
    modify fun state => { state with scan }
    assign name (String.ofList [(found?.map ScannedOption.letter).getD '?'])
    setStatus (if found?.isSome then 0 else 1)
  | _ => setStatus 2

def changeDirectory (arguments : List String) : Effect Unit := do
  let state ← get
  let physical := arguments.head? == some "-P"
  let operands := arguments.dropWhile fun argument =>
    argument == "-P" || argument == "-L" || argument == "--"
  let back := operands.head? == some "-"
  let target := state.destination (if back then (state.variableValue? "OLDPWD").getD ""
    else operands.headD ((state.variableValue? "HOME").getD ""))
  if state.files.isDirectory target then
    let target := ({ state with directory := target } : State).currentDirectory physical
    set (state.enter target)
    if back then answerLine target.text else setStatus 0
  else setStatus 2

def printDirectory (arguments : List String) : Effect Unit := do
  answerLine ((← get).currentDirectory (arguments.head? == some "-P")).text

/-- The characters of a line as they are read: a backslash quotes the next one unless `raw` holds.
Also whether the line goes on below. -/
def lineChars (raw : Bool) : List Char → List PatternChar × Bool
  | [] => ([], false)
  | ['\\'] => if raw then ([⟨'\\', false⟩], false) else ([], true)
  | c :: d :: rest =>
    if c = '\\' ∧ !raw then
      let (chars, more) := lineChars raw rest
      (⟨d, true⟩ :: chars, more)
    else
      let (chars, more) := lineChars raw (d :: rest)
      (⟨c, false⟩ :: chars, more)
  | [c] => ([⟨c, false⟩], false)

/-- Reads a line, and the lines that it goes on with; at most `fuel` of them. Gives also whether a
newline ended it. -/
def readLine (raw : Bool) : Nat → Effect (List PatternChar × Bool)
  | 0 => return ([], false)
  | fuel + 1 => do
    let bytes ← takeInput (·.takeLines 1)
    let ended := bytes.getLast? = some 10
    let line := if ended then bytes.dropLast else bytes
    let (chars, more) := lineChars raw ((decode line).toOption.getD [])
    if more && ended then
      let (further, ended) ← readLine raw fuel
      return (chars ++ further, ended)
    return (chars, ended)

/-- Splits a line into as many values as there are names; the last one takes all that is left. -/
def splitLine (separates blank : PatternChar → Bool) (line : List PatternChar) :
    List String → List (String × String)
  | [] => []
  | [name] =>
    let rest := ((line.dropWhile blank).reverse.dropWhile blank).reverse
    [(name, String.ofList (rest.map PatternChar.char))]
  | name :: names =>
    let line := line.dropWhile blank
    let field := line.takeWhile (!separates ·)
    let behind := (line.drop field.length).dropWhile blank
    let rest := match behind with
      | c :: rest => if separates c then rest else behind
      | [] => []
    (name, String.ofList (field.map PatternChar.char)) :: splitLine separates blank rest names

def read (arguments : List String) : Effect Unit := do
  let raw := arguments.contains "-r"
  let names := arguments.filter (·.toList.head? != some '-')
  if names.isEmpty && (← get).escapes || !names.all fun name => isName name.toList then
    return ← setStatus 2
  let (line, ended) ← readLine raw 1000
  let separators := (← get).separators
  let separates := fun c : PatternChar => !c.quoted && separators.contains c.char
  let pairs := splitLine separates (fun c => separates c && isSeparatorBlank c.char) line
    (if names.isEmpty then ["REPLY"] else names)
  for (name, value) in pairs do assign name value
  setStatus (if ended then 0 else 1)

def signals : List (String × Nat) := [
  ("HUP", 1), ("INT", 2), ("QUIT", 3), ("ILL", 4), ("TRAP", 5), ("ABRT", 6), ("BUS", 7),
  ("FPE", 8), ("KILL", 9), ("USR1", 10), ("SEGV", 11), ("USR2", 12), ("PIPE", 13), ("ALRM", 14),
  ("TERM", 15), ("CHLD", 17), ("CONT", 18), ("STOP", 19), ("TSTP", 20), ("TTIN", 21),
  ("TTOU", 22), ("URG", 23), ("XCPU", 24), ("XFSZ", 25), ("VTALRM", 26), ("PROF", 27),
  ("WINCH", 28), ("IO", 29), ("PWR", 30), ("SYS", 31)]

/-- The number of a signal that is given by its name or by its number. -/
def signal? (text : String) : Option Nat :=
  match natural? text.toList with
  | some n => if n ≤ 64 then some n else none
  | none =>
    let name := (strip? ['S', 'I', 'G'] text.toList).map String.ofList
    signals.lookup (name.getD text)

/-- The name of a signal, or `EXIT` for the end of the shell. -/
def signalName (number : Nat) : String :=
  if number = 0 then "EXIT"
  else (signals.find? (·.2 == number)).elim (toString number) (·.1)

/-- What happens to a shell when a signal comes. A signal that has a trap waits until that can
run. -/
def receive (number : Nat) : Effect Unit := do
  let state ← get
  let trap? := if number = 9 || number = 19 then none else state.traps.lookup (signalName number)
  match trap? with
  | some "" => setStatus 0
  | some _ => do
    modify fun state => { state with pending := state.pending ++ [signalName number] }
    setStatus 0
  | none =>
    if number = 0 || number = 17 || number = 18 || number = 23 || number = 28 then setStatus 0
    else if 19 ≤ number && number ≤ 22 then throw (.endless [])
    else do
      setStatus (128 + number)
      throw .killed

/-- A job that a signal has ended at a time, if it had not ended before. -/
def Job.stopped (job : Job) (number time : Nat) : Job :=
  let alive := match job.finished.ending with
    | .closes ended => time < ended
    | .repeats _ => true
  if alive && number ≠ 0 then
    { job with
      finished :=
        { job.finished with
          output := job.finished.output.filter (·.time ≤ time)
          status := 128 + number
          ending := .closes time
          closed := some time } }
  else job

def sendTo (number : Nat) (target : String) : Effect Bool := do
  let state ← get
  if target = toString State.processNumber then
    receive number
    return true
  let isMeant (job : Job) : Bool :=
    toString job.number == target || target == "%1" || target == "%%" || target == "%+"
  if state.jobs.any isMeant then
    set { state with
      jobs := state.jobs.map fun job =>
        if isMeant job then Job.stopped job number state.clock else job }
    return true
  return false

def kill (arguments : List String) : Effect Unit := do
  let send (signal? : Option Nat) (targets : List String) : Effect Unit := do
    match signal? with
    | none => setStatus 2
    | some number =>
      if targets.isEmpty then setStatus 2
      else
        setStatus 0
        let outcomes ← targets.mapM (sendTo number)
        if !outcomes.all id then
          setStatus (if targets.all fun text => (decimal? text).isSome then 1 else 2)
  match arguments with
  | "-l" :: text :: _ =>
    answerLine (signalName (((natural? text.toList).getD 0) % 128))
  | "-s" :: name :: targets => send (signal? name) targets
  | "--" :: targets => send (some 15) targets
  | argument :: targets =>
    match argument.toList with
    | '-' :: name =>
      let targets := if targets.head? = some "--" then targets.tail else targets
      send (signal? (String.ofList name)) targets
    | _ => send (some 15) (argument :: targets)
  | [] => setStatus 2

def wait (arguments : List String) : Effect Unit := do
  let state ← get
  let waitFor (job : Job) : Effect Unit := do
    match job.finished.ending with
    | .closes time => waitUntil time
    | .repeats _ => throw (.endless [])
    modify (·.collect job.number)
  if arguments.isEmpty then
    state.jobs.reverse.forM waitFor
    setStatus 0
  else
    for target in arguments do
      match state.jobs.find? fun job => toString job.number == target || target == "%1" with
      | some job => do
        waitFor job
        setStatus job.finished.status
      | none => setStatus 127

def trap (arguments : List String) : Effect Unit := do
  let arguments := if arguments.head? = some "--" then arguments.tail else arguments
  let isCondition (text : String) : Bool := text == "EXIT" || (signal? text).isSome
  let condition (text : String) : String :=
    if text = "EXIT" then text else ((signal? text).map signalName).getD text
  let clear (texts : List String) : Effect Unit :=
    modify fun state =>
      { state with traps := state.traps.filter fun pair => !(texts.map condition).contains pair.1 }
  match arguments with
  | [] => setStatus 0
  | command :: rest =>
    let resets := rest.isEmpty || (natural? command.toList).isSome
    let conditions := if resets then arguments else rest
    if !conditions.all isCondition then setStatus 1
    else
      clear conditions
      if !resets && command ≠ "-" then
        let entries := conditions.map fun text => (condition text, command)
        modify fun state => { state with traps := entries ++ state.traps }
      setStatus 0

def echo (arguments : List String) : Effect Unit := do
  if (← get).escapes then
    match arguments with
    | "-n" :: arguments => answer (Shell.echo true false arguments) 0
    | arguments => answer (Shell.echo true true arguments) 0
  else Utility.echo arguments

def table : List (String × Utility) := [
  (":", fun _ => setStatus 0),
  ("true", fun _ => setStatus 0),
  ("false", fun _ => setStatus 1),
  ("export", mark fun entry => { entry with exported := true }),
  ("readonly", mark fun entry => { entry with fixed := true }),
  ("local", makeLocal),
  ("unset", unset),
  ("exit", exit),
  ("return", leaveFunction),
  ("break", leaveLoops),
  ("continue", nextTurn),
  ("shift", shift),
  ("set", setOptions),
  ("getopts", readOption),
  ("cd", changeDirectory),
  ("pwd", printDirectory),
  ("read", read),
  ("kill", kill),
  ("wait", wait),
  ("trap", trap),
  ("umask", fun arguments => if arguments.isEmpty then answerLine "0022" else setStatus 0),
  ("hash", fun _ => setStatus 0),
  ("times", fun _ => setStatus 0),
  ("ulimit", fun _ => setStatus 0),
  ("alias", fun _ => setStatus 0),
  ("echo", echo),
  ("printf", Utility.printf),
  ("test", Utility.test),
  ("[", Utility.bracket)]

/-- The commands that end the shell when something is wrong with their use. -/
def special : List String :=
  [":", "break", "continue", ".", "eval", "exec", "exit", "export", "readonly", "return", "set",
    "shift", "times", "trap", "unset"]

end TitleBar.Shell.Builtin
