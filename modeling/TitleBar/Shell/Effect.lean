import TitleBar.Shell.State

/-! # Effects

What a shell does changes its state, takes time, and may leave what the shell was about to do. All
that commands do is built from the effects here.
-/

namespace TitleBar.Shell

/-- How a shell leaves what it is about to do. -/
inductive Escape where
  /-- It never gets on, and writes the same bytes for ever. -/
  | endless (bytes : List UInt8)
  /-- It ends. -/
  | leaves
  /-- A signal ends it. -/
  | killed
  /-- Some loops end. -/
  | breaks (loops : Nat)
  /-- The loop around some others goes on with its next turn. -/
  | continues (loops : Nat)
  /-- The function ends. -/
  | returns
deriving DecidableEq, Repr

/-- An effect of the shell; the state is kept when it is left. -/
abbrev Effect := ExceptT Escape (StateM State)

namespace Effect

def setStatus (status : Nat) : Effect Unit := modify fun state => { state with status }

def leave {α : Type} (status : Nat) : Effect α := do
  setStatus status
  throw .leaves

/-- Writes to a channel; gives whether that worked. -/
def write (channel : Nat) (bytes : List UInt8) : Effect Bool := do
  let state ← get
  match state.channels.lookup channel with
  | none => return bytes.isEmpty
  | some .dropped => return true
  | some .full => return bytes.isEmpty
  | some .kept =>
    if !bytes.isEmpty then set { state with written := ⟨state.clock, bytes⟩ :: state.written }
    return true
  | some (.file location) =>
    match state.files.node? location with
    | some (.file content executable) =>
      set { state with files := state.files.set location (.file (content ++ bytes) executable) }
    | _ => pure ()
    return true

/-- Prints bytes, and ends with a status; that is 1 if they cannot be written. -/
def answer (bytes : List UInt8) (status : Nat) : Effect Unit := do
  let written ← write 1 bytes
  setStatus (if written then status else 1)

def answerLine (line : String) : Effect Unit :=
  answer (Text.encode line.toList ++ [10]) 0

def waitUntil (time : Nat) : Effect Unit :=
  modify fun state => { state with clock := max state.clock time }

/-- Takes from the input what a function takes from a stream, and waits for it. -/
def takeInput (take : Stream → List UInt8 × Option Nat × Stream) : Effect (List UInt8) := do
  let (bytes, time?, input) := take (← get).input
  modify fun state => { state with input }
  match time? with
  | some time => waitUntil time
  | none => throw (.endless [])
  return bytes

def takeAll : Effect (List UInt8) :=
  takeInput fun stream =>
    match stream.all? with
    | some (bytes, time) => (bytes, some time, ⟨[], .closes time⟩)
    | none => ([], none, stream)

/-- Assigns to a variable; the shell ends if it cannot be changed. -/
def assign (name value : String) : Effect Unit := do
  if ((← get).bindings.lookup name).any Variable.fixed then leave 2
  modify (·.assign name value)

/-- Goes on after a program that ran in the meantime. -/
def absorb (finished : Finished) : Effect Unit := do
  modify fun state =>
    { state with
      written := finished.output.reverse ++ state.written
      files := finished.files
      input := finished.input
      status := finished.status
      closed := latest state.closed finished.closed }
  match finished.ending with
  | .closes time => waitUntil time
  | .repeats bytes => throw (.endless bytes)

/-- What comes of an effect in a shell of its own, which is set up by a function. -/
def apart (prepare : State → State) (effect : Effect Unit) : Effect Finished := do
  let state ← get
  match effect.run.run (prepare state.inside) with
  | (.error (.endless bytes), inner) => return inner.finished (.repeats bytes)
  | (_, inner) => return inner.finished (.closes inner.clock)

/-- What comes of an effect, whether it is left or not. -/
def attempt (effect : Effect Unit) : Effect (Except Escape Unit) := ExceptT.lift effect.run

/-- Goes on as an effect did. -/
def resume (result : Except Escape Unit) : Effect Unit :=
  match result with
  | .ok () => pure ()
  | .error escape => throw escape

/-- Carries out an effect, and then changes the state, even if the effect is left. -/
def andThen (effect : Effect Unit) (change : State → State) : Effect Unit := do
  let result ← attempt effect
  modify change
  resume result

/-- Carries out an effect whose failure does not end the shell. -/
def testing (effect : Effect Unit) : Effect Unit := do
  let before := (← get).tested
  modify fun state => { state with tested := true }
  andThen effect fun state => { state with tested := before }

/-- Ends the shell if the last command has failed and that is what failures do. -/
def check : Effect Unit := do
  let state ← get
  if state.strict && !state.tested && state.status ≠ 0 then throw .leaves

end Effect

end TitleBar.Shell
