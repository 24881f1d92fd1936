import TitleBar.Shell.Expansion
import TitleBar.Shell.Manage

/-! # Redirections

What redirections do to the channels of a shell, and how long that holds.
-/

namespace TitleBar.Shell

open Effect

/-- Sets where a channel leads. -/
def State.connect (state : State) (channel : Nat) (sink : Sink) : State :=
  { state with channels := (channel, sink) :: state.channels.filter (·.1 != channel) }

def State.disconnect (state : State) (channel : Nat) : State :=
  { state with
    channels := state.channels.filter (·.1 != channel)
    input := if channel = 0 then Stream.empty else state.input }

/-- Opens a file to be written; none if that is not possible. -/
def State.opened? (state : State) (path : Path) (anew : Bool) : Option (State × Location) := do
  if state.files.isDirectory path || !state.files.isDirectory (Utility.directoryOf path) then none
  let files := if anew || !state.files.isFile path then state.files.write path [] else state.files
  match files.locate path with
  | .ok location => return ({ state with files }, location)
  | .error _ => none

/-- Carries out a redirection; gives whether that worked. -/
def redirect (capture : Capture) (asked : Redirect) : Effect Bool := do
  let target ← asked.target.value capture
  let state ← get
  let channel := asked.channel
  match asked.kind with
  | .quotes => do
    set { state with input := Stream.ofBytes (Text.encode target.toList) }
    return true
  | .reads =>
    match ← source? target with
    | none => return state.files.isDirectory (state.path target)
    | some stream => do
      if channel = 0 then modify fun state => { state with input := stream }
      return true
  | .joins =>
    match natural? target.toList with
    | none => do
      if target = "-" then set (state.disconnect channel)
      return target == "-"
    | some other =>
      match state.channels.lookup other with
      | some sink => do
        set (state.connect channel sink)
        return true
      | none => return other == 0 || channel == 0
  | .writes | .appends =>
    match target with
    | "/dev/null" | "/dev/zero" => set (state.connect channel .dropped)
    | "/dev/full" => set (state.connect channel .full)
    | "/dev/stdout" => set (state.connect channel ((state.channels.lookup 1).getD .dropped))
    | "/dev/stderr" => set (state.connect channel ((state.channels.lookup 2).getD .dropped))
    | _ =>
      match state.opened? (state.path target) (asked.kind == .writes) with
      | some (state, location) => set (state.connect channel (.file location))
      | none => return false
    return true

/-- Carries out redirections up to one that does not work; gives whether all of them did. -/
def redirectAll (capture : Capture) : List Redirect → Effect Bool
  | [] => return true
  | first :: more => do
    if ← redirect capture first then redirectAll capture more else return false

/-- Carries out an effect under redirections. Input that was used up stays so. -/
def redirecting (capture : Capture) (redirects : List Redirect) (failed effect : Effect Unit) :
    Effect Unit := do
  let before ← get
  let restored (state : State) : State :=
    { state with
      channels := before.channels
      input := if redirects.any (·.channel == 0) then before.input else state.input }
  if ← redirectAll capture redirects then andThen effect restored
  else
    modify restored
    failed

end TitleBar.Shell
