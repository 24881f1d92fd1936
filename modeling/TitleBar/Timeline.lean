import TitleBar.Host.Tools
import TitleBar.Watch.Watcher

/-! # Work in the background

A machine reacts to stimuli. What happens to it may start work in the background, and while its
state asks for it there are timers and watchers, all of which end in further stimuli. A timeline
carries a machine through time together with its host: it runs the work in the order in which it
was started, as far as the clock lets it.

Two clocks are kept apart. The one that commands and timers wait for moves only when it is told to.
The other one measures how long the caller waits for watchers, which wait for files to become
quiet.
-/

namespace TitleBar

/-- What a timer or a watcher of a machine belongs to. One that belongs to something else than
before is a new one. -/
structure Tie where
  source : String
  generation : Nat
deriving DecidableEq, Repr

structure TimerRequest (E : Type) where
  tie : Tie
  tick : E

structure WatchRequest (E : Type) where
  tie : Tie
  scope : WatchScope
  /-- How long files have to be quiet before a report. -/
  quiet : Nat
  report : E

/-- A machine with states `S`, stimuli `E` and notices `N`. -/
structure Machine (S E N : Type) where
  /-- Reacts to a stimulus; the notices are in the order in which subscribers get them. -/
  step : Files → S → E → S × List N
  /-- The work that was started between two states, in order. -/
  launched : S → S → List (Script E)
  timers : S → List (TimerRequest E)
  watchers : S → List (WatchRequest E)

/-- Work that waits for a time. -/
structure Job (E : Type) where
  due : Nat
  script : Script E

/-- A machine, its host, and what waits for a time. -/
structure Timeline (S E N : Type) where
  machine : Machine S E N
  /-- The time that commands and timers know, in milliseconds. -/
  now : Nat
  /-- The time that watchers know, in milliseconds. -/
  waited : Nat
  files : Files
  tools : Tools
  state : S
  /-- The work in the background, in the order in which it was started or put off. -/
  jobs : List (Job E)
  /-- The timers, and when each is due. -/
  timers : List (TimerRequest E × Nat)
  watchers : List (WatchRequest E × Watcher)
  /-- The commands that were run, in order. -/
  calls : List Command
  /-- The notices, in order. -/
  notices : List N

namespace Timeline

variable {S E N : Type}

/-- The time between two ticks of a timer, in milliseconds. -/
def period : Nat := 60000

def start (machine : Machine S E N) (files : Files) (tools : Tools) (state : S) :
    Timeline S E N :=
  { machine, files, tools, state
    now := 0
    waited := 0
    jobs := []
    timers := []
    watchers := []
    calls := []
    notices := [] }

/-- Brings timers and watchers into line with what the state asks for: those that it does not ask
for any more are gone, and those that are new start now. -/
def sync (line : Timeline S E N) : Timeline S E N :=
  let timers := (line.machine.timers line.state).map fun request =>
    match line.timers.find? fun (held, _) => held.tie == request.tie with
    | some (_, due) => (request, due)
    | none => (request, line.now + period)
  let watchers := (line.machine.watchers line.state).map fun request =>
    match line.watchers.find? fun (held, _) => held.tie == request.tie with
    | some (_, watcher) => (request, watcher)
    | none => (request, Watcher.start request.scope line.files request.quiet)
  { line with timers, watchers }

/-- Replaces the state, and starts the work that this asks for. -/
def become (line : Timeline S E N) (state : S) (notices : List N) : Timeline S E N :=
  let launched := (line.machine.launched line.state state).map fun script => ⟨line.now, script⟩
  { line with
    state
    jobs := line.jobs ++ launched
    notices := line.notices ++ notices }.sync

def happen (line : Timeline S E N) (stimulus : E) : Timeline S E N :=
  let (state, notices) := line.machine.step line.files line.state stimulus
  line.become state notices

/-- Goes on with a script until it ends or has to wait. A command is answered when it is started. -/
def proceed (line : Timeline S E N) : Script E → Timeline S E N
  | .done stimulus => line.happen stimulus
  | .look next => proceed line (next line.files)
  | .locate program next => proceed line (next (line.tools.locate line.files program))
  | .run command next =>
    let reply := line.tools.reply line.files command
    let line := { line with calls := line.calls ++ [command] }
    if reply.duration = 0 then proceed line (next reply.output)
    else
      { line with jobs := line.jobs ++ [⟨line.now + reply.duration, next reply.output⟩] }

/-- Lets the timers that are due tick. -/
def tick (line : Timeline S E N) : Timeline S E N :=
  let due := line.timers.filter (·.2 ≤ line.now)
  let line := { line with
    timers := line.timers.map fun (request, time) =>
      (request, if time ≤ line.now then time + period else time) }
  due.foldl (fun line (request, _) => line.happen request.tick) line

/-- Lets the timers that are due tick, and runs all work that does not have to wait. -/
def runDue (line : Timeline S E N) : Timeline S E N :=
  let line := line.tick
  let ready := line.jobs.filter (·.due ≤ line.now)
  let line := { line with jobs := line.jobs.filter (line.now < ·.due) }
  ready.foldl (fun line job => line.proceed job.script) line

/-- Runs all that can run if there is any work; the clocks stand still. Without work nothing is
looked at, not even a timer that is due. -/
def settle (line : Timeline S E N) : Timeline S E N :=
  if line.jobs.isEmpty then line else line.runDue

def earliest? : List Nat → Option Nat
  | [] => none
  | time :: rest => some ((earliest? rest).elim time (min time))

/-- The next time at which work or a timer is due. -/
def nextDue? (line : Timeline S E N) : Option Nat :=
  earliest? (line.jobs.map (·.due) ++ line.timers.map (·.2))

/-- Moves the clock to a time in at most `fuel` moves, unless the state is one to stop at. What is
due before that time happens on the way; what is due just then is left for later. -/
def moveTo (stop : S → Bool) (time : Nat) : Nat → Timeline S E N → Timeline S E N
  | 0, line => { line with now := time }
  | fuel + 1, line =>
    let line := line.runDue
    if stop line.state then line
    else match line.nextDue? with
      | none => { line with now := time }
      | some due =>
        if due < time then moveTo stop time fuel { line with now := max line.now due }
        else { line with now := time }

/-- Moves the clock by some milliseconds, unless the state becomes one to stop at. -/
def advanceUntil (stop : S → Bool) (duration : Nat) (line : Timeline S E N) : Timeline S E N :=
  if duration = 0 then line
  else moveTo stop (line.now + duration) (duration + 1) line

/-- Moves the clock by some seconds. -/
def advance (seconds : Nat) (line : Timeline S E N) : Timeline S E N :=
  line.advanceUntil (fun _ => false) (1000 * seconds)

/-- The time between two looks at the state, in milliseconds. -/
def lookPeriod : Nat := 10

/-- How many looks that find something new are taken before a caller gives up. -/
def maxLooks : Nat := 10000

/-- The first look after the next thing that is due; the looks before it would find nothing new. -/
def nextLook (line : Timeline S E N) : Nat :=
  let due := max line.now (line.nextDue?.getD line.now)
  line.now + lookPeriod * ((due - line.now) / lookPeriod + 1)

/-- Looks at the state again and again, in at most `fuel` looks, until it is one to stop at. What is
due at the time of a look happens after it. -/
def lookUntil (stop : S → Bool) : Nat → Timeline S E N → Timeline S E N
  | 0, line => line
  | fuel + 1, line =>
    if stop line.state then line
    else lookUntil stop fuel
      (moveTo (fun _ => false) line.nextLook (line.nextLook - line.now + 1) line)

/-- Looks at the state from time to time until it is one to stop at, while the clock moves on. -/
def waitFor (stop : S → Bool) (line : Timeline S E N) : Timeline S E N :=
  line.lookUntil stop maxLooks

/-- Tells the watchers that files have changed. -/
def noteChanges (line : Timeline S E N) (changed : List Location) : Timeline S E N :=
  { line with
    watchers := line.watchers.map fun (request, watcher) =>
      (request, watcher.notice line.files line.waited changed) }

def write (line : Timeline S E N) (path : Path) (content : List UInt8) : Timeline S E N :=
  let (files, changed) := line.files.writeNoting path content
  { line with files }.noteChanges changed

def remove (line : Timeline S E N) (path : Path) : Timeline S E N :=
  let (files, changed) := line.files.removeNoting path
  { line with files }.noteChanges changed

/-- Lets the watchers report whose files have been quiet for long enough. -/
def report (line : Timeline S E N) : Timeline S E N :=
  let due := line.watchers.filter fun (_, watcher) => watcher.debouncer.isDue line.waited
  let line := { line with
    watchers := line.watchers.map fun (request, watcher) =>
      if watcher.debouncer.isDue line.waited then
        (request, { watcher with debouncer := watcher.debouncer.report })
      else (request, watcher) }
  due.foldl (fun line (request, _) => line.happen request.report) line

/-- Waits for watchers until a time, in at most `fuel` turns, or until there are more than `known`
notices. -/
def waitTo (known time : Nat) : Nat → Timeline S E N → Timeline S E N
  | 0, line => line
  | fuel + 1, line =>
    let line := line.settle
    if known < line.notices.length then line
    else match earliest? (line.watchers.filterMap fun (_, watcher) => watcher.debouncer.ends?) with
      | none => { line with waited := time }
      | some ends =>
        if ends ≤ time then waitTo known time fuel ({ line with waited := max line.waited ends }.report)
        else { line with waited := time }

/-- Waits for the first notice, at most some milliseconds. -/
def await (duration : Nat) (line : Timeline S E N) : Timeline S E N :=
  waitTo line.notices.length (line.waited + duration) (line.watchers.length + 2) line

end Timeline

end TitleBar
