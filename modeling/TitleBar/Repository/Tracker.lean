import TitleBar.Repository.Backend

/-! # Tracking a repository

A tracker follows the repository of the open solution. Opening a solution starts a task that finds
and reads the repository; when it ends the tracker is bound. While it is bound, the host, a watcher
and a timer ask for further readings.

Each opening and each closing starts a new generation, and what is left of an older one has no
effect any more. Within a generation readings are numbered in the order in which they were started,
and one that was started earlier never takes the place of one that was started later.
-/

namespace TitleBar

inductive Work where
  /-- Finds and reads the repository of a directory. -/
  | discovery (start : Path)
  /-- Reads the repository again. -/
  | reading (ticket : Nat) (program : Path) (discovery : Discovery)
deriving DecidableEq, Repr

/-- Work in the background that has not ended. -/
structure Task where
  id : Nat
  /-- The generation in which it was started. -/
  generation : Nat
  work : Work
deriving DecidableEq, Repr

/-- The repository that a tracker is bound to, and its last reading. -/
structure Bound (σ : Type) where
  discovery : Discovery
  snapshot : σ
deriving DecidableEq, Repr

structure Tracker (σ : Type) where
  generation : Nat
  /-- Where the tool is. -/
  program : Option Path
  bound : Option (Bound σ)
  /-- The number of the reading that was started last. -/
  nextTicket : Nat
  /-- The number of the reading that was applied last. -/
  appliedTicket : Nat
  /-- What is watched for the repository that the tracker is bound to. A watcher is started before the
  binding and belongs to it; until then, and if the binding is never made, nothing is recorded. -/
  watcher : Option Path
  /-- Whether a timer asks for readings. -/
  poller : Bool
  /-- The work that has not ended, in the order of its start. -/
  tasks : List Task
  /-- The number of tasks that were ever started. -/
  started : Nat
deriving DecidableEq, Repr

inductive Stimulus (σ : Type) where
  /-- A solution in the given directory was opened. -/
  | opened (directory : Path)
  /-- The solution was closed. -/
  | closed
  /-- The host asks for a reading. -/
  | refresh
  /-- A watcher or a timer of a generation asks for a reading. -/
  | nudge (generation : Nat)
  /-- A task has ended. -/
  | ended (task : Nat) (outcome : Outcome σ)
deriving Repr

namespace Tracker

variable {σ : Type}

/-- A tracker that has seen no solution. -/
def idle : Tracker σ :=
  { generation := 0
    program := none
    bound := none
    nextTicket := 0
    appliedTicket := 0
    watcher := none
    poller := false
    tasks := []
    started := 0 }

/-- Starts a task of the current generation. -/
def start (tracker : Tracker σ) (work : Work) : Tracker σ :=
  { tracker with
    tasks := tracker.tasks ++ [⟨tracker.started, tracker.generation, work⟩]
    started := tracker.started + 1 }

/-- Gives up the repository and what belongs to it. -/
def unbind (tracker : Tracker σ) : Tracker σ :=
  { tracker with
    generation := tracker.generation + 1
    program := none
    bound := none
    watcher := none
    poller := false }

/-- Starts finding the repository of a directory. -/
def bind (tracker : Tracker σ) (directory : Path) : Tracker σ :=
  { tracker with generation := tracker.generation + 1 }.start (.discovery directory)

/-- Starts a reading for a generation, if that is the current one and bound. -/
def refresh (tracker : Tracker σ) (generation : Nat) : Tracker σ :=
  match tracker.program, tracker.bound with
  | some program, some bound =>
    if tracker.generation = generation then
      let ticket := tracker.nextTicket + 1
      { tracker with nextTicket := ticket }.start (.reading ticket program bound.discovery)
    else tracker
  | _, _ => tracker

/-- Takes a task off the list of those that have not ended. -/
def drop (tracker : Tracker σ) (id : Nat) : Tracker σ :=
  { tracker with tasks := tracker.tasks.filter (·.id != id) }

/-- Binds to a repository that was found, if its generation is the current one. -/
def attach (backend : Backend σ) (tracker : Tracker σ) (generation : Nat) (program : Path)
    (discovery : Discovery) (snapshot : σ) (watching : Bool) : Tracker σ × Bool :=
  if tracker.generation = generation then
    ({ tracker with
      program := some program
      bound := some ⟨discovery, snapshot⟩
      watcher := if watching then discovery.watch else none
      poller := backend.polls }, true)
  else (tracker, false)

/-- Applies a reading, if its generation is the current one and no later reading was applied; tells
whether that is a change. -/
def apply [DecidableEq σ] (tracker : Tracker σ) (generation ticket : Nat) (snapshot : σ) :
    Tracker σ × Bool :=
  if tracker.generation ≠ generation ∨ ticket ≤ tracker.appliedTicket then (tracker, false)
  else
    let tracker := { tracker with appliedTicket := ticket }
    match tracker.bound with
    | some bound =>
      if bound.snapshot = snapshot then (tracker, false)
      else ({ tracker with bound := some { bound with snapshot } }, true)
    | none => (tracker, false)

/-- Ends a task with an outcome, which has to fit its work to have an effect; tells whether that is
a change. -/
def finish [DecidableEq σ] (backend : Backend σ) (tracker : Tracker σ) (id : Nat)
    (outcome : Outcome σ) : Tracker σ × Bool :=
  match tracker.tasks.find? (·.id == id) with
  | none => (tracker, false)
  | some task =>
    let tracker := tracker.drop id
    match task.work, outcome with
    | .discovery _, .found program discovery snapshot watching =>
      tracker.attach backend task.generation program discovery snapshot watching
    | .reading ticket _ _, .read snapshot => tracker.apply task.generation ticket snapshot
    | _, _ => (tracker, false)

/-- What a stimulus does to a tracker, and whether subscribers are told of a change. -/
def step [DecidableEq σ] (backend : Backend σ) (tracker : Tracker σ) :
    Stimulus σ → Tracker σ × Bool
  | .opened directory => (tracker.unbind.bind directory, tracker.bound.isSome)
  | .closed => (tracker.unbind, tracker.bound.isSome)
  | .refresh => (tracker.refresh tracker.generation, false)
  | .nudge generation => (tracker.refresh generation, false)
  | .ended task outcome => tracker.finish backend task outcome

def run [DecidableEq σ] (backend : Backend σ) (tracker : Tracker σ) (stimuli : List (Stimulus σ)) :
    Tracker σ :=
  stimuli.foldl (fun tracker stimulus => (tracker.step backend stimulus).1) tracker

def script (backend : Backend σ) (task : Task) : Script (Outcome σ) :=
  match task.work with
  | .discovery start => backend.bindScript start
  | .reading _ program discovery => backend.readScript program discovery

/-- Whether no work is left to end. -/
def settled (tracker : Tracker σ) : Bool := tracker.tasks.isEmpty

def root? (tracker : Tracker σ) : Option Path := tracker.bound.map (·.discovery.root)

/-- The last reading; blank without a repository. -/
def snapshot (backend : Backend σ) (tracker : Tracker σ) : σ :=
  match tracker.bound with
  | some bound => bound.snapshot
  | none => backend.blank

def resolver (backend : Backend σ) (tracker : Tracker σ) : Resolver :=
  { name := backend.name
    tags := backend.tags
    available := tracker.bound.isSome
    settled := tracker.settled
    gate := fun _ _ => true
    value := fun _ tag => match tracker.bound with
      | some bound => backend.value bound.snapshot bound.discovery tag
      | none => ""
    verdict := fun _ tag glob => match tracker.bound with
      | some bound => pure (backend.satisfies bound.snapshot bound.discovery tag glob)
      | none => pure false }

end Tracker

end TitleBar
