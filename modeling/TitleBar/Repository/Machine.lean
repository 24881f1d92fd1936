import TitleBar.Repository.Tracker
import TitleBar.Timeline

/-! # Trackers through time

A tracker as a machine: what its tasks do, and the timer and the watcher that it asks for.
-/

namespace TitleBar.Tracker

variable {σ : Type}

/-- How long the files of a repository have to be quiet, in milliseconds. -/
def quietPeriod : Nat := 250

/-- The work that was started between two states. -/
def launched (backend : Backend σ) (before after : Tracker σ) : List (Script (Stimulus σ)) :=
  (after.tasks.filter fun task => before.started ≤ task.id).map fun task =>
    (script backend task).map (.ended task.id)

/-- What the timer and the watcher of a tracker belong to. -/
def tie (backend : Backend σ) (tracker : Tracker σ) : Tie := ⟨backend.name, tracker.generation⟩

def timers (backend : Backend σ) (tracker : Tracker σ) : List (TimerRequest (Stimulus σ)) :=
  if tracker.poller then [⟨tracker.tie backend, .nudge tracker.generation⟩] else []

def watchers (backend : Backend σ) (quiet : Nat) (tracker : Tracker σ) :
    List (WatchRequest (Stimulus σ)) :=
  tracker.watcher.toList.map fun directory =>
    ⟨tracker.tie backend, ⟨directory, true, backend.filter⟩, quiet, .nudge tracker.generation⟩

/-- A tracker as a machine; its notices carry the name of its kind. -/
def machine [DecidableEq σ] (backend : Backend σ) (quiet : Nat) :
    Machine (Tracker σ) (Stimulus σ) String :=
  { step := fun _ tracker stimulus =>
      let (tracker, changed) := tracker.step backend stimulus
      (tracker, if changed then [backend.name] else [])
    launched := launched backend
    timers := timers backend
    watchers := watchers backend quiet }

end TitleBar.Tracker
