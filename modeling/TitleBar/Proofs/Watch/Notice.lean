import TitleBar.Watch.Watcher
import Mathlib.Tactic.Common

/-! # Watchers do not miss changes

A watcher that is told of a change which its filter lets through has a report to make, and keeps it
to make whatever else happens to the files.
-/

namespace TitleBar.Watcher

/-- Whether a watcher learns of a change at one of the locations that its filter lets through. -/
def Learns (watcher : Watcher) (changed : List Location) : Prop :=
  ∃ location ∈ changed, ∃ path ∈ watcher.seen location, watcher.scope.filter.accepts path

/-- Whether a watcher has a report to make. -/
def Pending (watcher : Watcher) : Prop := watcher.debouncer.ends?.isSome

/-- Whether a watcher has not yet to make a report. -/
structure Patient (time : ℕ) (watcher : Watcher) : Prop where
  quiet : 0 < watcher.debouncer.quiet
  later : ∀ ends, watcher.debouncer.ends? = some ends → time < ends

/-- What is left of a watcher that has taken some events. -/
structure Keeps (time : ℕ) (before after : Watcher) : Prop where
  scope : after.scope = before.scope
  watches : ∀ watch ∈ before.watches, watch ∈ after.watches
  patient : after.Patient time
  pending : before.Pending → after.Pending

variable {time : ℕ} {watcher : Watcher}

theorem Patient.not_isDue (patient : watcher.Patient time) :
    watcher.debouncer.isDue time = false := by
  rcases ends : watcher.debouncer.ends? with _ | late
  · rw [Debouncer.isDue, ends, Option.any_none]
  · have := patient.later late ends
    simp only [Debouncer.isDue, ends, Option.any_some, decide_eq_false_iff_not]
    omega

/-- A report that is due has to be made. -/
theorem pending_of_isDue (due : watcher.debouncer.isDue time) : watcher.Pending := by
  rcases ends : watcher.debouncer.ends? with _ | late
  · rw [Debouncer.isDue, ends] at due
    contradiction
  · rw [Pending, ends]
    rfl

/-- Time may pass up to a report. -/
theorem Patient.of_early (patient : watcher.Patient time) {later : ℕ}
    (early : watcher.debouncer.isDue later = false) : watcher.Patient later := by
  refine ⟨patient.quiet, fun ends some => ?_⟩
  rw [Debouncer.isDue, some] at early
  simpa using early

/-- A watcher that has made its report has nothing more to report. -/
theorem Patient.report (patient : watcher.Patient time) (later : ℕ) :
    ({ watcher with debouncer := watcher.debouncer.report } : Watcher).Patient later := by
  refine ⟨patient.quiet, fun ends some => ?_⟩
  contradiction

theorem Patient.refl (patient : watcher.Patient time) : Keeps time watcher watcher where
  scope := rfl
  watches _ member := member
  patient := patient
  pending := id

theorem Keeps.trans {first second third : Watcher} (one : Keeps time first second)
    (other : Keeps time second third) : Keeps time first third where
  scope := other.scope.trans one.scope
  watches watch member := other.watches watch (one.watches watch member)
  patient := other.patient
  pending pending := other.pending (one.pending pending)

/-- The debouncer of a watcher that has taken an event. -/
theorem Patient.debouncer_take (patient : watcher.Patient time) (event : FileEvent) :
    (watcher.take time event).debouncer =
      if watcher.debouncer.ends?.isSome || watcher.scope.filter.reports event then
        { watcher.debouncer with ends? := some (time + watcher.debouncer.quiet) }
      else watcher.debouncer := by
  simp [take, Debouncer.arrive, patient.not_isDue]

theorem Patient.take (patient : watcher.Patient time) (event : FileEvent) :
    Keeps time watcher (watcher.take time event) where
  scope := rfl
  watches _ member := member
  patient := by
    constructor
    · rw [patient.debouncer_take]
      split
      · exact patient.quiet
      · exact patient.quiet
    · intro ends
      rw [patient.debouncer_take]
      split
      · intro same
        rw [← Option.some.inj same]
        exact Nat.lt_add_of_pos_right patient.quiet
      · exact patient.later ends
  pending pending := by
    rw [Pending, patient.debouncer_take, show watcher.debouncer.ends?.isSome = true from pending]
    rfl

/-- An event that counts is reported. -/
theorem Patient.pending_take (patient : watcher.Patient time) {event : FileEvent}
    (counts : watcher.scope.filter.reports event) : (watcher.take time event).Pending := by
  rw [Pending, patient.debouncer_take, counts, Bool.or_true]
  rfl

/-- A watcher that has taken a change at each of some paths. -/
def takeAll (time : ℕ) (watcher : Watcher) (paths : List Path) : Watcher :=
  paths.foldl (fun watcher path => watcher.take time ⟨false, [path]⟩) watcher

theorem Patient.takeAll (patient : watcher.Patient time) (paths : List Path) :
    Keeps time watcher (watcher.takeAll time paths) := by
  induction paths generalizing watcher with
  | nil => exact patient.refl
  | cons path paths ih =>
    have taken := patient.take ⟨false, [path]⟩
    exact taken.trans (ih taken.patient)

theorem Patient.pending_takeAll (patient : watcher.Patient time) {paths : List Path} {path : Path}
    (member : path ∈ paths) (accepted : watcher.scope.filter.accepts path) :
    (watcher.takeAll time paths).Pending := by
  induction paths generalizing watcher with
  | nil => contradiction
  | cons first paths ih =>
    have taken := patient.take ⟨false, [first]⟩
    rcases List.mem_cons.1 member with rfl | later
    · have counts : watcher.scope.filter.reports ⟨false, [path]⟩ := by
        simp [WatchFilter.reports, accepted]
      exact (taken.patient.takeAll paths).pending (patient.pending_take counts)
    · exact ih taken.patient later accepted

theorem Patient.adopt (patient : watcher.Patient time) (files : Files) (changed : Location)
    (paths : List Path) : Keeps time watcher (watcher.adopt files changed paths) := by
  rw [Watcher.adopt]
  split
  · exact ⟨rfl, fun _ member => List.mem_append_left _ member, ⟨patient.quiet, patient.later⟩, id⟩
  · exact patient.refl

/-- A watcher that has been told of a change at a location. -/
def told (files : Files) (time : ℕ) (watcher : Watcher) (changed : Location) : Watcher :=
  (watcher.takeAll time (watcher.seen changed)).adopt files changed (watcher.seen changed)

theorem Patient.told (patient : watcher.Patient time) (files : Files) (changed : Location) :
    Keeps time watcher (watcher.told files time changed) := by
  have taken := patient.takeAll (watcher.seen changed)
  exact taken.trans (taken.patient.adopt files changed _)

theorem Patient.foldl_told (patient : watcher.Patient time) (files : Files)
    (changed : List Location) :
    Keeps time watcher (changed.foldl (Watcher.told files time) watcher) := by
  induction changed generalizing watcher with
  | nil => exact patient.refl
  | cons location changed ih =>
    have told := patient.told files location
    exact told.trans (ih told.patient)

theorem notice_eq (files : Files) (time : ℕ) (changed : List Location) :
    watcher.notice files time changed =
      { changed.foldl (told files time) watcher with
          watches := (changed.foldl (told files time) watcher).watches.filter fun watch =>
            (files.node? watch.place).isSome } :=
  rfl

theorem Patient.notice (patient : watcher.Patient time) (files : Files) (changed : List Location) :
    (watcher.notice files time changed).Patient time := by
  have keeps := patient.foldl_told files changed
  rw [notice_eq]
  exact ⟨keeps.patient.quiet, keeps.patient.later⟩

theorem Patient.scope_notice (patient : watcher.Patient time) (files : Files)
    (changed : List Location) : (watcher.notice files time changed).scope = watcher.scope :=
  (patient.foldl_told files changed).scope

/-- A report that has to be made is not forgotten. -/
theorem Patient.pending_notice (patient : watcher.Patient time) (files : Files)
    (changed : List Location) (pending : watcher.Pending) :
    (watcher.notice files time changed).Pending :=
  (patient.foldl_told files changed).pending pending

theorem Keeps.mem_seen {before after : Watcher} (keeps : Keeps time before after)
    {changed : Location} {path : Path} (seen : path ∈ before.seen changed) :
    path ∈ after.seen changed := by
  obtain ⟨watch, member, sees⟩ := List.mem_filterMap.1 seen
  exact List.mem_filterMap.2 ⟨watch, keeps.watches watch member, sees⟩

/-- A change that a watcher learns of is reported. -/
theorem Patient.notice_pending (patient : watcher.Patient time) (files : Files)
    {changed : List Location} (learns : watcher.Learns changed) :
    (watcher.notice files time changed).Pending := by
  suffices pending : (changed.foldl (Watcher.told files time) watcher).Pending from pending
  induction changed generalizing watcher with
  | nil =>
    obtain ⟨_, member, -⟩ := learns
    contradiction
  | cons first changed ih =>
    have keeps := patient.told files first
    obtain ⟨location, member, path, seen, accepted⟩ := learns
    rcases List.mem_cons.1 member with rfl | later
    · have taken := patient.takeAll (watcher.seen location)
      have pending := patient.pending_takeAll seen accepted
      exact (keeps.patient.foldl_told files changed).pending
        ((taken.patient.adopt files location _).pending pending)
    · refine ih keeps.patient ⟨location, later, path, keeps.mem_seen seen, ?_⟩
      rwa [keeps.scope]

/-! ## Watchers of one directory

A watcher that does not watch what is below its directory has no report to make unless it learns of
a change.
-/

/-- An event that does not count starts no burst. -/
theorem Patient.pending_of_take (patient : watcher.Patient time) {event : FileEvent}
    (pending : (watcher.take time event).Pending) :
    watcher.Pending ∨ watcher.scope.filter.reports event := by
  rw [Pending, patient.debouncer_take] at pending
  split at pending
  · rename_i counts
    exact (Bool.or_eq_true _ _).mp counts
  · exact .inl pending

theorem Patient.pending_of_takeAll (patient : watcher.Patient time) {paths : List Path}
    (pending : (watcher.takeAll time paths).Pending) :
    watcher.Pending ∨ ∃ path ∈ paths, watcher.scope.filter.accepts path := by
  induction paths generalizing watcher with
  | nil => exact .inl pending
  | cons first paths ih =>
    rcases ih (patient.take ⟨false, [first]⟩).patient pending with taken | ⟨path, member, accepted⟩
    · rcases patient.pending_of_take taken with before | counts
      · exact .inl before
      · exact .inr ⟨first, List.mem_cons_self, by simpa [WatchFilter.reports] using counts⟩
    · exact .inr ⟨path, List.mem_cons_of_mem _ member, accepted⟩

theorem watches_takeAll (time : ℕ) (watcher : Watcher) (paths : List Path) :
    (watcher.takeAll time paths).watches = watcher.watches := by
  induction paths generalizing watcher with
  | nil => rfl
  | cons path paths ih => exact ih (watcher.take time ⟨false, [path]⟩)

theorem told_of_flat (flat : watcher.scope.recursive = false) (patient : watcher.Patient time)
    (files : Files) (changed : Location) :
    watcher.told files time changed = watcher.takeAll time (watcher.seen changed) := by
  have scope := (patient.takeAll (watcher.seen changed)).scope
  rw [told, adopt, scope, flat, Bool.false_and, if_neg Bool.false_ne_true]

theorem Patient.pending_of_foldl_told (patient : watcher.Patient time)
    (flat : watcher.scope.recursive = false) (files : Files) {changed : List Location}
    (pending : (changed.foldl (Watcher.told files time) watcher).Pending) :
    watcher.Pending ∨ watcher.Learns changed := by
  induction changed generalizing watcher with
  | nil => exact .inl pending
  | cons location changed ih =>
    have taken := patient.takeAll (watcher.seen location)
    rw [List.foldl_cons, told_of_flat flat patient] at pending
    rcases ih taken.patient (taken.scope ▸ flat) pending with
      told | ⟨later, member, path, seen, accepted⟩
    · rcases patient.pending_of_takeAll told with before | ⟨path, seen, accepted⟩
      · exact .inl before
      · exact .inr ⟨location, List.mem_cons_self, path, seen, accepted⟩
    · rw [taken.scope] at accepted
      rw [Watcher.seen, watches_takeAll] at seen
      exact .inr ⟨later, List.mem_cons_of_mem _ member, path, seen, accepted⟩

theorem Patient.notice_pending_iff (patient : watcher.Patient time)
    (flat : watcher.scope.recursive = false) (files : Files) (changed : List Location) :
    (watcher.notice files time changed).Pending ↔ watcher.Pending ∨ watcher.Learns changed := by
  constructor
  · intro pending
    exact patient.pending_of_foldl_told flat files pending
  · rintro (before | learns)
    · exact patient.pending_notice files changed before
    · exact patient.notice_pending files learns

end TitleBar.Watcher
