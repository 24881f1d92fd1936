import TitleBar.Proofs.Repository.Consistency

/-! # What a host does with a timeline

To run the work that is due, to move the clock and to wait for watchers are lists of events, so that
what holds of all lists of events holds of whatever a host does.
-/

namespace TitleBar.Timeline

variable {S E N : Type}

/-- To go on with a script does not look at the other jobs, and adds its own behind them. -/
theorem proceed_jobs (line : Timeline S E N) (script : Script E) :
    ∃ (next : Timeline S E N) (added : List (Job E)), next.now = line.now ∧
      next.waited = line.waited ∧
      ∀ jobs, { line with jobs }.proceed script = { next with jobs := jobs ++ added } := by
  induction script generalizing line with
  | done stimulus =>
    let state := (line.machine.step line.files line.state stimulus).1
    exact ⟨line.happen stimulus, (line.machine.launched line.state state).map (⟨line.now, ·⟩), rfl, rfl,
      fun jobs => rfl⟩
  | look next ih => exact ih line.files line
  | locate program next ih => exact ih (line.tools.locate line.files program) line
  | run command next ih =>
    by_cases instant : (line.tools.reply line.files command).duration = 0
    · obtain ⟨after, added, now, waited, same⟩ := ih (line.tools.reply line.files command).output
        { line with calls := line.calls ++ [command] }
      refine ⟨after, added, now, waited, fun jobs => ?_⟩
      rw [proceed]
      exact (if_pos instant).trans (same jobs)
    · let left : Job E := ⟨line.now + (line.tools.reply line.files command).duration,
        next (line.tools.reply line.files command).output⟩
      refine ⟨{ line with calls := line.calls ++ [command] }, [left], rfl, rfl, fun jobs => ?_⟩
      rw [proceed]
      exact if_neg instant

variable {σ : Type}

/-- What happens on a timeline without an opening or a closing. -/
def Passes (line next : Timeline (Tracker σ) (Stimulus σ) N) : Prop :=
  ∃ events : List Event, (∀ event ∈ events, event.switches = false) ∧ line.undergoAll events = next

theorem Passes.refl (line : Timeline (Tracker σ) (Stimulus σ) N) : line.Passes line :=
  ⟨[], nofun, rfl⟩

theorem Passes.single (line : Timeline (Tracker σ) (Stimulus σ) N) (event : Event)
    (stays : event.switches = false) : line.Passes (line.undergo event) :=
  ⟨[event], List.forall_mem_singleton.2 stays, rfl⟩

theorem Passes.trans {first second third : Timeline (Tracker σ) (Stimulus σ) N}
    (one : first.Passes second) (other : second.Passes third) : first.Passes third := by
  obtain ⟨events, stays, rfl⟩ := one
  obtain ⟨later, laterStays, rfl⟩ := other
  exact ⟨events ++ later, List.forall_mem_append.2 ⟨stays, laterStays⟩, undergoAll_append first _ _⟩

/-- To go on with the jobs that are ready, in their order, after the others have been set aside. The
jobs that have been looked at are those in front, and those that were added are behind. -/
theorem passes_proceed (ready : Job (Stimulus σ) → Bool)
    (line : Timeline (Tracker σ) (Stimulus σ) N) (front jobs added : List (Job (Stimulus σ))) :
    ∃ next, Passes { line with jobs := front ++ jobs ++ added } next ∧ next.now = line.now ∧
      next.waited = line.waited ∧
      (jobs.filter ready).foldl (fun line job => line.proceed job.script)
        { line with jobs := front ++ jobs.filter (!ready ·) ++ added } = next := by
  induction jobs generalizing line front added with
  | nil => exact ⟨_, .refl _, rfl, rfl, rfl⟩
  | cons job jobs ih =>
    rcases now : ready job with _ | _
    · obtain ⟨next, passes, rest⟩ := ih line (front ++ [job]) added
      refine ⟨next, ?_, ?_⟩
      · simpa using passes
      · simpa [now] using rest
    · obtain ⟨after, more, sameNow, sameWaited, proceeds⟩ := proceed_jobs line job.script
      obtain ⟨next, passes, nextNow, nextWaited, folds⟩ := ih after front (added ++ more)
      refine ⟨next, ?_, nextNow.trans sameNow, nextWaited.trans sameWaited, ?_⟩
      · have resumed : undergo { line with jobs := front ++ job :: jobs ++ added }
            (.resumed front.length) = { after with jobs := front ++ jobs ++ (added ++ more) } := by
          have found : (front ++ job :: jobs ++ added)[front.length]? = some job := by simp
          have erased : (front ++ job :: jobs ++ added).eraseIdx front.length =
              front ++ jobs ++ added := by
            rw [List.append_assoc, List.eraseIdx_append_of_length_le (Nat.le_refl _), Nat.sub_self,
              List.cons_append, List.eraseIdx_cons_zero, List.append_assoc]
          rw [undergo, resume]
          simp only [found, erased]
          rw [proceeds, List.append_assoc]
        have one := Passes.single { line with jobs := front ++ job :: jobs ++ added }
          (.resumed front.length) rfl
        rw [resumed] at one
        exact one.trans passes
      · rw [List.filter_cons_of_pos now, List.filter_cons_of_neg (by simp [now]), List.foldl_cons, proceeds,
          List.append_assoc]
        exact folds

theorem clocks_foldl_happen {α : Type} (stimulus : α → E) (line : Timeline S E N) (list : List α) :
    (list.foldl (fun line item => line.happen (stimulus item)) line).now = line.now ∧
      (list.foldl (fun line item => line.happen (stimulus item)) line).waited = line.waited := by
  induction list generalizing line with
  | nil => exact ⟨rfl, rfl⟩
  | cons item list ih => exact ih (line.happen (stimulus item))

theorem waited_report (line : Timeline S E N) : line.report.waited = line.waited :=
  (clocks_foldl_happen (fun held : WatchRequest E × Watcher => held.1.report) _ _).2

theorem runDue_passes (line : Timeline (Tracker σ) (Stimulus σ) N) :
    line.Passes line.runDue ∧ line.runDue.now = line.now ∧ line.runDue.waited = line.waited := by
  have clocks : line.tick.now = line.now ∧ line.tick.waited = line.waited :=
    clocks_foldl_happen (fun timer : TimerRequest (Stimulus σ) × ℕ => timer.1.tick) _ _
  obtain ⟨next, passes, now, waited, folds⟩ :=
    passes_proceed (fun job => decide (job.due ≤ line.tick.now)) line.tick [] line.tick.jobs []
  have others : line.tick.jobs.filter (fun job => !decide (job.due ≤ line.tick.now)) =
      line.tick.jobs.filter (line.tick.now < ·.due) :=
    List.filter_congr fun job _ => by simp only [← Nat.not_le, decide_not]
  rw [List.nil_append, List.append_nil] at passes
  rw [List.nil_append, List.append_nil, others] at folds
  have ran : line.runDue = next := folds
  rw [ran]
  have ticked : line.Passes line.tick := Passes.single line .ticked rfl
  exact ⟨ticked.trans passes, now.trans clocks.1, waited.trans clocks.2⟩

theorem settle_passes (line : Timeline (Tracker σ) (Stimulus σ) N) :
    line.Passes line.settle ∧ line.settle.now = line.now ∧ line.settle.waited = line.waited := by
  rw [settle]
  split
  · exact ⟨.refl line, rfl, rfl⟩
  · exact line.runDue_passes

theorem Passes.now (line : Timeline (Tracker σ) (Stimulus σ) N) {time : ℕ} (later : line.now ≤ time) :
    line.Passes { line with now := time } := by
  have passes := Passes.single line (.elapsed (time - line.now)) rfl
  rwa [undergo, Nat.add_sub_cancel' later] at passes

theorem moveTo_passes (stop : Tracker σ → Bool) {time : ℕ} (fuel : ℕ)
    (line : Timeline (Tracker σ) (Stimulus σ) N) (later : line.now ≤ time) :
    line.Passes (line.moveTo stop time fuel) := by
  induction fuel generalizing line with
  | zero => exact .now line later
  | succ fuel ih =>
    obtain ⟨ran, now, -⟩ := line.runDue_passes
    rw [← now] at later
    refine ran.trans ?_
    rw [moveTo]
    split
    · exact .refl _
    split
    · exact .now _ later
    split
    · rename_i due _ soon
      have moved : max line.runDue.now due ≤ time := by omega
      exact (Passes.now _ (Nat.le_max_left _ _)).trans (ih _ moved)
    · exact .now _ later

/-- To move the clock is a list of events. -/
theorem advanceUntil_passes (stop : Tracker σ → Bool) (duration : ℕ)
    (line : Timeline (Tracker σ) (Stimulus σ) N) : line.Passes (line.advanceUntil stop duration) := by
  rw [advanceUntil]
  split
  · exact .refl line
  · exact moveTo_passes stop _ line (Nat.le_add_right _ _)

/-- To look from time to time is a list of events. -/
theorem lookUntil_passes (stop : Tracker σ → Bool) (fuel : ℕ)
    (line : Timeline (Tracker σ) (Stimulus σ) N) : line.Passes (line.lookUntil stop fuel) := by
  induction fuel generalizing line with
  | zero => exact .refl line
  | succ fuel ih =>
    rw [lookUntil]
    split
    · exact .refl line
    · exact (moveTo_passes _ _ line (Nat.le_add_right _ _)).trans (ih _)

theorem eq_nil_of_earliest? {times : List ℕ} (none : earliest? times = none) : times = [] := by
  cases times with
  | nil => rfl
  | cons => contradiction

theorem earliest?_le {times : List ℕ} {least time : ℕ} (some : earliest? times = some least)
    (member : time ∈ times) : least ≤ time := by
  induction times generalizing least with
  | nil => contradiction
  | cons first rest ih =>
    obtain rfl := Option.some.inj some
    rcases others : earliest? rest with _ | second
    · rw [eq_nil_of_earliest? others, List.mem_singleton] at member
      exact Nat.le_of_eq member.symm
    · rcases List.mem_cons.1 member with rfl | later
      · exact Nat.min_le_left _ _
      · exact Nat.le_trans (Nat.min_le_right _ _) (ih others later)

/-- Time passes for watchers none of which has to make a report. -/
theorem Passes.waited (line : Timeline (Tracker σ) (Stimulus σ) N) {time : ℕ}
    (later : line.waited ≤ time)
    (early : ∀ held ∈ line.watchers, held.2.debouncer.isDue time = false) :
    line.Passes { line with waited := time } := by
  have passes := Passes.single line (.waited (time - line.waited)) rfl
  rw [undergo, Nat.add_sub_cancel' later] at passes
  have same : { line with waited := time }.report = { line with waited := time } :=
    report_of_early early
  rwa [same] at passes

theorem waitTo_passes (known : ℕ) {time : ℕ} (fuel : ℕ) (line : Timeline (Tracker σ) (Stimulus σ) N)
    (later : line.waited ≤ time) : line.Passes (line.waitTo known time fuel) := by
  induction fuel generalizing line with
  | zero => exact .refl line
  | succ fuel ih =>
    obtain ⟨settled, -, waited⟩ := line.settle_passes
    rw [← waited] at later
    refine settled.trans ?_
    rw [waitTo]
    split
    · exact .refl _
    generalize line.settle = line at later
    split
    · rename_i none
      refine .waited line later fun held member => ?_
      have ends : held.2.debouncer.ends? = Option.none :=
        List.filterMap_eq_nil_iff.1 (eq_nil_of_earliest? none) held member
      rw [Debouncer.isDue, ends, Option.any_none]
    · rename_i ends some
      split
      · rename_i soon
        have passes := Passes.single line (.waited (max line.waited ends - line.waited)) rfl
        rw [undergo, Nat.add_sub_cancel' (Nat.le_max_left _ _)] at passes
        refine passes.trans (ih _ ?_)
        rw [waited_report]
        exact Nat.max_le.2 ⟨later, soon⟩
      · rename_i late
        refine .waited line later fun held member => ?_
        rcases pending : held.2.debouncer.ends? with _ | own
        · rw [Debouncer.isDue, pending, Option.any_none]
        · have least := earliest?_le some (List.mem_filterMap.2 ⟨held, member, pending⟩)
          simp only [Debouncer.isDue, pending, Option.any_some, decide_eq_false_iff_not]
          omega

/-- To wait for watchers is a list of events. -/
theorem await_passes (duration : ℕ) (line : Timeline (Tracker σ) (Stimulus σ) N) :
    line.Passes (line.await duration) :=
  waitTo_passes _ _ line (Nat.le_add_right _ _)

end TitleBar.Timeline
