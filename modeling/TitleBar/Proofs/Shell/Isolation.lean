import TitleBar.Proofs.Shell.Effect
import TitleBar.Shell.Run

/-! # What shells within a shell can change

A shell within a shell, the sides of a pipe, a program in the background and a program that is a
file all start from a copy of what the shell knows. All that comes back from them are the files, the
input that is left, what was written and how they ended. Programs that consist of nothing else
therefore leave the variables, the functions, the directory and the channels of the shell as they
were, and so do all loops and choices over such programs.
-/

namespace TitleBar.Shell

/-- What a state tells of the shell itself, and not of its surroundings or of what came of its
commands. -/
def State.self (state : State) : State :=
  { state with
    files := ⟨[]⟩
    input := Stream.empty
    written := []
    jobs := []
    status := 0
    captured := 0
    clock := 0
    closed := none }

/-- Whether an escape ends the shell, and is nothing that a loop or a function waits for. -/
def Escape.endsShell : Escape → Bool
  | .endless _ | .leaves => true
  | .killed | .breaks _ | .continues _ | .returns => false

namespace Effect

variable {α β : Type}

/-- Whether an effect leaves the shell itself as it is, wherever it starts, and goes on or ends the
shell. -/
structure Confined (effect : Effect α) : Prop where
  self (state : State) : (effect.run.run state).2.self = state.self
  ends (state : State) :
    ∀ escape, (effect.run.run state).1 = .error escape → escape.endsShell = true

theorem confined_pure (a : α) : Confined (pure a : Effect α) := ⟨fun _ => rfl, nofun⟩

theorem confined_get : Confined (get : Effect State) := ⟨fun _ => rfl, nofun⟩

theorem confined_throw {escape : Escape} (ends : escape.endsShell = true) :
    Confined (throw escape : Effect α) := by
  refine ⟨fun _ => rfl, fun _ _ left => ?_⟩
  obtain rfl := Except.error.inj left
  exact ends

theorem Confined.bind {effect : Effect α} {next : α → Effect β} (first : Confined effect)
    (rest : ∀ a, Confined (next a)) : Confined (effect >>= next) := by
  refine ⟨fun state => ?_, fun state escape left => ?_⟩
  · have self := first.self state
    rw [run_bind]
    generalize effect.run.run state = result at self ⊢
    rcases result with ⟨escape | a, after⟩
    · exact self
    · exact ((rest a).self after).trans self
  · have ends := first.ends state
    rw [run_bind] at left
    generalize effect.run.run state = result at ends left
    rcases result with ⟨early | a, after⟩
    · obtain rfl := Except.error.inj left
      exact ends early rfl
    · exact (rest a).ends after escape left

theorem confined_modify {change : State → State}
    (kept : ∀ state, (change state).self = state.self) :
    Confined (modify change : Effect PUnit) := ⟨fun state => kept state, nofun⟩

theorem confined_apart (prepare : State → State) (effect : Effect Unit) :
    Confined (apart prepare effect) := by
  refine confined_get.bind fun state => ?_
  split <;> exact confined_pure _

theorem confined_setStatus (status : Nat) : Confined (setStatus status) :=
  confined_modify fun _ => rfl

theorem confined_waitUntil (time : Nat) : Confined (waitUntil time) := confined_modify fun _ => rfl

theorem confined_absorb (finished : Finished) : Confined (absorb finished) := by
  rw [absorb]
  refine Confined.bind (confined_modify fun _ => rfl) fun _ => ?_
  cases finished.ending with
  | closes time => exact confined_waitUntil time
  | repeats bytes => exact confined_throw rfl

theorem confined_check : Confined check := by
  refine confined_get.bind fun state => ?_
  split
  · exact confined_throw rfl
  · exact confined_pure ()

/-- What follows an attempt only has to be confined behind the escapes with which the attempt can
end. -/
theorem Confined.attempt_bind {effect : Effect Unit} {next : Except Escape Unit → Effect β}
    (first : Confined effect)
    (rest : ∀ result, (∀ escape, result = .error escape → escape.endsShell = true) →
      Confined (next result)) :
    Confined (attempt effect >>= next) := by
  have after (state : State) := rest (effect.run.run state).1 (first.ends state)
  refine ⟨fun state => ?_, fun state escape left => ?_⟩
  · rw [run_attempt_bind]
    exact ((after state).self _).trans (first.self state)
  · rw [run_attempt_bind] at left
    exact (after state).ends _ escape left

/-- An effect may run in another state than the one that it is given back to, as long as what was
changed for it is changed back. -/
theorem Confined.restored {effect : Effect Unit} (confined : Confined effect)
    (setup : State → State) (restore : State → State → State)
    (back : ∀ before after : State, after.self = (setup before).self →
      (restore before after).self = before.self) :
    Confined (do
      let before ← get
      modify setup
      andThen effect (restore before)) := by
  refine ⟨fun state => ?_, fun state escape left => ?_⟩
  · change ((andThen effect (restore state)).run.run (setup state)).2.self = _
    rw [run_andThen]
    exact back state _ (confined.self (setup state))
  · change ((andThen effect (restore state)).run.run (setup state)).1 = _ at left
    rw [run_andThen] at left
    exact confined.ends _ escape left

theorem Confined.testing {effect : Effect Unit} (confined : Confined effect) :
    Confined (testing effect) := by
  refine confined.restored (fun state => { state with tested := true })
    (fun before after => { after with tested := before.tested }) fun before after same => ?_
  exact congrArg (fun state : State => { state with tested := before.tested }) same

/-- What is done by how a test ended is confined if the test and all choices are. -/
theorem Confined.testing_bind_get {test : Effect Unit} {next : State → Effect α}
    (confined : Confined test) (rest : ∀ state, Confined (next state)) :
    Confined (Effect.testing test >>= fun _ => get >>= next) :=
  confined.testing.bind fun _ => confined_get.bind rest

end Effect

open Effect

/-- Without a step left a program ends the shell at once. -/
theorem confined_run_of_succ {program : Program}
    (each : ∀ fuel, Confined (run (fuel + 1) program)) (fuel : Nat) :
    Confined (run fuel program) := by
  cases fuel with
  | zero => exact confined_throw rfl
  | succ fuel => exact each fuel

theorem confined_runApart (fuel : Nat) (prepare : State → State) (program : Program) :
    Confined (runApart fuel prepare program) := by
  cases fuel with
  | zero => exact confined_throw rfl
  | succ fuel =>
    rw [runApart]
    exact confined_apart _ _

theorem confined_inner (fuel : Nat) (program : Program) : Confined (run fuel (.inner program)) := by
  refine confined_run_of_succ (fun fuel => ?_) fuel
  rw [run]
  refine (confined_runApart fuel id program).bind fun finished => ?_
  exact (confined_absorb finished).bind fun _ => confined_check

theorem confined_pipe (fuel : Nat) (first second : Program) :
    Confined (run fuel (.pipe first second)) := by
  refine confined_run_of_succ (fun fuel => ?_) fuel
  rw [run]
  refine (confined_runApart fuel _ first).bind fun left => ?_
  refine (confined_runApart fuel _ second).bind fun right => ?_
  refine (confined_absorb _).bind fun _ => ?_
  dsimp only
  cases left.ending with
  | closes time => exact (confined_waitUntil time).bind fun _ => confined_check
  | repeats bytes =>
    dsimp only
    split
    · exact (confined_throw rfl).bind fun _ => confined_check
    · exact confined_check

theorem confined_start (fuel : Nat) (called : String) (program : SystemProgram)
    (arguments : List String) : Confined (start fuel called program arguments) := by
  cases fuel with
  | zero => exact confined_throw rfl
  | succ fuel =>
    rw [start.eq_def]
    cases program with
    | utility run => exact confined_apart _ _
    | shell escapes => exact confined_apart _ _
    | launcher kind =>
      cases kind with
      | environment | plain | batch => exact confined_apart _ _
      | limit =>
        refine confined_get.bind fun state => ?_
        dsimp only
        split
        · refine (confined_apart id _).bind fun finished => ?_
          split
          · exact confined_pure _
          · exact confined_pure _
          · exact confined_apart _ _
        · exact confined_apart _ _

theorem confined_runFile (fuel : Nat) (name : String) (arguments : List String) :
    Confined (runFile fuel name arguments) := by
  cases fuel with
  | zero => exact confined_throw rfl
  | succ fuel =>
    rw [runFile]
    refine confined_get.bind fun state => ?_
    split
    · exact (confined_start fuel _ _ _).bind confined_absorb
    · exact (confined_start fuel _ _ _).bind confined_absorb
    · exact confined_setStatus _

theorem confined_captureOutput (fuel : Nat) (script : List Char) :
    Confined (captureOutput fuel script) := by
  cases fuel with
  | zero => exact confined_throw rfl
  | succ fuel =>
    rw [captureOutput]
    refine (confined_runApart fuel _ _).bind fun finished => ?_
    have awaited : Confined (await finished.stream) := by
      rw [await]
      split
      · exact (confined_waitUntil _).bind fun _ => confined_pure _
      · exact confined_throw rfl
    refine awaited.bind fun bytes => ?_
    refine Confined.bind (confined_modify fun _ => rfl) fun _ => ?_
    split
    · exact (confined_waitUntil _).bind fun _ => confined_pure _
    · exact confined_pure _

theorem confined_background (fuel : Nat) (program : Program) :
    Confined (run fuel (.background program)) := by
  refine confined_run_of_succ (fun fuel => ?_) fuel
  rw [run]
  refine (confined_runApart fuel _ program).bind fun finished => ?_
  exact Confined.bind (confined_modify fun _ => rfl) fun _ => confined_setStatus 0

/-- The programs of which every command runs in a shell of its own. -/
inductive Program.Isolated : Program → Prop where
  | nothing : Isolated .nothing
  | inner (program : Program) : Isolated (.inner program)
  | pipe (first second : Program) : Isolated (.pipe first second)
  | background (program : Program) : Isolated (.background program)
  | negation {program : Program} : Isolated program → Isolated (.negation program)
  | both {first second : Program} :
    Isolated first → Isolated second → Isolated (.both first second)
  | either {first second : Program} :
    Isolated first → Isolated second → Isolated (.either first second)
  | sequence {first second : Program} :
    Isolated first → Isolated second → Isolated (.sequence first second)
  | choice {test yes no : Program} :
    Isolated test → Isolated yes → Isolated no → Isolated (.choice test yes no)
  | repetition {wanted : Bool} {test body : Program} :
    Isolated test → Isolated body → Isolated (.repetition wanted test body)
  | redirected {program : Program} : Isolated program → Isolated (.redirected program [])

/-- A loop is confined if its test and its body are; the escapes that loops wait for do not occur. -/
theorem confined_runLoop {wanted : Bool} {test body : Program}
    (tests : ∀ fuel, Confined (run fuel test)) (turns : ∀ fuel, Confined (run fuel body))
    (fuel last : Nat) : Confined (runLoop fuel wanted test body last) := by
  induction fuel generalizing last with
  | zero => exact confined_throw rfl
  | succ fuel ih =>
    rw [runLoop]
    refine (tests fuel).testing_bind_get fun state => ?_
    split
    · exact confined_setStatus last
    · refine (turns fuel).attempt_bind fun result ends => ?_
      rcases result with escape | _
      · cases escape with
        | endless bytes => exact confined_throw rfl
        | leaves => exact confined_throw rfl
        | killed => exact absurd (ends _ rfl) nofun
        | breaks loops => exact absurd (ends _ rfl) nofun
        | continues loops => exact absurd (ends _ rfl) nofun
        | returns => exact absurd (ends _ rfl) nofun
      · exact confined_get.bind fun state => ih state.status

/-- A program of which every command runs in a shell of its own leaves the shell itself as it was,
and either goes on or ends the shell. -/
theorem Program.Isolated.confined {program : Program} (isolated : program.Isolated) (fuel : Nat) :
    Confined (run fuel program) := by
  induction isolated generalizing fuel with
  | inner program => exact confined_inner fuel program
  | pipe first second => exact confined_pipe fuel first second
  | background program => exact confined_background fuel program
  | nothing =>
    refine confined_run_of_succ (fun fuel => ?_) fuel
    exact confined_pure ()
  | negation _ ih =>
    refine confined_run_of_succ (fun fuel => ?_) fuel
    rw [run]
    exact (ih fuel).testing_bind_get fun _ => confined_setStatus _
  | both _ _ ih₁ ih₂ =>
    refine confined_run_of_succ (fun fuel => ?_) fuel
    rw [run]
    refine (ih₁ fuel).testing_bind_get fun state => ?_
    split
    · exact ih₂ fuel
    · exact confined_pure ()
  | either _ _ ih₁ ih₂ =>
    refine confined_run_of_succ (fun fuel => ?_) fuel
    rw [run]
    refine (ih₁ fuel).testing_bind_get fun state => ?_
    split
    · exact ih₂ fuel
    · exact confined_pure ()
  | sequence _ _ ih₁ ih₂ =>
    refine confined_run_of_succ (fun fuel => ?_) fuel
    rw [run]
    exact (ih₁ fuel).bind fun _ => ih₂ fuel
  | choice _ _ _ ihTest ihYes ihNo =>
    refine confined_run_of_succ (fun fuel => ?_) fuel
    rw [run]
    refine (ihTest fuel).testing_bind_get fun state => ?_
    split
    · exact ihYes fuel
    · exact (confined_setStatus 0).bind fun _ => ihNo fuel
  | repetition _ _ ihTest ihBody =>
    refine confined_run_of_succ (fun fuel => ?_) fuel
    rw [run]
    refine (confined_runLoop ihTest ihBody fuel 0).restored
      (fun state => { state with loops := state.loops + 1 })
      (fun before after => { after with loops := before.loops })
      fun before after same => ?_
    exact congrArg (fun state : State => { state with loops := before.loops }) same
  | redirected _ ih =>
    refine confined_run_of_succ (fun fuel => ?_) fuel
    rw [run]
    exact ih fuel

theorem channels_eq {state other : State} (same : state.self = other.self) :
    state.channels = other.channels := by
  have channels := congrArg State.channels same
  exact channels

/-- Redirections end with the program that they were written for: the channels lead where they led
before, whether the redirections work or not and whether the program is left early or not. -/
theorem channels_redirecting {capture : Capture} {redirects : List Redirect}
    {failed effect : Effect Unit} (kept : Confined failed) {state opened : State} {works : Bool}
    (ends : (redirectAll capture redirects).run.run state = (.ok works, opened)) :
    ((redirecting capture redirects failed effect).run.run state).2.channels = state.channels := by
  rw [redirecting, run_bind]
  change (((redirectAll capture redirects >>= _ : Effect Unit)).run.run state).2.channels = _
  rw [run_bind, ends]
  cases works with
  | true =>
    dsimp only
    rw [if_pos rfl, run_andThen]
  | false =>
    dsimp only
    rw [if_neg Bool.false_ne_true, run_bind, run_modify]
    dsimp only
    exact (channels_eq (kept.self _)).trans rfl

end TitleBar.Shell
