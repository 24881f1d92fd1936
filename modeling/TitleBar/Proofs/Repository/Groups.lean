import TitleBar.Proofs.Repository.Commit

/-! # The groups of a reading

A working copy is read by up to six commands, each of which may fail or answer anything. What is read
falls into four groups: the branch, the commit, and a tracked branch each for fetching and for pushing.
Every group is read by commands of its own, so what goes wrong in one of them is not seen in another, and
a tracked branch is never filled by half.
-/

namespace TitleBar.Git

open Text

/-- What a branch may track. -/
inductive Target where
  /-- The branch that is fetched from. -/
  | upstream
  /-- The branch that is pushed to. -/
  | push
deriving DecidableEq, Repr

/-- How a target is written. -/
def Target.spec : Target → String
  | .upstream => "@\x7bupstream\x7d"
  | .push => "@\x7bpush\x7d"

/-- What a reading holds of a target. -/
def State.tracking (state : State) : Target → Tracking
  | .upstream => ⟨state.remoteFetch, state.fetchAhead, state.fetchBehind⟩
  | .push => ⟨state.remotePush, state.pushAhead, state.pushBehind⟩

/-- A group of what is read. -/
inductive Group where
  | branch
  | commit
  | tracking (target : Target)
deriving DecidableEq, Repr

/-- The fields of a group. -/
def State.group (state : State) : Group → List String
  | .branch => [state.branch]
  | .commit => [state.sha, state.commitTime, state.author, state.subject]
  | .tracking target =>
    let tracking := state.tracking target
    [tracking.remote, tracking.ahead, tracking.behind]

section Commands

variable (program : Path) (discovery : Discovery)

/-- The command that shows the branch of a working copy. -/
def branching : Command := ⟨discovery.root, program, ["symbolic-ref", "-q", "--short", "HEAD"]⟩

/-- The command that shows the name of a target. -/
def naming (target : Target) : Command :=
  ⟨discovery.root, program, ["rev-parse", "--abbrev-ref", "--symbolic-full-name", target.spec]⟩

/-- The command that counts how far a target is apart. -/
def counting (target : Target) : Command :=
  ⟨discovery.root, program, ["rev-list", "--left-right", "--count", "HEAD..." ++ target.spec]⟩

/-- The commands that a group is read by. -/
def Group.commands : Group → List Command
  | .branch => [branching program discovery]
  | .commit => [showing program discovery]
  | .tracking target => [naming program discovery target, counting program discovery target]

/-- No command reads two groups. -/
theorem Group.not_mem_commands {group other : Group} (ne : group ≠ other) {command : Command}
    (member : command ∈ group.commands program discovery) :
    command ∉ other.commands program discovery := by
  intro also
  -- The two targets are counted by the same command, only the name of the target tells them apart.
  have apart : "HEAD..." ++ Target.upstream.spec ≠ "HEAD..." ++ Target.push.spec := by decide
  rcases group with _ | _ | _ | _ <;> rcases other with _ | _ | _ | _ <;>
    grind [commands, branching, showing, naming, counting, Target.spec]

end Commands

/-! ## First lines -/

section FirstLines

variable {files : Files} {installed : String → Option Path} {output : Command → Option (List String)}
  {command : Command}

/-- A command answers, and this is its first line. -/
def FirstLine (output : Command → Option (List String)) (command : Command) (line : String) : Prop :=
  ∃ rest, output command = some (line :: rest)

/-- The first line that a command answers, without white space at its ends, if there is one. -/
def answered (output : Command → Option (List String)) (command : Command) : Option String :=
  (output command).bind fun lines => lines.head?.map trimmed

theorem eval_firstLine_eq_answered :
    (firstLine command).eval files installed output = answered output command :=
  eval_firstLine command

theorem answered_eq_none_iff :
    answered output command = none ↔ ∀ line, ¬FirstLine output command line := by
  simp only [answered, FirstLine]
  rcases output command with _ | _ | ⟨line, rest⟩ <;> simp

/-- Only a first line that is not blank tells anything. -/
theorem answered_isEmpty_eq_false_iff :
    ((answered output command).getD "").isEmpty = false ↔
      ∃ line, FirstLine output command line ∧ ∃ c ∈ line.toList, isBlank c = false := by
  simp only [answered, FirstLine]
  rcases output command with _ | _ | ⟨line, rest⟩
  · simp
  · simp
  · have solid : (trimmed line).isEmpty = false ↔ ¬∀ c ∈ line.toList, isBlank c := by
      rw [← trim_eq_nil_iff, trimmed]
      simp
    simpa using solid

end FirstLines

/-! ## Tracked branches -/

/-- What is tracked, given the first lines that tell its name and how far it is apart. -/
def Tracking.ofLines (name counts : Option String) : Tracking :=
  if (name.getD "").isEmpty then Tracking.none
  else
    let (ahead, behind) := (counts.bind counts?).getD ("", "")
    ⟨name.getD "", ahead, behind⟩

/-- Both of two counts hold something. -/
theorem counts?_ne_empty {line ahead behind : String} (found : counts? line = some (ahead, behind)) :
    ahead ≠ "" ∧ behind ≠ "" := by
  have held (word : List Char) (member : word ∈ words line.toList) : String.ofList word ≠ "" := by
    have some : word ≠ [] := by simpa using (List.mem_filter.1 member).2
    simpa using some
  rw [counts?] at found
  split at found
  · rename_i first second rest cut
    obtain ⟨rfl, rfl⟩ := Prod.mk.inj (Option.some.inj found)
    exact ⟨held first (by simp [cut]), held second (by simp [cut])⟩
  · contradiction

/-- A tracked branch that has no name has no counts, and there are both counts or neither. -/
theorem Tracking.ofLines_whole (name counts : Option String) :
    ((ofLines name counts).remote = "" →
        (ofLines name counts).ahead = "" ∧ (ofLines name counts).behind = "") ∧
      ((ofLines name counts).ahead = "" ↔ (ofLines name counts).behind = "") := by
  rw [ofLines]
  split
  · exact ⟨fun _ => ⟨rfl, rfl⟩, Iff.rfl⟩
  · rename_i named
    refine ⟨fun unnamed => absurd (String.isEmpty_iff.2 unnamed) named, ?_⟩
    rcases found : counts.bind counts? with _ | ⟨ahead, behind⟩
    · exact Iff.rfl
    · obtain ⟨line, -, counted⟩ := Option.bind_eq_some_iff.1 found
      obtain ⟨first, second⟩ := counts?_ne_empty counted
      exact iff_of_false first second

section Reading

variable {program : Path} {discovery : Discovery} {files : Files} {installed : String → Option Path}
  {output : Command → Option (List String)}

/-- What a reading tells of a target. -/
def tracked (program : Path) (discovery : Discovery) (output : Command → Option (List String))
    (target : Target) : Tracking :=
  Tracking.ofLines (answered output (naming program discovery target))
    (answered output (counting program discovery target))

theorem eval_readTracking (target : Target) :
    (readTracking (Command.mk discovery.root program) target.spec).eval files installed output =
      tracked program discovery output target := by
  rw [readTracking, Script.eval_do_bind, ← naming, eval_firstLine_eq_answered, tracked,
    Tracking.ofLines]
  by_cases blank : ((answered output (naming program discovery target)).getD "").isEmpty
  · rw [if_pos blank, if_pos blank]
    rfl
  · rw [if_neg blank, if_neg blank]
    rfl

/-- How far a target is apart is asked only if it has a name. -/
theorem commands_readTracking (target : Target) :
    (readTracking (Command.mk discovery.root program) target.spec).commands files installed output =
      naming program discovery target ::
        if ((answered output (naming program discovery target)).getD "").isEmpty then []
        else [counting program discovery target] := by
  rw [readTracking, Script.commands_do_bind, ← naming, eval_firstLine_eq_answered]
  by_cases blank : ((answered output (naming program discovery target)).getD "").isEmpty
  · rw [if_pos blank, if_pos blank]
    rfl
  · rw [if_neg blank, if_neg blank]
    rfl

/-! ## Readings -/

/-- The state that is made of the first lines that tell the branch and the commit, and of what is
tracked. -/
def State.ofParts (branch commit : Option String) (fetching push : Tracking) : State :=
  let parts := (fields '|' 3 (commit.getD "").toList).map fun field => String.ofList (trim field)
  { branch := branch.getD ""
    sha := (parts[0]?).getD ""
    commitTime := (parts[1]?).getD ""
    author := (parts[2]?).getD ""
    subject := (parts[3]?).getD ""
    remoteFetch := fetching.remote
    remotePush := push.remote
    fetchAhead := fetching.ahead
    fetchBehind := fetching.behind
    pushAhead := push.ahead
    pushBehind := push.behind }

/-- The commands of a reading, and what is made of their answers. -/
theorem read_eq (program : Path) (discovery : Discovery) :
    backend.read program discovery = (do
      let branch ← firstLine (branching program discovery)
      let commit ← firstLine (showing program discovery)
      if branch.isNone && commit.isNone then return none
      let fetching ← readTracking (Command.mk discovery.root program) Target.upstream.spec
      let push ← readTracking (Command.mk discovery.root program) Target.push.spec
      return some (State.ofParts branch commit fetching push)) :=
  rfl

/-- Neither a branch nor a commit is shown. -/
def Silent (program : Path) (discovery : Discovery) (output : Command → Option (List String)) : Prop :=
  answered output (branching program discovery) = none ∧
    answered output (showing program discovery) = none

theorem silent_iff : Silent program discovery output ↔
    ((answered output (branching program discovery)).isNone &&
      (answered output (showing program discovery)).isNone) = true := by
  rw [Bool.and_eq_true, Option.isNone_iff_eq_none, Option.isNone_iff_eq_none, Silent]

theorem eval_read_of_silent (silent : Silent program discovery output) :
    (backend.read program discovery).eval files installed output = none := by
  rw [read_eq, Script.eval_do_bind, Script.eval_do_bind, eval_firstLine_eq_answered,
    eval_firstLine_eq_answered, if_pos (silent_iff.1 silent)]
  rfl

theorem eval_read_of_not_silent (answers : ¬Silent program discovery output) :
    (backend.read program discovery).eval files installed output =
      some (State.ofParts (answered output (branching program discovery))
        (answered output (showing program discovery)) (tracked program discovery output .upstream)
        (tracked program discovery output .push)) := by
  rw [read_eq, Script.eval_do_bind, Script.eval_do_bind, eval_firstLine_eq_answered,
    eval_firstLine_eq_answered, if_neg (mt silent_iff.2 answers), Script.eval_do_bind,
    Script.eval_do_bind, eval_readTracking, eval_readTracking]
  rfl

theorem eval_read_eq_none_iff :
    (backend.read program discovery).eval files installed output = none ↔
      Silent program discovery output := by
  by_cases silent : Silent program discovery output
  · exact iff_of_true (eval_read_of_silent silent) silent
  · rw [eval_read_of_not_silent silent]
    exact iff_of_false (Option.some_ne_none _) silent

theorem commands_read_of_not_silent (answers : ¬Silent program discovery output) :
    (backend.read program discovery).commands files installed output =
      branching program discovery :: showing program discovery ::
        ((readTracking (Command.mk discovery.root program) Target.upstream.spec).commands files
            installed output ++
          (readTracking (Command.mk discovery.root program) Target.push.spec).commands files
            installed output) := by
  rw [read_eq, Script.commands_do_bind, Script.commands_do_bind, eval_firstLine_eq_answered,
    eval_firstLine_eq_answered, if_neg (mt silent_iff.2 answers), Script.commands_do_bind,
    Script.commands_do_bind, Script.commands_do_pure, List.append_nil]
  rfl

theorem counting_mem_commands_read_iff (answers : ¬Silent program discovery output) (target : Target) :
    counting program discovery target ∈
        (backend.read program discovery).commands files installed output ↔
      ((answered output (naming program discovery target)).getD "").isEmpty = false := by
  have apart : "HEAD..." ++ Target.upstream.spec ≠ "HEAD..." ++ Target.push.spec := by decide
  rw [commands_read_of_not_silent answers, commands_readTracking, commands_readTracking]
  cases target with
  | upstream => grind [branching, showing, naming, counting]
  | push => grind [branching, showing, naming, counting]

variable {state : State} (reads : (backend.read program discovery).eval files installed output = some state)

include reads

theorem not_silent_of_eval_read : ¬Silent program discovery output := by
  intro silent
  rw [eval_read_of_silent silent] at reads
  contradiction

theorem state_of_eval_read : state = State.ofParts (answered output (branching program discovery))
    (answered output (showing program discovery)) (tracked program discovery output .upstream)
    (tracked program discovery output .push) := by
  rw [eval_read_of_not_silent (not_silent_of_eval_read reads)] at reads
  exact (Option.some.inj reads).symm

theorem tracking_of_eval_read (target : Target) :
    state.tracking target = tracked program discovery output target := by
  rw [state_of_eval_read reads]
  cases target <;> rfl

/-- Two readings agree in a group if its commands are answered alike. -/
theorem group_congr {other : Command → Option (List String)} {state' : State}
    (reads' : (backend.read program discovery).eval files installed other = some state') {group : Group}
    (same : ∀ command ∈ group.commands program discovery, other command = output command) :
    state'.group group = state.group group := by
  have alike (command : Command) (member : command ∈ group.commands program discovery) :
      answered other command = answered output command := by
    rw [answered, answered, same command member]
  cases group with
  | branch =>
    have shown := alike (branching program discovery) (List.mem_singleton_self _)
    rw [state_of_eval_read reads, state_of_eval_read reads', shown]
    rfl
  | commit =>
    have shown := alike (showing program discovery) (List.mem_singleton_self _)
    rw [state_of_eval_read reads, state_of_eval_read reads', shown]
    rfl
  | tracking target =>
    have name := alike (naming program discovery target) (by simp [Group.commands])
    have counts := alike (counting program discovery target) (by simp [Group.commands])
    rw [State.group, State.group, tracking_of_eval_read reads, tracking_of_eval_read reads', tracked,
      tracked, name, counts]

end Reading

/-- A reading fails if neither a branch nor a commit is shown. In any other reading a target without a
name has no counts, either count is there if the other one is, and the counts are asked for if the name
was told. What goes wrong in one group leaves the other groups as they are. -/
theorem read_in_groups (program : Path) (discovery : Discovery) (files : Files)
    (installed : String → Option Path) (output : Command → Option (List String)) :
    let reading (output : Command → Option (List String)) :=
      (backend.read program discovery).eval files installed output
    (reading output = none ↔ (∀ line, ¬FirstLine output (branching program discovery) line) ∧
        ∀ line, ¬FirstLine output (showing program discovery) line) ∧
      ∀ state, reading output = some state →
        (∀ target,
          ((state.tracking target).remote = "" →
            (state.tracking target).ahead = "" ∧ (state.tracking target).behind = "") ∧
          ((state.tracking target).ahead = "" ↔ (state.tracking target).behind = "") ∧
          (counting program discovery target ∈
              (backend.read program discovery).commands files installed output ↔
            ∃ line, FirstLine output (naming program discovery target) line ∧
              ∃ c ∈ line.toList, isBlank c = false)) ∧
        ∀ (broken : Group) (other : Command → Option (List String)) (state' : State),
          (∀ command ∉ broken.commands program discovery, other command = output command) →
          reading other = some state' →
          ∀ group ≠ broken, state'.group group = state.group group := by
  intro reading
  refine ⟨?_, fun state reads => ⟨fun target => ?_, ?_⟩⟩
  · rw [eval_read_eq_none_iff, Silent, answered_eq_none_iff, answered_eq_none_iff]
  · rw [tracking_of_eval_read reads, counting_mem_commands_read_iff (not_silent_of_eval_read reads),
      answered_isEmpty_eq_false_iff]
    obtain ⟨unnamed, both⟩ := Tracking.ofLines_whole (answered output (naming program discovery target))
      (answered output (counting program discovery target))
    exact ⟨unnamed, both, Iff.rfl⟩
  · intro broken other state' same reads' group ne
    refine group_congr reads reads' fun command member => same command ?_
    exact Group.not_mem_commands program discovery ne member

/-- A repository whose head is detached, and whose upstream branch has a name. -/
def detached (program : Path) (discovery : Discovery) (command : Command) : Option (List String) :=
  if command = showing program discovery then some ["deadbee|now|Me|Msg"]
  else if command = naming program discovery .upstream then some ["origin/main "]
  else if command = counting program discovery .upstream then some ["2\t1"]
  else none

/-- Counts that are none are both missing, and the commit is what it was. -/
theorem read_in_groups_detached :
    let program : Path := ⟨"git"⟩
    let discovery : Discovery := ⟨⟨"/w"⟩, some ⟨"/w/.git"⟩, none⟩
    let reading (output : Command → Option (List String)) :=
      (backend.read program discovery).eval ⟨[]⟩ (fun _ => none) output
    let garbled (command : Command) : Option (List String) :=
      if command = counting program discovery .upstream then some ["garbage"]
      else detached program discovery command
    ∃ state state', reading (detached program discovery) = some state ∧ reading garbled = some state' ∧
      state.tracking .upstream = ⟨"origin/main", "2", "1"⟩ ∧
      state'.tracking .upstream = ⟨"origin/main", "", ""⟩ ∧
      (state.tracking .push).behind = "" ∧
      counting program discovery .push ∉ (backend.read program discovery).commands ⟨[]⟩ (fun _ => none)
        (detached program discovery) ∧
      state'.group .commit = state.group .commit := by
  intro program discovery reading garbled
  let state : State := ⟨"", "deadbee", "now", "Me", "Msg", "origin/main", "", "2", "1", "", ""⟩
  let state' : State := ⟨"", "deadbee", "now", "Me", "Msg", "origin/main", "", "", "", "", ""⟩
  have reads : reading (detached program discovery) = some state := by decide +kernel
  have reads' : reading garbled = some state' := by decide +kernel
  have told := (read_in_groups program discovery ⟨[]⟩ (fun _ => none) (detached program discovery)).2
    state reads
  obtain ⟨targets, groups⟩ := told
  have same (command : Command)
      (other : command ∉ (Group.tracking .upstream).commands program discovery) :
      garbled command = detached program discovery command := by
    refine if_neg fun counts => other ?_
    rw [counts]
    exact List.mem_cons_of_mem _ (List.mem_singleton_self _)
  have nameless : ¬∃ line, FirstLine (detached program discovery) (naming program discovery .push) line ∧
      ∃ c ∈ line.toList, isBlank c = false := by
    have fails : detached program discovery (naming program discovery .push) = none := by
      decide +kernel
    rintro ⟨line, ⟨rest, told⟩, -⟩
    rw [fails] at told
    contradiction
  obtain ⟨unnamed, -, counted⟩ := targets .push
  exact ⟨state, state', reads, reads', rfl, rfl, (unnamed rfl).2, mt counted.1 nameless,
    groups (.tracking .upstream) garbled state' same reads' .commit (by decide)⟩

end TitleBar.Git
