import TitleBar.Proofs.Text.Pieces
import TitleBar.Repository.Git

/-! # The commit of a working copy

What is known of a commit is printed on one line, with a bar between its parts. The line is cut at its
first three bars, so that a subject may hold bars. The name of an author may not: what stands behind its
first bar is taken for the start of the subject.
-/

namespace TitleBar.Git

open Text

/-! ## Fields -/

theorem fields_append_cons {mark : Char} {first : List Char} (absent : mark ∉ first) (count : Nat)
    (rest : List Char) : fields mark (count + 1) (first ++ mark :: rest) = first :: fields mark count rest := by
  obtain ⟨before, behind⟩ := span_of_not_mem absent rest
  rw [fields, behind, before]

/-- A commit: parts without white space at their ends, of which the first two hold no bar. -/
structure Commit where
  hash : List Char
  time : List Char
  author : List Char
  subject : List Char
  hash_trimmed : Trimmed hash
  time_trimmed : Trimmed time
  author_trimmed : Trimmed author
  subject_trimmed : Trimmed subject
  hash_unbarred : '|' ∉ hash
  time_unbarred : '|' ∉ time

namespace Commit

variable (commit : Commit)

/-- What stands behind the time: the author and the subject. -/
def tail : List Char := commit.author ++ '|' :: commit.subject

/-- The line of a commit. -/
def line : List Char := commit.hash ++ '|' :: (commit.time ++ '|' :: commit.tail)

theorem trimmed_line : Trimmed commit.line := by
  have bar : isBlank '|' = false := by decide
  exact commit.hash_trimmed.append_cons bar (commit.time_trimmed.append_cons bar
    (commit.author_trimmed.append_cons bar commit.subject_trimmed))

theorem fields_line : fields '|' 3 commit.line =
    commit.hash :: commit.time :: fields '|' 1 commit.tail := by
  rw [line, fields_append_cons commit.hash_unbarred, fields_append_cons commit.time_unbarred]

/-- The author and the subject are told apart if the author holds no bar. -/
theorem fields_tail (unbarred : '|' ∉ commit.author) :
    fields '|' 1 commit.tail = [commit.author, commit.subject] :=
  fields_append_cons unbarred 0 commit.subject

/-- Else the first bar of the author ends it. -/
theorem fields_tail_of_mem {first more : List Char} (unbarred : '|' ∉ first)
    (whole : commit.author = first ++ '|' :: more) :
    fields '|' 1 commit.tail = [first, more ++ '|' :: commit.subject] := by
  rw [tail, whole, List.append_assoc, List.cons_append, fields_append_cons unbarred]
  rfl

/-- A text with more bars is another text, white space aside. -/
theorem trim_append_cons_ne (more subject : List Char) : trim (more ++ '|' :: subject) ≠ subject := by
  intro same
  have bars := count_trim (c := '|') (by decide) (more ++ '|' :: subject)
  rw [same, List.count_append, List.count_cons_self] at bars
  omega

end Commit

/-! ## Readings -/

section Reading

variable {program : Path} {discovery : Discovery} {files : Files} {installed : String → Option Path}
  {output : Command → Option (List String)}

/-- The command that shows the commit of a working copy. -/
def showing (program : Path) (discovery : Discovery) : Command :=
  ⟨discovery.root, program, ["show", "-s", "--format=%h|%cr|%an|%s", "HEAD"]⟩

theorem eval_firstLine (command : Command) :
    (firstLine command).eval files installed output =
      (output command).bind fun lines => lines.head?.map trimmed := rfl

/-- A reading for which a commit was shown takes its fields over, whatever else is known. -/
theorem eval_read_of_fields {line : String} {rest : List String} {hash time author subject : List Char}
    (shown : output (showing program discovery) = some (line :: rest))
    (cut : fields '|' 3 (trim line.toList) = [hash, time, author, subject]) :
    ∃ state, (backend.read program discovery).eval files installed output = some state ∧
      state.sha = String.ofList (trim hash) ∧ state.commitTime = String.ofList (trim time) ∧
      state.author = String.ofList (trim author) ∧ state.subject = String.ofList (trim subject) := by
  have first : (firstLine (showing program discovery)).eval files installed output =
      some (trimmed line) := by
    rw [eval_firstLine, shown]
    rfl
  rw [showing] at first
  change ∃ state, (read program discovery).eval files installed output = some state ∧ _
  rw [read]
  simp only [Script.eval_do_bind, Script.eval_do_pure, first, Option.isNone_some, Bool.and_false,
    Bool.false_eq_true, if_false, Option.getD_some, trimmed, String.toList_ofList, cut]
  exact ⟨_, rfl, rfl, rfl, rfl, rfl⟩

end Reading

/-- The hash and the time of a commit are read as they are printed. Its author and its subject are if the
author holds no bar, and neither is otherwise. -/
theorem read_commit (commit : Commit) {program : Path} {discovery : Discovery} {files : Files}
    {installed : String → Option Path} {output : Command → Option (List String)} {rest : List String}
    (shown : output (showing program discovery) = some (String.ofList commit.line :: rest)) :
    ∃ state, (backend.read program discovery).eval files installed output = some state ∧
      backend.value state discovery "git-sha" = String.ofList commit.hash ∧
      backend.value state discovery "git-commit-time-relative" = String.ofList commit.time ∧
      (backend.value state discovery "git-author" = String.ofList commit.author ↔
        '|' ∉ commit.author) ∧
      (backend.value state discovery "git-subject" = String.ofList commit.subject ↔
        '|' ∉ commit.author) := by
  have trimmed : trim (String.ofList commit.line).toList = commit.line := by
    rw [String.toList_ofList, commit.trimmed_line.trim]
  -- The third cut is made at the first bar behind the time, which is one of the author if there is any.
  by_cases barred : '|' ∈ commit.author
  · obtain ⟨first, more, whole, unbarred⟩ := List.eq_append_cons_of_mem barred
    have cut := commit.fields_line
    rw [commit.fields_tail_of_mem unbarred whole, ← trimmed] at cut
    obtain ⟨state, read, sha, time, author, subject⟩ := eval_read_of_fields shown cut
    refine ⟨state, read, ?_, ?_, ?_, ?_⟩
    · exact sha.trans (congrArg _ commit.hash_trimmed.trim)
    · exact time.trans (congrArg _ commit.time_trimmed.trim)
    · refine iff_of_false ?_ (not_not_intro barred)
      intro same
      have kept : trim first = commit.author := String.ofList_injective (author.symm.trans same)
      exact unbarred (mem_of_mem_trim (kept ▸ barred))
    · refine iff_of_false ?_ (not_not_intro barred)
      intro same
      exact Commit.trim_append_cons_ne more commit.subject
        (String.ofList_injective (subject.symm.trans same))
  · have cut := commit.fields_line
    rw [commit.fields_tail barred, ← trimmed] at cut
    obtain ⟨state, read, sha, time, author, subject⟩ := eval_read_of_fields shown cut
    refine ⟨state, read, ?_, ?_, iff_of_true ?_ barred, iff_of_true ?_ barred⟩
    · exact sha.trans (congrArg _ commit.hash_trimmed.trim)
    · exact time.trans (congrArg _ commit.time_trimmed.trim)
    · exact author.trans (congrArg _ commit.author_trimmed.trim)
    · exact subject.trans (congrArg _ commit.subject_trimmed.trim)

/-- A commit by an author whose name holds a bar. -/
def barred : Commit where
  hash := "abc1234".toList
  time := "2 hours ago".toList
  author := "Ada | Bob".toList
  subject := "Fix it".toList
  hash_trimmed := by decide
  time_trimmed := by decide
  author_trimmed := by decide
  subject_trimmed := by decide
  hash_unbarred := by decide
  time_unbarred := by decide

/-- Its hash is read, but neither its author nor its subject is. -/
theorem read_commit_barred :
    let found : Discovery := ⟨⟨"/w"⟩, some ⟨"/w/.git"⟩, none⟩
    let output : Command → Option (List String) := fun command =>
      if command = showing ⟨"git"⟩ found then some ["abc1234|2 hours ago|Ada | Bob|Fix it"] else none
    ∃ state, (backend.read ⟨"git"⟩ found).eval ⟨[]⟩ (fun _ => none) output = some state ∧
      backend.value state found "git-sha" = "abc1234" ∧
      backend.value state found "git-commit-time-relative" = "2 hours ago" ∧
      backend.value state found "git-author" ≠ "Ada | Bob" ∧
      backend.value state found "git-subject" ≠ "Fix it" := by
  intro found output
  have shown : output (showing ⟨"git"⟩ found) = some (String.ofList barred.line :: []) := if_pos rfl
  have told : ∃ state, (backend.read ⟨"git"⟩ found).eval ⟨[]⟩ (fun _ => none) output = some state ∧ _ ∧
      _ ∧ _ ∧ _ := read_commit barred shown
  obtain ⟨state, read, sha, time, author, subject⟩ := told
  have bar : '|' ∈ barred.author := by decide
  exact ⟨state, read, sha, time, fun same => author.1 same bar, fun same => subject.1 same bar⟩

end TitleBar.Git
