import TitleBar.Proofs.Rule.Document
import TitleBar.Proofs.Watch.RuleFile

/-! # Loading rule files

Between two loads a rule file keeps what the first of them found, whatever is written or removed in the
meantime. A load takes in the whole document that it finds, or nothing where there is no file, no text
or no rule document, and it tells of a change by the digest of the text and by the rules.
-/

namespace TitleBar.SettingsFile

variable [RuleFormat]

/-- What happens to a rule file and to the files of its host. -/
inductive Act where
  | changed (change : Change)
  /-- The host has the file loaded again. -/
  | reloaded

/-- A rule file among the files of its host. -/
structure Upkeep where
  files : Files
  file : SettingsFile
  /-- The text that the last load found, if it found one. -/
  seen : Option String

namespace Upkeep

/-- A rule file that has just been opened, which loads it. -/
def opened (files : Files) (origin : RuleOrigin) (path : Path) : Upkeep :=
  ⟨files, SettingsFile.opened files origin path, files.text? path⟩

/-- What an act leaves behind. -/
def after (upkeep : Upkeep) : Act → Upkeep
  | .changed change => { upkeep with files := (change.noting upkeep.files).1 }
  | .reloaded =>
    { upkeep with
      file := (upkeep.file.reload upkeep.files).1
      seen := upkeep.files.text? upkeep.file.path }

/-- What a run leaves behind. -/
def afterAll (upkeep : Upkeep) (acts : List Act) : Upkeep := acts.foldl after upkeep

end Upkeep

/-- Which rules there are to take from what a file holds. -/
inductive Holds : Option String → List Rule → Prop
  /-- There is no file, or its content is no text. -/
  | missing : Holds none []
  | document {text : String} {rules : List Rule} (document : Rule.IsDocument text rules) :
    Holds (some text) rules
  | refused {text : String} (refused : ∀ rules, ¬Rule.IsDocument text rules) : Holds (some text) []

/-- What is read from a text, or where there is none. -/
def readingOf (text : Option String) : Option String × List Rule :=
  (text.map RuleFormat.digest, (text.map rulesOf).getD [])

theorem content_eq_readingOf (files : Files) (path : Path) :
    content files path = readingOf (files.text? path) := by
  rw [content]
  cases files.text? path <;> rfl

theorem holds_readingOf (text : Option String) : Holds text (readingOf text).2 := by
  rcases text with _ | text
  · exact .missing
  · change Holds (some text) (rulesOf text)
    rcases read : Rule.ofDocument? text with error | rules
    · have none : rulesOf text = [] := by rw [rulesOf, read]
      rw [none]
      apply Holds.refused
      intro rules document
      rw [Rule.ofDocument?_eq_ok_iff.2 document] at read
      contradiction
    · have all : rulesOf text = rules := by rw [rulesOf, read]
      rw [all]
      exact .document (Rule.ofDocument?_eq_ok_iff.1 read)

/-- A load is a change if something else is read than before. -/
theorem reload_snd_iff {files : Files} {file : SettingsFile} :
    (file.reload files).2 = true ↔ content files file.path ≠ file.reading := by
  rcases read : content files file.path with ⟨digest, rules⟩
  simp only [reload, read, reading, ne_eq, Prod.mk.injEq]
  split
  · rename_i same
    simp [same.1, same.2]
  · rename_i others
    simpa [eq_comm] using others

/-- What was read last is what the last load found. -/
structure Upkeep.Faithful (origin : RuleOrigin) (path : Path) (upkeep : Upkeep) : Prop where
  origin : upkeep.file.origin = origin
  path : upkeep.file.path = path
  reading : upkeep.file.reading = readingOf upkeep.seen

namespace Upkeep.Faithful

variable {origin : RuleOrigin} {path : Path} {upkeep : Upkeep}

theorem opened (files : Files) (origin : RuleOrigin) (path : Path) :
    (Upkeep.opened files origin path).Faithful origin path where
  origin := by rw [Upkeep.opened, SettingsFile.opened, reload_fst]
  path := path_reload
  reading := reading_reload.trans (content_eq_readingOf files path)

theorem after (faithful : upkeep.Faithful origin path) (act : Act) :
    (upkeep.after act).Faithful origin path := by
  cases act with
  | changed change => exact ⟨faithful.origin, faithful.path, faithful.reading⟩
  | reloaded =>
    refine ⟨?_, path_reload.trans faithful.path, ?_⟩
    · rw [Upkeep.after, reload_fst]
      exact faithful.origin
    · exact reading_reload.trans (content_eq_readingOf _ _)

theorem afterAll (faithful : upkeep.Faithful origin path) (acts : List Act) :
    (upkeep.afterAll acts).Faithful origin path := by
  induction acts generalizing upkeep with
  | nil => exact faithful
  | cons act acts ih => exact ih (faithful.after act)

theorem rules_eq (faithful : upkeep.Faithful origin path) :
    upkeep.file.ruleSet.rules = (readingOf upkeep.seen).2 :=
  congrArg Prod.snd faithful.reading

end Upkeep.Faithful

/-- At every point of a run, after the opening and every load, the rules are all those of the document
that the last load found, or none if it found none. The next load tells of no change if it finds the
same text again, or again none, and it tells of one exactly if the digest of the text or the rules are
others than before. -/
theorem reload_tracks_file (files : Files) (origin : RuleOrigin) (path : Path) (acts : List Act) :
    let upkeep := (Upkeep.opened files origin path).afterAll acts
    let next := upkeep.after .reloaded
    let told := (upkeep.file.reload upkeep.files).2
    (upkeep.file.ruleSet.origin = origin ∧ Holds upkeep.seen upkeep.file.ruleSet.rules) ∧
      next.seen = upkeep.files.text? path ∧
      (next.seen = upkeep.seen → told = false) ∧
      (told = true ↔ next.seen.map RuleFormat.digest ≠ upkeep.seen.map RuleFormat.digest ∨
        next.file.ruleSet.rules ≠ upkeep.file.ruleSet.rules) := by
  intro upkeep next told
  have faithful : upkeep.Faithful origin path := (Upkeep.Faithful.opened files origin path).afterAll acts
  have faithfulNext : next.Faithful origin path := faithful.after .reloaded
  have seen : next.seen = upkeep.files.text? path := by rw [← faithful.path]; rfl
  have effective : told = true ↔ readingOf next.seen ≠ readingOf upkeep.seen := by
    rw [← faithful.reading, seen, ← content_eq_readingOf, ← faithful.path]
    exact reload_snd_iff
  refine ⟨⟨faithful.origin, ?_⟩, seen, ?_, ?_⟩
  · rw [faithful.rules_eq]
    exact holds_readingOf upkeep.seen
  · intro same
    rw [← Bool.not_eq_true, effective, same]
    intro others
    exact others rfl
  · rw [effective, faithful.rules_eq, faithfulNext.rules_eq, ne_eq, Prod.ext_iff, not_and_or]
    rfl

end TitleBar.SettingsFile
