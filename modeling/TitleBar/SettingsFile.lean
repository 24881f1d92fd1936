import TitleBar.Rule.Document
import TitleBar.Timeline

/-! # Rule files

The rules of one file, as they were when it was last read. A file that is missing, that cannot be
read, or that holds no rule document has no rules. Reading a file again is a change only if the
digest of its text or its rules are others than before.
-/

namespace TitleBar

structure SettingsFile where
  origin : RuleOrigin
  path : Path
  /-- The digest of the text that was read last; none when none could be read. -/
  digest : Option String
  rules : List Rule
  /-- The directory that is watched for changes of the file. -/
  watched : Option Path
  /-- How many watchers were ever attached; each takes the place of the one before. -/
  attached : Nat
deriving DecidableEq, Repr

namespace SettingsFile

/-- The rules of a text; none if it is no rule document. -/
def rulesOf [RuleFormat] (text : String) : List Rule :=
  match Rule.ofDocument? text with
  | .ok rules => rules
  | .error _ => []

/-- What a file holds at the moment. -/
def content [RuleFormat] (files : Files) (path : Path) : Option String × List Rule :=
  match files.text? path with
  | some text => (some (RuleFormat.digest text), rulesOf text)
  | none => (none, [])

/-- Reads the file again, and tells whether that is a change. -/
def reload [RuleFormat] (files : Files) (file : SettingsFile) : SettingsFile × Bool :=
  let (digest, rules) := content files file.path
  if file.digest = digest ∧ file.rules = rules then (file, false)
  else ({ file with digest, rules }, true)

/-- A rule file that is read for the first time. -/
def opened [RuleFormat] (files : Files) (origin : RuleOrigin) (path : Path) : SettingsFile :=
  ({ origin, path, digest := none, rules := [], watched := none, attached := 0 :
    SettingsFile }.reload files).1

def ruleSet (file : SettingsFile) : RuleSet := ⟨file.origin, file.rules⟩

/-- Watches the directory of the file from now on, if there is one. -/
def watch (files : Files) (file : SettingsFile) : SettingsFile :=
  match file.path.parent? with
  | some directory =>
    if files.isDirectory directory then
      { file with watched := some directory, attached := file.attached + 1 }
    else file
  | none => file

def isWatching (file : SettingsFile) : Bool := file.watched.isSome

/-- How long a rule file has to be quiet, in milliseconds. -/
def quietPeriod : Nat := 250

def watchers {E : Type} (source : String) (report : E) (file : SettingsFile) :
    List (WatchRequest E) :=
  file.watched.toList.map fun directory =>
    ⟨⟨source, file.attached⟩, ⟨directory, false, .named file.path.fileName?⟩, quietPeriod, report⟩

/-- The source of a notice that rules have changed. -/
def source : String := "config"

/-- A watched file as a machine: its only stimulus is a report of its watcher. -/
def machine [RuleFormat] : Machine SettingsFile Unit String :=
  { step := fun files file _ =>
      let (file, changed) := file.reload files
      (file, if changed then [source] else [])
    launched := fun _ _ => []
    timers := fun _ => []
    watchers := watchers source () }

end SettingsFile

end TitleBar
