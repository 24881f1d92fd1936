import TitleBar.Repository.Script
import TitleBar.Resolver
import TitleBar.Watch.Filter

/-! # Kinds of source control

What one kind of source control knows: how to find the repository of a directory, how to read it,
and which values a reading gives to tags. A reading is always complete; one that fails counts as a
blank one.
-/

namespace TitleBar

structure Discovery where
  /-- The root of the working copy, or of the client. -/
  root : Path
  /-- What to watch for changes. -/
  watch : Option Path
  /-- The name of the client, where there are clients. -/
  workspace : Option String
deriving DecidableEq, Repr

/-- How the work of a task ended. -/
inductive Outcome (σ : Type) where
  /-- A repository was found and read for the first time. `watching` tells whether it could be
  watched. -/
  | found (program : Path) (discovery : Discovery) (snapshot : σ) (watching : Bool)
  /-- There is no repository, or its tool is not installed. -/
  | nothing
  /-- The repository was read again. -/
  | read (snapshot : σ)
deriving DecidableEq, Repr

/-- A kind of source control, with readings of type `σ`. -/
structure Backend (σ : Type) where
  /-- The name, which is also the tag for being available. -/
  name : String
  tags : List String
  /-- The reading of an unreadable repository. -/
  blank : σ
  /-- The tool that is run. -/
  tool : String
  /-- Finds the repository of a directory, given where the tool is. -/
  discover : Path → Path → Script (Option Discovery)
  /-- Reads a repository; none when that fails. -/
  read : Path → Discovery → Script (Option σ)
  /-- The value of a tag. -/
  value : σ → Discovery → String → String
  /-- Whether a tag matches the pattern of a predicate. -/
  satisfies : σ → Discovery → String → Glob → Bool
  /-- Whether a bound repository is read again from time to time. -/
  polls : Bool
  /-- Which changes of what is watched lead to another reading. -/
  filter : WatchFilter

namespace Backend

variable {σ : Type}

/-- The rule for predicates that the kinds share: the name asks only for a repository, and any other
tag for its value. -/
def matchesOrNames (name : String) (value : σ → Discovery → String → String) (state : σ)
    (discovery : Discovery) (tag : String) (glob : Glob) : Bool :=
  tag = name || glob.isMatch (value state discovery tag)

/-- Reads a repository; a failed reading is blank. -/
def readOrBlank (backend : Backend σ) (program : Path) (discovery : Discovery) : Script σ :=
  (backend.read program discovery).map fun state => state.getD backend.blank

/-- Finds the repository of a directory and reads it. That it can be watched is decided after the
reading. -/
def bindScript (backend : Backend σ) (start : Path) : Script (Outcome σ) :=
  .locate backend.tool fun
    | none => .done .nothing
    | some program => do
      match ← backend.discover program start with
      | none => return .nothing
      | some discovery =>
        let snapshot ← backend.readOrBlank program discovery
        let files ← Script.files
        return .found program discovery snapshot (discovery.watch.any files.contains)

def readScript (backend : Backend σ) (program : Path) (discovery : Discovery) :
    Script (Outcome σ) :=
  (backend.readOrBlank program discovery).map .read

end Backend

end TitleBar
