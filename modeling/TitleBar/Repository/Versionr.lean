import TitleBar.Repository.Backend
import TitleBar.Repository.Marker

/-! # Versionr

A Versionr working copy is found by its directory `.versionr`, which is watched. Version and branch
both stand on the first line that `vsr info` prints.
-/

namespace TitleBar.Versionr

open Text

/-- A reading of a Versionr working copy. -/
structure State where
  branch : String
  sha : String
deriving DecidableEq, Repr

def value (state : State) (discovery : Discovery) (tag : String) : String :=
  match tag with
  | "vsr" => discovery.root.text
  | "vsr-branch" => state.branch
  | "vsr-sha" => state.sha
  | _ => ""

/-- What `at?` finds at the first place of a text where it finds something. -/
def firstPlace {α : Type} (found : List Char → Option α) : List Char → Option α
  | [] => found []
  | c :: rest => (found (c :: rest)).or (firstPlace found rest)

def isVersionChar (c : Char) : Bool :=
  c.isDigit || ('a' ≤ c && c ≤ 'f') || ('A' ≤ c && c ≤ 'F') || c == '-'

def isBranchChar (c : Char) : Bool := c.isAlphanum || c == '_' || c == '-'

/-- The version that stands behind the word for it at the start of a text. -/
def versionAt? (text : List Char) : Option (List Char) := do
  let rest ← strip? "Version ".toList text
  match rest.takeWhile isVersionChar with
  | [] => none
  | version => return version

/-- The branch that stands in quotes behind the words for it at the start of a text. -/
def branchAt? (text : List Char) : Option (List Char) := do
  let rest ← strip? "on branch \"".toList text
  match rest.takeWhile isBranchChar, rest.dropWhile isBranchChar with
  | [], _ => none
  | branch, '"' :: _ => return branch
  | _, _ => none

/-- Reads the line that tells version and branch. -/
def ofLine (line : String) : State :=
  ⟨String.ofList ((firstPlace branchAt? line.toList).getD []),
    String.ofList ((firstPlace versionAt? line.toList).getD [])⟩

/-- Reads a working copy; no output at all is a failure. -/
def read (program : Path) (discovery : Discovery) : Script (Option State) :=
  (Script.capture ⟨discovery.root, program, ["info", "--nocolours"]⟩).map fun output =>
    output.bind fun lines => lines.head?.map ofLine

/-- Finds the working copy of a directory. -/
def discover (start : Path) : Script (Option Discovery) :=
  Script.files.map fun files => (nearestMarked? files start ".versionr").map fun root =>
    ⟨root, some (root.join ".versionr"), none⟩

def backend : Backend State :=
  { name := "vsr"
    tags := ["vsr", "vsr-branch", "vsr-sha"]
    blank := ⟨"", ""⟩
    tool := "vsr"
    discover := fun _ start => discover start
    read
    value
    satisfies := Backend.matchesOrNames "vsr" value
    polls := false
    filter := .all }

end TitleBar.Versionr
