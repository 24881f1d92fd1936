import TitleBar.Repository.Backend
import TitleBar.Repository.Marker

/-! # Subversion

A Subversion working copy is found by its directory `.svn`, which is watched. Its URL is one of the
lines that `svn info` prints.
-/

namespace TitleBar.Subversion

open Text

/-- A reading of a Subversion working copy. -/
structure State where
  url : String
deriving DecidableEq, Repr

def value (state : State) (discovery : Discovery) (tag : String) : String :=
  match tag with
  | "svn" => discovery.root.text
  | "svn-url" => state.url
  | _ => ""

def url? (lines : List String) : Option String :=
  lines.findSome? fun line =>
    (strip? "URL: ".toList line.toList).map fun rest => String.ofList (trim rest)

def read (program : Path) (discovery : Discovery) : Script (Option State) :=
  (Script.capture ⟨discovery.root, program, ["info"]⟩).map fun output =>
    output.map fun lines => ⟨(url? lines).getD ""⟩

/-- Finds the working copy of a directory. -/
def discover (start : Path) : Script (Option Discovery) :=
  Script.files.map fun files => (nearestMarked? files start ".svn").map fun root =>
    ⟨root, some (root.join ".svn"), none⟩

def backend : Backend State :=
  { name := "svn"
    tags := ["svn", "svn-url"]
    blank := ⟨""⟩
    tool := "svn"
    discover := fun _ start => discover start
    read
    value
    satisfies := Backend.matchesOrNames "svn" value
    polls := false
    filter := .all }

end TitleBar.Subversion
