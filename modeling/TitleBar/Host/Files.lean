import TitleBar.Path
import TitleBar.Text.Utf8

/-! # File trees

A file tree assigns directories, files and symbolic links to locations. A location is the list of
names that leads to it from the root. Paths are resolved the way POSIX does it: every part but the
last has to be a directory, and links are followed.
-/

namespace TitleBar

open Text

/-- The names that lead from the root to a place of a file tree. -/
abbrev Location := List String

inductive Node where
  | directory
  | file (content : List UInt8) (executable : Bool)
  | link (target : Path)
deriving DecidableEq, Repr, Inhabited

/-- Why a path leads nowhere. -/
inductive Fault where
  /-- A part does not exist. -/
  | missing
  /-- A part that has to be a directory is none. -/
  | notDirectory
  /-- Too many links were followed. -/
  | linkLoop
  /-- The path or a name in it is too long. -/
  | tooLong
deriving DecidableEq, Repr

/-- A file tree; the first entry of a location counts. The root is always a directory, and
relative paths start there. -/
structure Files where
  entries : List (Location × Node)
deriving DecidableEq, Repr, Inhabited

namespace Files

/-- What stands at a location, links not followed. -/
def node? (files : Files) (location : Location) : Option Node :=
  if location = [] then some .directory else files.entries.lookup location

/-- The largest number of links that one path may lead through. -/
def maxLinks : Nat := 40

def maxNameBytes : Nat := 255

/-- The largest number of bytes of a path that is looked up as a whole. -/
def maxPathBytes : Nat := 4095

/-- Whether a path is written in a way that only a directory fits. -/
def asksDirectory (path : Path) : Bool :=
  match path.text.toList.reverse with
  | '/' :: _ | '.' :: '/' :: _ => true
  | _ => false

/-- The parts of the target of a link, with a last one that fits only directories where the target
is written so. -/
def linkParts (target : Path) : List Path.Part :=
  if asksDirectory target then target.parts ++ [.here] else target.parts

/-- Follows the parts of a path from a directory, through at most `links` links. -/
def walk (files : Files) (links : Nat) (base : Location) :
    List Path.Part → Except Fault Location
  | [] => .ok base
  | part :: rest =>
    match part with
    | .root => walk files links [] rest
    | .here => walk files links base rest
    | .up => walk files links base.dropLast rest
    | .name name =>
      let next := base ++ [name]
      match files.node? next with
      | none => .error (if maxNameBytes < name.utf8ByteSize then .tooLong else .missing)
      | some .directory => walk files links next rest
      | some (.file ..) => if rest.isEmpty then .ok next else .error .notDirectory
      | some (.link target) =>
        match links with
        | 0 => .error .linkLoop
        | links + 1 => walk files links base (linkParts target ++ rest)
termination_by parts => (links, parts.length)

/-- The location that a path leads to, links followed, when its parts are looked up one by one. -/
def resolve (files : Files) (path : Path) : Except Fault Location := do
  if path.text.isEmpty || path.text.toList.contains '\x00' then
    throw .missing
  let location ← files.walk maxLinks [] path.parts
  match files.node? location with
  | some .directory => return location
  | _ => if asksDirectory path then throw .notDirectory else return location

/-- The location that a path leads to, links followed. -/
def locate (files : Files) (path : Path) : Except Fault Location :=
  if maxPathBytes < path.text.utf8ByteSize then .error .tooLong else files.resolve path

/-- What a path leads to, links followed. -/
def nodeAt? (files : Files) (path : Path) : Option Node :=
  match files.locate path with
  | .ok location => files.node? location
  | .error _ => none

def contains (files : Files) (path : Path) : Bool := (files.nodeAt? path).isSome

def isDirectory (files : Files) (path : Path) : Bool := files.nodeAt? path == some .directory

def isFile (files : Files) (path : Path) : Bool :=
  match files.nodeAt? path with
  | some (.file ..) => true
  | _ => false

def pathOf (location : Location) : Path := Path.ofParts (.root :: location.map .name)

/-- The path without links, `.` and `..` of what a path leads to. It may be longer than one that is
looked up as a whole. -/
def canonical? (files : Files) (path : Path) : Option Path :=
  match files.resolve path with
  | .ok location => some (pathOf location)
  | .error _ => none

def content? (files : Files) (path : Path) : Option (List UInt8) :=
  match files.nodeAt? path with
  | some (.file content _) => some content
  | _ => none

/-- The text of the file that a path leads to; `none` when there is no such file or its content is
no text. -/
def text? (files : Files) (path : Path) : Option String := do
  let content ← files.content? path
  match decode content with
  | .ok text => some (String.ofList text)
  | .error _ => none

/-- The names of what stands right in a directory. -/
def namesIn (files : Files) (directory : Location) : List String :=
  files.entries.filterMap fun (location, _) =>
    if location.dropLast = directory then location.getLast? else none

/-- Puts a node at a location, in place of what stands there. -/
def set (files : Files) (location : Location) (node : Node) : Files :=
  ⟨(location, node) :: files.entries.filter (·.1 != location)⟩

def erase (files : Files) (location : Location) : Files :=
  ⟨files.entries.filter (·.1 != location)⟩

/-- Makes the directories that a list of parts names below a directory, as far as they are missing;
gives the last of them. -/
def makeDirectories (files : Files) (base : Location) : List Path.Part → Files × Location
  | [] => (files, base)
  | part :: rest =>
    match files.walk maxLinks base [part], part with
    | .ok next, _ => makeDirectories files next rest
    | .error _, .name name =>
      makeDirectories (files.set (base ++ [name]) .directory) (base ++ [name]) rest
    | .error _, _ => makeDirectories files base rest

/-- Makes a directory and the missing ones above it. -/
def makeDirectory (files : Files) (path : Path) : Files := (files.makeDirectories [] path.parts).1

/-- Where a file lands that is written under a name in a directory. Links are followed, also one
whose target is still to be made; `none` when a directory is in the way or the directory above the
target is missing. -/
def landing? (files : Files) (links : Nat) (base : Location) (name : String) : Option Location :=
  match files.node? (base ++ [name]) with
  | some .directory => none
  | some (.link target) =>
    match links, (linkParts target).getLast? with
    | links + 1, some (.name last) =>
      match files.walk links base target.parts.dropLast with
      | .ok directory => landing? files links directory last
      | .error _ => none
    | _, _ => none
  | _ => some (base ++ [name])

/-- Whether a path and the names in it are short enough to be made. -/
def fits (path : Path) : Bool :=
  path.text.utf8ByteSize ≤ maxPathBytes && path.parts.all (·.text.utf8ByteSize ≤ maxNameBytes)

/-- Puts a node at a path; missing directories above it are made. A link that stands at the path is
followed when `through` holds, and nothing changes where the node cannot land. -/
def put (files : Files) (path : Path) (node : Node) (through : Bool) : Files :=
  match fits path, path.parts.getLast? with
  | true, some (.name name) =>
    let (files, parent) := files.makeDirectories [] path.parts.dropLast
    if through then
      match files.landing? maxLinks parent name with
      | some location => files.set location node
      | none => files
    else files.set (parent ++ [name]) node
  | _, _ => files

/-- Writes a file. A file that is there keeps its permission to be executed. -/
def write (files : Files) (path : Path) (content : List UInt8) : Files :=
  let executable := match files.nodeAt? path with
    | some (.file _ executable) => executable
    | _ => false
  files.put path (.file content executable) true

/-- Writes a file, and gives the locations that this changes: those of the directories that were
missing, and the one of the file. -/
def writeNoting (files : Files) (path : Path) (content : List UInt8) : Files × List Location :=
  let after := files.write path content
  let locations := after.entries.map (·.1)
  let made := (locations.filter fun location => (files.node? location).isNone).reverse
  match after.locate path with
  | .ok location => (after, if made.contains location then made else made ++ [location])
  | .error _ => (after, made)

/-- Where the last name of a path stands, which is not followed if it is a link. -/
def entryAt? (files : Files) (path : Path) : Option Location :=
  match path.parts.getLast? with
  | some (.name name) =>
    match files.walk maxLinks [] path.parts.dropLast with
    | .ok parent => some (parent ++ [name])
    | .error _ => none
  | _ => none

/-- What the link that a path names leads to. -/
def linkTarget? (files : Files) (path : Path) : Option Path :=
  match (files.entryAt? path).bind files.node? with
  | some (.link target) => some target
  | _ => none

/-- Removes what a path names, which is not followed if it is a link. -/
def remove (files : Files) (path : Path) : Files :=
  match files.entryAt? path with
  | some location => files.erase location
  | none => files

/-- Removes what a path names, and gives the locations that this changes. -/
def removeNoting (files : Files) (path : Path) : Files × List Location :=
  let after := files.remove path
  (after, (files.entries.map (·.1)).filter fun location => (after.node? location).isNone)

end Files

end TitleBar
