import TitleBar.Shell.Editor
import TitleBar.Shell.Layout
import TitleBar.Shell.Search
import TitleBar.Shell.Sort
import TitleBar.Shell.Translate

/-! # Management of files

The utilities that name, list, make and remove files.
-/

namespace TitleBar.Shell.Utility

open Text Effect

/-- Carries something out for each name; the status is 1 if it fails for any. -/
def forNames (names : List String) (act : String → Effect Bool) : Effect Unit := do
  let outcomes ← names.mapM act
  setStatus (if !names.isEmpty && outcomes.all id then 0 else 1)

def change (f : State → Option Files) : Effect Bool := do
  let state ← get
  match f state with
  | some files => do
    set { state with files }
    return true
  | none => return false

def directoryOf (path : Path) : Path := path.parent?.getD path

/-- Prints the last part of a path, without an ending if one is given. -/
def baseName (arguments : List String) : Effect Unit :=
  match arguments with
  | [] => setStatus 1
  | text :: more =>
    let path : Path := ⟨text⟩
    let name := match path.parts.getLast? with
      | some part => part.text
      | none => if text.isEmpty then "" else "."
    let ending := (more.headD "").toList
    answerLine (match stripEnd? ending name.toList with
      | some [] | none => name
      | some short => String.ofList short)

/-- Prints a path without its last part. -/
def directoryName (arguments : List String) : Effect Unit :=
  match arguments with
  | [] => setStatus 1
  | text :: _ =>
    let parts := (Path.mk text).parts
    let above := if parts = [.root] then parts else parts.dropLast
    answerLine (if above.isEmpty then "." else (Path.ofParts above).text)

/-- Makes files that are not there. -/
def touch (arguments : List String) : Effect Unit :=
  forNames (splitOptions arguments).2 fun name =>
    change fun state =>
      let path := state.path name
      if state.files.contains path then some state.files
      else if state.files.isDirectory (directoryOf path) then some (state.files.write path [])
      else none

/-- Makes directories; with `-p` also the ones above them. -/
def makeDirectories (arguments : List String) : Effect Unit :=
  let (options, names) := splitOptions arguments
  forNames names fun name =>
    change fun state =>
      let path := state.path name
      let fits := if options.contains 'p' then !state.files.isFile path
        else !state.files.contains path && state.files.isDirectory (directoryOf path)
      if fits then some (state.files.makeDirectory path) else none

/-- The files without what stands at a location and below it. -/
def withoutTree (files : Files) (location : Location) : Files :=
  ⟨files.entries.filter fun entry => !location.isPrefixOf entry.1⟩

def removeDirectories (arguments : List String) : Effect Unit :=
  forNames (splitOptions arguments).2 fun name =>
    change fun state =>
      match state.files.entryAt? (state.path name) with
      | some location =>
        if state.files.node? location = some .directory && (state.files.namesIn location).isEmpty
        then some (state.files.erase location) else none
      | none => none

/-- Removes files; with `-r` also directories, and with `-f` none has to be there. -/
def removeFiles (arguments : List String) : Effect Unit := do
  let (options, names) := splitOptions arguments
  if names.isEmpty then setStatus (if options.contains 'f' then 0 else 1)
  else forNames names fun name =>
    change fun state =>
      match state.files.entryAt? (state.path name) with
      | some location =>
        match state.files.node? location with
        | none => if options.contains 'f' then some state.files else none
        | some .directory =>
          if options.contains 'r' || options.contains 'R' then
            some (withoutTree state.files location)
          else none
        | some _ => some (state.files.erase location)
      | none => if options.contains 'f' then some state.files else none

/-- Where a file goes that is put under a name: into the directory of that name if there is one. -/
def targetPath (state : State) (source target : String) : Path :=
  let path := state.path target
  if state.files.isDirectory path then
    path.join (((Path.mk source).parts.getLast?.map Path.Part.text).getD "")
  else path

/-- Puts a node under a name, if the directory for it is there. -/
def placed? (state : State) (files : Files) (path : Path) (node : Node) (through : Bool) :
    Option Files :=
  if state.files.isDirectory (directoryOf path) then some (files.put path node through) else none

def copy (arguments : List String) : Effect Unit :=
  match (splitOptions arguments).2 with
  | [source, target] =>
    forNames [target] fun target => do
      match ← source? source with
      | none => return false
      | some stream => do
        let content ← await stream
        change fun state =>
          let executable := match state.files.nodeAt? (state.path source) with
            | some (.file _ executable) => executable
            | _ => false
          let path := targetPath state source target
          placed? state state.files path (.file content executable) true
  | _ => setStatus 1

def move (arguments : List String) : Effect Unit :=
  match (splitOptions arguments).2 with
  | [source, target] =>
    forNames [target] fun target =>
      change fun state => do
        let location ← state.files.entryAt? (state.path source)
        let node ← state.files.node? location
        if node = .directory then none
        placed? state (state.files.erase location) (targetPath state source target) node false
  | _ => setStatus 1

/-- Makes a link; with `-f` in place of what is there. -/
def link (arguments : List String) : Effect Unit :=
  let (options, names) := splitOptions arguments
  match names with
  | [target, name] =>
    forNames [name] fun name =>
      change fun state =>
        let path := targetPath state target name
        let taken := state.files.contains path || (state.files.linkTarget? path).isSome
        if !options.contains 's' || (taken && !options.contains 'f') then none
        else placed? state state.files path (.link ⟨target⟩) false
  | _ => setStatus 1

/-- Prints what links lead to; with `-f` what paths lead to in the end. -/
def readLink (arguments : List String) : Effect Unit := do
  let (options, names) := splitOptions arguments
  let state ← get
  forNames names fun name => do
    let path := state.path name
    match if options.contains 'f' then state.files.canonical? path
      else state.files.linkTarget? path with
    | some target => write 1 (encode target.text.toList ++ [10])
    | none => return false

/-- Prints what paths lead to in the end. -/
def realPath (arguments : List String) : Effect Unit := readLink ("-f" :: arguments)

def list (arguments : List String) : Effect Unit := do
  let (options, names) := splitOptions arguments
  let state ← get
  let outcomes ← (if names.isEmpty then ["."] else names).mapM fun name =>
    match state.files.locate (state.path name) with
    | .error _ => return false
    | .ok location =>
      if state.files.node? location = some .directory && !options.contains 'd' then
        let all := (state.files.namesIn location).eraseDups.filter fun entry =>
          options.contains 'a' || options.contains 'A' || entry.toList.head? != some '.'
        let all := if options.contains 'a' then "." :: ".." :: all else all
        let sorted := all.mergeSort fun a b => encode a.toList ≤ encode b.toList
        write 1 ((sorted.map fun entry => encode entry.toList ++ [10]).flatten)
      else write 1 (encode name.toList ++ [10])
  setStatus (if outcomes.all id then 0 else 2)

/-- Changes whether files may be executed. -/
def changeMode (arguments : List String) : Effect Unit :=
  match arguments with
  | [] => setStatus 1
  | mode :: names =>
    let digits := mode.toList.filter Char.isDigit
    let executable := if digits.isEmpty then mode.toList.contains '+' && mode.toList.contains 'x'
      else digits.any fun c => c.toNat % 2 = 1
    forNames names fun name =>
      change fun state =>
        match state.files.locate (state.path name) with
        | .ok location =>
          match state.files.node? location with
          | some (.file content before) =>
            let after := if digits.isEmpty && !mode.toList.contains 'x' then before else executable
            some (state.files.set location (.file content after))
          | _ => some state.files
        | .error _ => none

def printVariables (arguments : List String) : Effect Unit := do
  let state ← get
  let bindings := state.environment.bindings
  if arguments.isEmpty then
    answer (bindings.flatMap fun (name, value) => encode (name ++ "=" ++ value).toList ++ [10]) 0
  else forNames arguments fun name =>
    match bindings.lookup name with
    | some value => write 1 (encode value.toList ++ [10])
    | none => return false

def locate (arguments : List String) : Effect Unit := do
  let state ← get
  forNames (splitOptions arguments).2 fun name =>
    let found? := if name.toList.contains '/' then
        if state.files.isFile (state.path name) then some name else none
      else ((state.environment.searchPath.map fun directory => directory.join name).find?
        state.files.isFile).map Path.text
    match found? with
    | some path => write 1 (encode path.toList ++ [10])
    | none => return false

/-- Prints who runs the shell: always the first user. -/
def identify (arguments : List String) : Effect Unit := do
  let (options, _) := splitOptions arguments
  let has := options.contains
  if has 'u' || has 'g' || has 'G' then answerLine (if has 'n' then "root" else "0")
  else answerLine "uid=0(root) gid=0(root) groups=0(root)"

def managers : List (String × Utility) := [
  ("basename", baseName),
  ("dirname", directoryName),
  ("touch", touch),
  ("mkdir", makeDirectories),
  ("rmdir", removeDirectories),
  ("rm", removeFiles),
  ("cp", copy),
  ("mv", move),
  ("ln", link),
  ("readlink", readLink),
  ("realpath", realPath),
  ("ls", list),
  ("chmod", changeMode),
  ("printenv", printVariables),
  ("which", locate),
  ("id", identify),
  ("whoami", fun _ => answerLine "root")]

def table : List (String × Utility) :=
  basic ++ filters ++ layouts ++ searchers ++
    ("sed", edit) :: ("sort", sort) :: ("tr", replaceBytes) :: managers

end TitleBar.Shell.Utility
