import TitleBar.Host.Environment
import TitleBar.Shell.Manage

/-! # Launching programs

What runs when a file is executed. A file of a system directory is a program of the system; any
other one is a script, whose first line names the program that interprets it.
-/

namespace TitleBar

inductive LaunchError where
  /-- The program, its directory or its interpreter does not exist. -/
  | missing
  /-- It is no file that may be executed. -/
  | denied
  /-- A part of a path that has to be a directory is none. -/
  | notDirectory
  /-- The file is no program. -/
  | badFormat
  /-- A path leads through too many links, or interpreters call each other. -/
  | linkLoop
  /-- A path or a name is too long. -/
  | tooLong
  /-- A text contains a zero byte. -/
  | zeroByte
deriving DecidableEq, Repr

def LaunchError.message : LaunchError → String
  | .missing => "No such file or directory (os error 2)"
  | .denied => "Permission denied (os error 13)"
  | .notDirectory => "Not a directory (os error 20)"
  | .badFormat => "Exec format error (os error 8)"
  | .linkLoop => "Too many levels of symbolic links (os error 40)"
  | .tooLong => "File name too long (os error 36)"
  | .zeroByte => "nul byte found in provided data"

def Fault.launchError : Fault → LaunchError
  | .missing => .missing
  | .notDirectory => .notDirectory
  | .linkLoop => .linkLoop
  | .tooLong => .tooLong

/-- How a program runs another one. -/
inductive Launcher where
  /-- In an environment that its arguments change. -/
  | environment
  /-- No longer than its first argument says. -/
  | limit
  /-- As it is. -/
  | plain
  /-- For words that are read. -/
  | batch
deriving DecidableEq, Repr

inductive SystemProgram where
  /-- A shell; `escapes` tells whether its `echo` knows escapes. -/
  | shell (escapes : Bool)
  | launcher (kind : Launcher)
  | utility (run : Shell.Utility)

def systemPrograms : List (String × SystemProgram) :=
  [("dash", .shell true), ("bash", .shell false),
    ("env", .launcher .environment), ("timeout", .launcher .limit), ("nohup", .launcher .plain),
    ("nice", .launcher .plain), ("xargs", .launcher .batch)] ++
    Shell.Utility.table.map fun (name, run) => (name, .utility run)

def systemDirectory : Location := ["usr", "bin"]

/-- The names in the system that lead to another place. -/
def systemLinks : List (Location × Path) := [
  (["bin"], ⟨"usr/bin"⟩), (systemDirectory ++ ["sh"], ⟨"dash"⟩)]

def systemProgram? (location : Location) : Option SystemProgram :=
  if location.dropLast = systemDirectory then
    location.getLast?.bind fun name => systemPrograms.lookup name
  else none

namespace Files

/-- The files of a system that holds nothing but its programs. -/
def system : Files :=
  ⟨[(systemDirectory.take 1, .directory), (systemDirectory, .directory)] ++
    (systemLinks.map fun (location, target) => (location, .link target)) ++
    systemPrograms.map fun (name, _) => (systemDirectory ++ [name], .file [] true)⟩

/-- A text without spaces and tabs at either end. -/
def withoutMargins (text : List Char) : List Char :=
  let margin := fun c : Char => c == ' ' || c == '\t'
  ((text.dropWhile margin).reverse.dropWhile margin).reverse

/-- The interpreter that the first line of a script names, and the argument behind it. -/
def interpreter? (content : List UInt8) : Option (Path × List String) :=
  match content with
  | 35 :: 33 :: rest =>
    let line := withoutMargins ((Text.decode (rest.takeWhile (· != 10))).toOption.getD [])
    let name := line.takeWhile fun c => c != ' ' && c != '\t'
    let argument := withoutMargins (line.drop name.length)
    if name.isEmpty then none
    else some (⟨String.ofList name⟩,
      if argument.isEmpty then [] else [String.ofList argument])
  | _ => none

/-- The program that runs when a path is executed, with its arguments; at most `depth` scripts
interpret each other. Relative paths start at `directory`. -/
def program? (files : Files) (directory path : Path) (arguments : List String) :
    Nat → Except LaunchError (SystemProgram × List String)
  | 0 => .error .linkLoop
  | depth + 1 => do
    let location ← (files.locate (directory.join path.text)).mapError Fault.launchError
    match files.node? location with
    | some (.file content true) =>
      match systemProgram? location with
      | some program => return (program, arguments)
      | none =>
        match interpreter? content with
        | some (interpreter, option) =>
          files.program? directory interpreter (option ++ path.text :: arguments) depth
        | none => throw .badFormat
    | _ => throw .denied

/-- The program that runs when a name is executed, as the search path finds it. Files that may not
be executed are passed over, but remembered. -/
def searchProgram? (files : Files) (directory : Path) (name : String) (arguments : List String)
    (otherwise : LaunchError) :
    List Path → Except LaunchError (SystemProgram × List String)
  | [] => .error otherwise
  | place :: places =>
    match files.program? directory (place.join name) arguments 5 with
    | .ok program => .ok program
    | .error .denied => files.searchProgram? directory name arguments .denied places
    | .error .missing | .error .notDirectory =>
      files.searchProgram? directory name arguments otherwise places
    | .error error => .error error

/-- The program that runs when it is called in a directory by a path or by a name. -/
def launch? (files : Files) (env : Environment) (directory path : Path)
    (arguments : List String) : Except LaunchError (SystemProgram × List String) :=
  if path.text.isEmpty then .error .missing
  else if path.text.toList.contains '/' then files.program? directory path arguments 5
  else files.searchProgram? directory path.text arguments .missing env.searchPath

end Files

end TitleBar
