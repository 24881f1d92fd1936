import TitleBar.CommandLine.Grammar
import TitleBar.CommandLine.Listing

/-! # What a run looks at

The variables and files that a run of the program may look at, as far as its arguments and its
environment tell. A host is made of these before the program runs.
-/

namespace TitleBar.CommandLine

/-- The variables that the program itself knows. -/
def knownVariables : List String :=
  ["HOME", "XDG_CONFIG_HOME", "PATH", ruleFileVariable, "COLORTERM", "CLICOLOR_FORCE", "NO_COLOR"]

def pieceVariable? : Environment.Piece → Option String
  | .plain _ => none
  | .variable name _ => some (String.ofList name)

def variablesIn (text : String) : List String :=
  (Environment.pieces text.toList).filterMap pieceVariable?

/-- The value behind an equals sign, or else the whole argument. -/
def argumentValue (argument : String) : String :=
  match Form.of argument with
  | .long _ (some value) => value
  | _ => argument

def namedPaths (env : Environment) (arguments : List String) : List Path :=
  arguments.filterMap fun argument => (env.expandPath? (argumentValue argument)).toOption

/-- The paths that matter when a path is opened as a solution: rule files beside or below it, and
the marks of source control above it. -/
def pathsAround (path : Path) : List Path :=
  [path.join ruleFileName] ++
  path.ancestors.flatMap fun above =>
    [above, above.join ruleFileName, above.join ".git", above.join ".svn", above.join ".versionr"]

def toolPaths (env : Environment) : List Path :=
  env.searchPath.flatMap fun directory => versionCalls.map fun (tool, _) => directory.join tool

/-- The paths that a run may look at. -/
def surveyedPaths (env : Environment) (arguments : List String) : List Path :=
  (env.userRuleFile? none).toOption.toList ++
  (namedPaths env arguments).flatMap pathsAround ++
  toolPaths env

end TitleBar.CommandLine
