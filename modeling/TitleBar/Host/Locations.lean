import TitleBar.Host.Environment
import TitleBar.Solution

/-! # Where rule files are

The rule file of a user is the one that is named on the command line, or else by a variable, or
else one in the directory of configuration files. The rule file of a solution lies beside it.
-/

namespace TitleBar

def ruleFileName : String := "shellbent.toml"

/-- The name of the directory that holds the rule file of a user. -/
def ruleDirectoryName : String := "shellbent"

def ruleFileVariable : String := "SHELLBENT_CONFIG"

inductive LocationError where
  /-- There is no directory of configuration files. -/
  | noDirectory
  /-- A variable in a path is not set. -/
  | expansion (path : String) (cause : Environment.NotSet)
deriving DecidableEq, Repr

def LocationError.message : LocationError → String
  | .noDirectory => "Could not find system config directory."
  | .expansion path cause => "Could not expand path '" ++ path ++ "': " ++ cause.message

namespace Environment

/-- The path that a user writes with `~` and variables. -/
def expandPath? (env : Environment) (raw : String) : Except LocationError Path :=
  match env.expand? raw with
  | .ok text => .ok ⟨text⟩
  | .error cause => .error (.expansion raw cause)

/-- The rule file of the user; `explicit` is its path on the command line. -/
def userRuleFile? (env : Environment) (explicit : Option String) : Except LocationError Path :=
  match explicit with
  | some raw => env.expandPath? raw
  | none =>
    let named := String.ofList (Text.trim ((env.get? ruleFileVariable).getD "").toList)
    if !named.isEmpty then env.expandPath? named
    else match env.configDirectory? with
      | some directory => .ok ((directory.join ruleDirectoryName).join ruleFileName)
      | none => .error .noDirectory

end Environment

/-- The rule file that lies beside a solution. -/
def Solution.ruleFile (solution : Solution) : Path := solution.directory.join ruleFileName

end TitleBar
