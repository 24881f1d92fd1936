import TitleBar.Host.Locations
import TitleBar.Host.Process
import TitleBar.Resolver.Lookup
import TitleBar.Text.Lines
import TitleBar.Text.Styled

/-! # Listings

The listing of all tags, and the listing of what a host has installed. Columns are padded before
they are styled.
-/

namespace TitleBar.CommandLine

def shownValue (palette : Palette) : Option String → String
  | none => Style.faint.apply palette "unresolvable"
  | some value =>
    if value.isEmpty then Style.faint.apply palette "\"\""
    else (Style.colored .green).apply palette value

def tagLine (palette : Palette) (row : Lookup.Row) : String :=
  "  " ++ (Style.colored .cyan).apply palette (padRight 26 row.tag) ++ " " ++
    padRight 10 row.owner ++ " " ++ shownValue palette row.value?

def tagHeading (palette : Palette) : String :=
  let strong := Style.strong.apply palette
  "  " ++ strong (padRight 26 "TAG") ++ " " ++ strong (padRight 10 "OWNER") ++ " " ++ strong "VALUE"

def tagLines (palette : Palette) (rows : List Lookup.Row) : List String :=
  "" :: tagHeading palette :: rows.map (tagLine palette)

/-- The tools of source control, and the arguments with which each tells its version. -/
def versionCalls : List (String × List String) := [
  ("git", ["--version"]),
  ("svn", ["--version", "--quiet"]),
  ("vsr", ["--version"]),
  ("p4", ["-V"])]

/-- The first line of a text that is not blank, trimmed; empty when there is none. -/
def firstLine (text : String) : String :=
  let lines := (Text.lines text.toList).map Text.trim
  String.ofList ((lines.find? (!·.isEmpty)).getD [])

def toolState (host : Host) (palette : Palette) (tool : String) (arguments : List String) :
    String :=
  match findProgram? host.environment host.files tool with
  | none => (Style.colored .yellow).apply palette "not found on PATH"
  | some program =>
    match (host.output? ⟨⟨"/"⟩, program, arguments⟩ Host.toolLimit).1 with
    | .ok output =>
      (Style.colored .green).apply palette (firstLine output) ++ " (" ++ program.text ++ ")"
    | .error error => (Style.colored .red).apply palette error.message

/-- What is said about the rule file of the user. -/
def ruleFileState (host : Host) (palette : Palette) : String :=
  match host.environment.userRuleFile? none with
  | .ok path =>
    path.text ++ " " ++
      (if host.files.isFile path then (Style.colored .green).apply palette "found"
      else Style.faint.apply palette "missing (built-in defaults apply)")
  | .error error => (Style.colored .red).apply palette error.message

def partHeading (palette : Palette) (title : String) : String :=
  "--- " ++ (Style.colored .yellow).apply palette title ++ " ---"

def namedLine (palette : Palette) (name state : String) : String :=
  "  " ++ (Style.colored .blue).apply palette (padRight 6 name) ++ " " ++ state

def hostLines (host : Host) (palette : Palette) : List String :=
  ["", partHeading palette "Source control"] ++
  (versionCalls.map fun (tool, arguments) =>
    namedLine palette tool (toolState host palette tool arguments)) ++
  ["", partHeading palette "Rules", namedLine palette "user" (ruleFileState host palette)]

end TitleBar.CommandLine
