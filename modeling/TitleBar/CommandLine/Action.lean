import TitleBar.CommandLine.Help
import TitleBar.CommandLine.Invocation
import TitleBar.CommandLine.Listing
import TitleBar.CommandLine.Opening
import TitleBar.Data.Json
import TitleBar.Data.Line

/-! # Commands

What each command prints, and how the program as a whole ends.
-/

namespace TitleBar.CommandLine

inductive Action where
  /-- Prints the title bar of a solution. -/
  | render
  /-- Prints it, and again after each change. -/
  | watch
  /-- Expands a template. -/
  | expand
  /-- Lists all tags. -/
  | tags
  /-- Lists what is installed. -/
  | check
deriving DecidableEq, Repr

def Action.ofName? : String → Option Action
  | "render" | "show" => some .render
  | "watch" => some .watch
  | "expand" | "x" => some .expand
  | "tags" | "ls" => some .tags
  | "doctor" => some .check
  | _ => none

inductive Failure where
  /-- Its arguments make no request. -/
  | stop (stop : Stop)
  | opening (error : OpeningError)
deriving DecidableEq, Repr

structure Printout where
  output : String
  errors : String
deriving DecidableEq, Repr

def unlines (lines : List String) : String := String.join (lines.map (· ++ "\n"))

def printedTitleBar (palette : Palette) (json : Bool) (data : TitleBarData) : String :=
  if json then unlines [data.json.write] else unlines (data.line palette :: data.details palette)

def request {Request : Type} (grammar : Grammar Request) (arguments : List String) :
    Except Failure Request :=
  (grammar.read arguments).mapError Failure.stop

def sessionOf (host : Host) (options : SessionOptions) (solution : Option String) :
    Except Failure Session :=
  (openSession host options solution).mapError Failure.opening

/-- Runs a command. Watching is asked to stop as soon as the title bar has been printed once. -/
def Action.run (host : Host) (palette : Palette) (arguments : List String) :
    Action → Except Failure Printout
  | render => do
    let request ← request RenderRequest.grammar arguments
    let session ← sessionOf host request.session (some request.solution)
    return ⟨printedTitleBar palette request.json session.titleBar, ""⟩
  | watch => do
    let request ← request RenderRequest.grammar arguments
    let session ← sessionOf host request.session (some request.solution)
    let session := session.watchRules host.files
    let faint := Style.faint.apply palette
    return ⟨printedTitleBar palette request.json session.titleBar,
      unlines [faint "Watching for changes. Press Ctrl+C to stop.", faint "Stopped."]⟩
  | expand => do
    let request ← request ExpandRequest.grammar arguments
    let session ← sessionOf host request.session request.solution
    return ⟨unlines [session.expand request.template], ""⟩
  | tags => do
    let request ← request TagsRequest.grammar arguments
    let session ← sessionOf host request.session request.solution
    return ⟨unlines (tagLines palette session.lookup.rows.answer), ""⟩
  | check => do
    request checkGrammar arguments
    return ⟨unlines (hostLines host palette), ""⟩

structure Exit where
  code : Nat
  printout : Printout
deriving DecidableEq, Repr

def UsageError.message : UsageError → String
  | .missingRequired => "a required argument is missing"
  | .unknownArgument => "an argument is not known"
  | .missingValue => "an option has no value"
  | .invalidValue => "the value of an option does not fit it"
  | .repeated => "an argument is given twice"
  | .unexpectedValue => "a flag has a value"

/-- How many colors the terminal has once styles are printed at all. -/
def colorPalette (env : Environment) : Palette :=
  if env.get? "COLORTERM" = some "truecolor" ∨ env.get? "COLORTERM" = some "24bit" then .full
  else .named

/-- Whether styles are asked for though the output goes to no terminal. -/
def stylesForced (env : Environment) : Bool := (env.get? "CLICOLOR_FORCE").any (· != "0")

/-- The styles of what is printed. -/
def palette (env : Environment) : Palette :=
  if stylesForced env then colorPalette env else .plain

/-- The styles of the help, which can be turned off in one more way. -/
def helpPalette (env : Environment) : Palette :=
  if (env.get? "NO_COLOR").any (!·.isEmpty) then .plain else palette env

/-- The end of the program when arguments make no request. -/
def Stop.exit (env : Environment) : Stop → Exit
  | .help => ⟨0, helpText (helpPalette env), ""⟩
  | .version => ⟨0, versionLine, ""⟩
  | .usage error => ⟨2, "", "error: " ++ error.message ++ "\n"⟩

/-- The end of the program after an error. -/
def errorExit (env : Environment) (message : String) : Exit :=
  let label := { Style.strong with foreground := some .red }.apply (palette env) "Error"
  ⟨1, "", "\n" ++ label ++ ": " ++ message ++ "\n"⟩

def unknownCommand (name : String) : String :=
  "Unknown command '" ++ name ++ "'. Run 'shellbent --help' for the list of commands."

/-- Runs the program. Without a command it prints the help. -/
def run (host : Host) (arguments : List String) : Exit :=
  let env := host.environment
  match Invocation.read arguments with
  | .error stop => stop.exit env
  | .ok ⟨none, _⟩ => Stop.help.exit env
  | .ok ⟨some name, arguments⟩ =>
    match Action.ofName? name with
    | none => errorExit env (unknownCommand name)
    | some action =>
      match action.run host (palette env) arguments with
      | .ok printout => ⟨0, printout⟩
      | .error (.stop stop) => stop.exit env
      | .error (.opening error) => errorExit env error.message

end TitleBar.CommandLine
