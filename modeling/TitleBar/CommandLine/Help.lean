import TitleBar.Text.Styled

/-! # Help

The help of the program, and its version.
-/

namespace TitleBar.CommandLine

def programName : String := "shellbent"

def programVersion : String := "0.3.1-beta"

inductive Passage where
  | plain (text : String)
  | title (text : String)
  /-- The name of a command. -/
  | command (text : String)
  /-- An option, or an argument of a command. -/
  | option (text : String)
  | faint (text : String)
deriving DecidableEq, Repr

def Passage.print (palette : Palette) : Passage → String
  | plain text => text
  | title text => { Style.strong with foreground := some .yellow }.apply palette text
  | command text => (Style.colored .cyan).apply palette text
  | option text => { Style.strong with foreground := some .cyan }.apply palette text
  | faint text => Style.faint.apply palette text

def helpPassages : List Passage := [
  .title programName, .plain (" " ++ programVersion ++
    "\nTitle bar captions, colors and info blocks computed from solution and source-control state.\n\n"),
  .title "USAGE:", .plain "\n    shellbent ", .command "<command>", .plain " [args...]\n\n",
  .title "COMMANDS:",
  .plain "\n    ", .command "render", .plain " ", .option "<solution>",
  .plain "     Print the title bar computed for a solution.",
  .plain "\n    ", .command "watch", .plain " ", .option "<solution>",
  .plain "      Re-print the title bar whenever something changes.",
  .plain "\n    ", .command "expand", .plain " ", .option "<template>",
  .plain "     Expand one template, e.g. ", .faint "'$solution-name ($git-branch)'", .plain ".",
  .plain "\n    ", .command "tags",
  .plain "                  List every tag with its owner and current value.",
  .plain "\n    ", .command "doctor",
  .plain "                Check which source-control tools are installed.\n\n",
  .title "COMMON OPTIONS:",
  .plain "\n    ", .option "--config", .plain " ", .faint "<path>",
  .plain "       User rule file (default: ", .faint "$SHELLBENT_CONFIG",
  .plain " or the config dir).",
  .plain "\n    ", .option "--mode", .plain " ", .faint "<mode>",
  .plain "         Debugger state: design, run or break.",
  .plain "\n    ", .option "--solution", .plain " ", .faint "<path>",
  .plain "     Solution file or folder (expand, tags).\n\nSet ",
  .option "RUST_LOG=debug", .plain " to see what the resolvers are doing.\n"]

def helpText (palette : Palette) : String := String.join (helpPassages.map (Passage.print palette))

def versionLine : String := programName ++ " " ++ programVersion ++ "\n"

end TitleBar.CommandLine
