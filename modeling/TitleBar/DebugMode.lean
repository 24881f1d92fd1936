import TitleBar.Text.Blank
import TitleBar.Text.Lowercase

/-! # Debugger states

The state of the debugger of the hosting IDE, as a host reports it and as a command line names it.
-/

namespace TitleBar

open Text

/-- The state of the debugger. -/
inductive DebugMode where
  /-- Nothing is being debugged. -/
  | design
  /-- A debuggee runs. -/
  | run
  /-- A debuggee stands at a breakpoint. -/
  | broken
deriving DecidableEq, Repr, Inhabited

namespace DebugMode

/-- A text that names no debugger state; `text` is the trimmed text in lower case. -/
structure Unknown where
  text : String
deriving DecidableEq, Repr

def Unknown.message (error : Unknown) : String :=
  "Unknown debug mode '" ++ error.text ++ "'. Expected one of: design, run, break."

/-- Reads a debugger state, without regard to case and surrounding white space. -/
def ofString? (text : String) : Except Unknown DebugMode :=
  let name := String.ofList (lowercase (trim text.toList))
  if name = "design" then .ok .design
  else if name ∈ ["run", "running"] then .ok .run
  else if name ∈ ["break", "debug", "debugging"] then .ok .broken
  else .error ⟨name⟩

/-- The name by which a debugger state is reported. -/
def toString : DebugMode → String
  | design => "design"
  | run => "run"
  | broken => "break"

instance : ToString DebugMode := ⟨toString⟩

/-- The name of a debugger state in a debug listing. -/
def capitalName : DebugMode → String
  | design => "Design"
  | run => "Run"
  | broken => "Break"

/-- What the `ide-mode` tag shows. -/
def title : DebugMode → String
  | design => ""
  | run => "(Running)"
  | broken => "(Debugging)"

end DebugMode

end TitleBar
