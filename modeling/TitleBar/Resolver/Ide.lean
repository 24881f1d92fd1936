import TitleBar.Resolver

/-! # The hosting IDE

The display name of the IDE and the state of its debugger. `ide-mode` has a value only while
something is debugged.
-/

namespace TitleBar

structure Ide where
  displayName : String
  mode : DebugMode
deriving DecidableEq, Repr

namespace Ide

/-- The display name of an IDE that does not give another. -/
def defaultName : String := "Microsoft Visual Studio"

/-- An IDE that debugs nothing. -/
def ofName (displayName : String) : Ide := ⟨displayName, .design⟩

/-- Records the debugger state, and tells whether that is a change. -/
def setMode (ide : Ide) (mode : DebugMode) : Ide × Bool := ({ ide with mode }, ide.mode != mode)

/-- Whether a tag is worth substituting. -/
def gate (situation : Situation) (tag : String) : Bool :=
  tag != "ide-mode" || situation.mode != .design

def value (ide : Ide) (situation : Situation) (tag : String) : String :=
  if tag = "ide-name" then ide.displayName
  else if tag = "ide-mode" then situation.mode.title
  else ""

def resolver (ide : Ide) : Resolver :=
  { name := "ide"
    tags := ["ide-name", "ide-mode"]
    available := true
    settled := true
    gate := Ide.gate
    value := ide.value
    verdict := Resolver.gatedVerdict "ide" Ide.gate ide.value }

end Ide

end TitleBar
