import TitleBar.Repository.Script

/-! # Tools

The programs that a host has installed, and how they answer. A program may take its time.
-/

namespace TitleBar

structure Reply where
  /-- The lines of its output; `none` when it failed. -/
  output : Option (List String)
  /-- How long it runs, in milliseconds. -/
  duration : Nat
deriving DecidableEq, Repr

structure Tools where
  /-- Where a program is. -/
  locate : Files → String → Option Path
  /-- How a command ends when it is started on the given files. -/
  reply : Files → Command → Reply

/-- Answers that are fixed beforehand: which programs are installed, the output of commands by the
way they are typed, and how many seconds commands take. -/
structure Answers where
  installed : List String
  outputs : List (String × List String)
  seconds : List (String × Nat)
deriving Repr

namespace Answers

def put {α : Type} (key : String) (value : α) (pairs : List (String × α)) : List (String × α) :=
  (key, value) :: pairs.filter (·.1 != key)

def respond (answers : Answers) (line : String) (output : List String) : Answers :=
  { answers with outputs := put line output answers.outputs }

def fail (answers : Answers) (line : String) : Answers :=
  { answers with outputs := answers.outputs.filter (·.1 != line) }

def delay (answers : Answers) (line : String) (seconds : Nat) : Answers :=
  { answers with seconds := put line seconds answers.seconds }

def install (answers : Answers) (program : String) : Answers :=
  { answers with installed := program :: answers.installed }

def uninstall (answers : Answers) (program : String) : Answers :=
  { answers with installed := answers.installed.filter (· != program) }

/-- The tools that answer this way. An installed program is found under its own name. -/
def tools (answers : Answers) : Tools :=
  { locate := fun _ program => if answers.installed.contains program then some ⟨program⟩ else none
    reply := fun _ command =>
      ⟨answers.outputs.lookup command.line, 1000 * (answers.seconds.lookup command.line).getD 0⟩ }

end Answers

end TitleBar
