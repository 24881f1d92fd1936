import TitleBar.Host.Files

/-! # Scripts of commands

Reading a repository takes several commands, and later ones may depend on the output of earlier
ones. A script is the whole of such a reading, as a tree: each node asks the host for one thing and
goes on with the answer.
-/

namespace TitleBar

/-- A command: a program with its arguments, and the directory that it runs in. -/
structure Command where
  directory : Path
  program : Path
  arguments : List String
deriving DecidableEq, Repr

/-- The command as it would be typed. -/
def Command.line (command : Command) : String :=
  String.intercalate " " (command.program.text :: command.arguments)

/-- A script that ends with an answer. -/
inductive Script (α : Type) where
  | done (answer : α)
  /-- Looks at the files. -/
  | look (next : Files → Script α)
  /-- Asks where a program is; the answer is `none` when it is not installed. -/
  | locate (program : String) (next : Option Path → Script α)
  /-- Runs a command; the answer is the lines of its output, or `none` when it failed. -/
  | run (command : Command) (next : Option (List String) → Script α)

namespace Script

variable {α β : Type}

def bind : Script α → (α → Script β) → Script β
  | done answer, f => f answer
  | look next, f => look fun files => (next files).bind f
  | locate program next, f => locate program fun path => (next path).bind f
  | run command next, f => run command fun output => (next output).bind f

instance : Monad Script where
  pure := done
  bind := Script.bind

def map (f : α → β) (script : Script α) : Script β := script.bind fun answer => done (f answer)

/-- The files at this point. -/
def files : Script Files := look done

/-- The output of a command at this point. -/
def capture (command : Command) : Script (Option (List String)) := run command done

/-- The answer of a script on a host that does not change, given the outcome of each command. -/
def eval (files : Files) (installed : String → Option Path)
    (output : Command → Option (List String)) : Script α → α
  | done answer => answer
  | look next => (next files).eval files installed output
  | locate program next => (next (installed program)).eval files installed output
  | run command next => (next (output command)).eval files installed output

/-- The commands that a script runs on such a host, in order. -/
def commands (files : Files) (installed : String → Option Path)
    (output : Command → Option (List String)) : Script α → List Command
  | done _ => []
  | look next => (next files).commands files installed output
  | locate program next => (next (installed program)).commands files installed output
  | run command next => command :: (next (output command)).commands files installed output

theorem eval_bind (files : Files) (installed : String → Option Path)
    (output : Command → Option (List String)) (script : Script α) (f : α → Script β) :
    (script.bind f).eval files installed output =
      (f (script.eval files installed output)).eval files installed output := by
  induction script with
  | done => rfl
  | look next ih => exact ih files
  | locate program next ih => exact ih (installed program)
  | run command next ih => exact ih (output command)

theorem eval_do_bind (files : Files) (installed : String → Option Path)
    (output : Command → Option (List String)) (script : Script α) (f : α → Script β) :
    (script >>= f).eval files installed output =
      (f (script.eval files installed output)).eval files installed output :=
  eval_bind files installed output script f

theorem eval_do_pure (files : Files) (installed : String → Option Path)
    (output : Command → Option (List String)) (answer : α) :
    (pure answer : Script α).eval files installed output = answer := rfl

theorem commands_bind (files : Files) (installed : String → Option Path)
    (output : Command → Option (List String)) (script : Script α) (f : α → Script β) :
    (script.bind f).commands files installed output =
      script.commands files installed output ++
        (f (script.eval files installed output)).commands files installed output := by
  induction script with
  | done => rfl
  | look next ih => exact ih files
  | locate program next ih => exact ih (installed program)
  | run command next ih => simp [bind, commands, eval, ih (output command)]

theorem commands_do_bind (files : Files) (installed : String → Option Path)
    (output : Command → Option (List String)) (script : Script α) (f : α → Script β) :
    (script >>= f).commands files installed output =
      script.commands files installed output ++
        (f (script.eval files installed output)).commands files installed output :=
  commands_bind files installed output script f

theorem commands_do_pure (files : Files) (installed : String → Option Path)
    (output : Command → Option (List String)) (answer : α) :
    (pure answer : Script α).commands files installed output = [] := rfl

end Script

end TitleBar
