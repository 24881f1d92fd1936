import TitleBar.CommandLine.Grammar

/-! # Invocations

The first argument names a command, and all that follows is for the command to read, names of
options included. Only what the program itself knows, which is asking for help or for the version,
is recognised right behind the command too.
-/

namespace TitleBar.CommandLine

structure Invocation where
  command : Option String
  arguments : List String
deriving DecidableEq, Repr

namespace Invocation

/-- The command and the arguments of a list of plain texts. -/
def ofTexts : List String → Invocation
  | [] => ⟨none, []⟩
  | command :: arguments => ⟨some command, arguments⟩

/-- What a long name of the program itself asks for. -/
def longStop? : String → Option Stop
  | "help" => some .help
  | "version" => some .version
  | _ => none

/-- What a one-letter name of the program itself asks for. -/
def shortStop? : Char → Option Stop
  | 'h' => some .help
  | 'V' => some .version
  | _ => none

/-- What a long name leads to when the program knows it. -/
def knownLong? (name : String) (value? : Option String) : Option Stop :=
  (longStop? name).map fun stop => if value?.isSome then .usage .unexpectedValue else stop

/-- What one-letter names lead to when the program knows all of them. -/
def knownShort? (letters : List Char) : Option Stop :=
  if letters.all fun letter => (shortStop? letter).isSome then letters.head?.bind shortStop?
  else none

def readArguments (command : String) : List String → Except Stop Invocation
  | [] => .ok ⟨some command, []⟩
  | argument :: rest =>
    let all : Invocation := ⟨some command, argument :: rest⟩
    match Form.of argument with
    | .escape => .ok ⟨some command, rest⟩
    | .long name value? =>
      match knownLong? name value? with
      | some stop => .error stop
      | none => .ok all
    | .short letters =>
      match knownShort? letters with
      | some stop => .error stop
      | none => .ok all
    | .plain => .ok all

def read : List String → Except Stop Invocation
  | [] => .ok ⟨none, []⟩
  | argument :: rest =>
    match Form.of argument with
    | .escape => .ok (ofTexts rest)
    | .long name value? => .error ((knownLong? name value?).getD (.usage .unknownArgument))
    | .short letters =>
      .error ((letters.head?.bind shortStop?).getD (.usage .unknownArgument))
    | .plain => readArguments argument rest

end Invocation

end TitleBar.CommandLine
