import TitleBar.Text.Blank

/-! # Arguments

How the arguments of a command are read. A grammar says which options, flags and positional
arguments there are and what each of them changes in a request, which starts from its defaults.

An option that waits for its value, or whose value stands in an argument of its own, is looked at
when the next argument that belongs to something else is read. So an argument that nothing takes is
reported before a fault of the option in front of it.
-/

namespace TitleBar.CommandLine

inductive UsageError where
  /-- A positional argument is missing. -/
  | missingRequired
  /-- Nothing takes an argument. -/
  | unknownArgument
  /-- An option has no value. -/
  | missingValue
  /-- The value of an option does not fit it. -/
  | invalidValue
  /-- An option or a flag is given twice. -/
  | repeated
  /-- A flag has a value. -/
  | unexpectedValue
deriving DecidableEq, Repr

/-- Why arguments do not lead to a request. -/
inductive Stop where
  /-- They ask for help. -/
  | help
  /-- They ask for the version. -/
  | version
  | usage (error : UsageError)
deriving DecidableEq, Repr

inductive Form where
  /-- The argument `--`, behind which all arguments are positional. -/
  | escape
  /-- A long name, perhaps with a value behind an equals sign. -/
  | long (name : String) (value? : Option String)
  /-- One-letter names. -/
  | short (letters : List Char)
  /-- Any other text. -/
  | plain
deriving DecidableEq, Repr

/-- Splits a long name from its value. -/
def Form.ofLong (text : List Char) : Form :=
  match text.dropWhile (· != '=') with
  | _ :: value => .long (String.ofList (text.takeWhile (· != '='))) (some (String.ofList value))
  | [] => .long (String.ofList text) none

/-- The form of an argument. A lone `-` is a plain text. -/
def Form.of (argument : String) : Form :=
  match argument.toList with
  | ['-', '-'] => .escape
  | '-' :: '-' :: text => .ofLong text
  | '-' :: letter :: letters => .short (letter :: letters)
  | _ => .plain

/-- Which arguments there are, and what each of them changes in a request. -/
structure Grammar (Request : Type) where
  /-- The request without any arguments. -/
  defaults : Request
  /-- The options by their names; a value that does not fit gives `none`. -/
  options : List (String × (String → Request → Option Request))
  /-- The flags by their names. -/
  flags : List (String × (Request → Request))
  /-- The positional arguments in their order; all are required. -/
  positionals : List (String → Request → Request)

structure Reading (Request : Type) where
  request : Request
  /-- The options and flags that were taken. -/
  taken : List String
  /-- The option that was read last, if it was not looked at yet, with its value. -/
  pending : Option (String × Option String)
  /-- The positional arguments that are still to come. -/
  positionals : List (String → Request → Request)

namespace Grammar

variable {Request : Type}

def takeOption (grammar : Grammar Request) (reading : Reading Request) (name : String)
    (value? : Option String) : Except Stop (Reading Request) :=
  match grammar.options.lookup name, value? with
  | none, _ => .error (.usage .unknownArgument)
  | some _, none => .error (.usage .missingValue)
  | some change, some value =>
    if name ∈ reading.taken then .error (.usage .repeated)
    else match change value reading.request with
      | some request => .ok { reading with request, taken := name :: reading.taken }
      | none => .error (.usage .invalidValue)

/-- Looks at the option that was read last. -/
def resolve (grammar : Grammar Request) (reading : Reading Request) :
    Except Stop (Reading Request) :=
  match reading.pending with
  | none => .ok reading
  | some (name, value?) => grammar.takeOption { reading with pending := none } name value?

def takeFlag (reading : Reading Request) (name : String) (change : Request → Request) :
    Except Stop (Reading Request) :=
  if name ∈ reading.taken then .error (.usage .repeated)
  else .ok { reading with request := change reading.request, taken := name :: reading.taken }

def readLong (grammar : Grammar Request) (reading : Reading Request) (name : String)
    (value? : Option String) : Except Stop (Reading Request) :=
  match grammar.options.lookup name, grammar.flags.lookup name, value? with
  | some _, _, some value => do grammar.takeOption (← grammar.resolve reading) name (some value)
  | some _, _, none => do return { ← grammar.resolve reading with pending := some (name, none) }
  | none, some _, some _ => .error (.usage .unexpectedValue)
  | none, some change, none => do takeFlag (← grammar.resolve reading) name change
  | none, none, value? =>
    if name ≠ "help" then .error (.usage .unknownArgument)
    else if value?.isSome then .error (.usage .unexpectedValue)
    else do
      let _ ← grammar.resolve reading
      .error .help

/-- Reads one-letter names, of which there is only the one that asks for help. -/
def readShort (grammar : Grammar Request) (reading : Reading Request) (letters : List Char) :
    Except Stop (Reading Request) :=
  if letters.head? ≠ some 'h' then .error (.usage .unknownArgument)
  else do
    let _ ← grammar.resolve reading
    .error .help

def readPositional (grammar : Grammar Request) (reading : Reading Request) (argument : String) :
    Except Stop (Reading Request) :=
  match reading.positionals with
  | [] => .error (.usage .unknownArgument)
  | change :: positionals => do
    let reading ← grammar.resolve reading
    return { reading with request := change argument reading.request, positionals }

/-- Reads a plain text: the value of the option in front of it, or else a positional argument. -/
def readPlain (grammar : Grammar Request) (reading : Reading Request) (argument : String) :
    Except Stop (Reading Request) :=
  match reading.pending with
  | some (name, none) => .ok { reading with pending := some (name, some argument) }
  | _ => grammar.readPositional reading argument

/-- Reads arguments one after the other. -/
def readAll (grammar : Grammar Request) (reading : Reading Request) :
    List String → Except Stop (Reading Request)
  | [] => grammar.resolve reading
  | argument :: rest =>
    match Form.of argument with
    | .escape => do grammar.resolve (← rest.foldlM grammar.readPositional reading)
    | .long name value? => do grammar.readAll (← grammar.readLong reading name value?) rest
    | .short letters => do grammar.readAll (← grammar.readShort reading letters) rest
    | .plain => do grammar.readAll (← grammar.readPlain reading argument) rest

def read (grammar : Grammar Request) (arguments : List String) : Except Stop Request := do
  let reading ← grammar.readAll ⟨grammar.defaults, [], none, grammar.positionals⟩ arguments
  if reading.positionals.isEmpty then return reading.request
  else throw (.usage .missingRequired)

end Grammar

end TitleBar.CommandLine
