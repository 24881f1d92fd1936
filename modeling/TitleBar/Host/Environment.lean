import TitleBar.Path
import TitleBar.Text.Alphanumeric

/-! # Environment variables

Variables, the paths that are written with them, and the directories that they name. In a path a
leading `~` stands for the home directory, `$NAME` and `${NAME}` for a variable, and
`${NAME:-text}` for a variable or else the text. What a variable holds is not expanded again.
-/

namespace TitleBar

open Text

/-- The variables that a program is started with, and the home directory that the system knows for
its user. -/
structure Environment where
  bindings : List (String × String)
  accountHome : Option String
deriving DecidableEq, Repr, Inhabited

namespace Environment

/-- The value of a variable: what follows the name and an equals sign where a variable is written
that way. So a name with an equals sign in it may lead into the value of another variable. -/
def get? (env : Environment) (name : String) : Option String :=
  if name.isEmpty then none
  else env.bindings.findSome? fun (key, value) =>
    (strip? (name.toList ++ ['=']) (key.toList ++ '=' :: value.toList)).map String.ofList

def home? (env : Environment) : Option Path :=
  match env.get? "HOME" with
  | some home => if home.isEmpty then env.accountHome.map Path.mk else some ⟨home⟩
  | none => env.accountHome.map Path.mk

def configDirectory? (env : Environment) : Option Path :=
  match (env.get? "XDG_CONFIG_HOME").map Path.mk with
  | some directory =>
    if directory.isAbsolute then some directory else env.home?.map (·.join ".config")
  | none => env.home?.map (·.join ".config")

/-- The directories in which programs are searched. -/
def searchPath (env : Environment) : List Path :=
  match env.get? "PATH" with
  | some list => (splitAt (· == ':') list.toList).map fun piece => ⟨String.ofList piece⟩
  | none => []

/-- A piece of a path in which variables are written. -/
inductive Piece where
  /-- Characters that stand for themselves. -/
  | plain (text : List Char)
  /-- A variable, with the text to use when it is not set. -/
  | variable (name : List Char) (fallback : Option (List Char))
deriving DecidableEq, Repr

/-- Splits `name:-text` before a closing brace. A name has to be there. -/
def splitFallback : List Char → List Char × Option (List Char)
  | [] => ([], none)
  | ':' :: '-' :: rest => ([], some rest)
  | c :: rest =>
    let (name, fallback) := splitFallback rest
    (c :: name, fallback)

def braced (inside : List Char) : Piece :=
  match splitFallback inside with
  | ([], some _) => .variable inside none
  | (name, fallback) => .variable name fallback

/-- The pieces of a text. Braces that are never closed and a `$` before anything else stand for
themselves; `$$` is one `$`. -/
def pieces (text : List Char) : List Piece :=
  match text with
  | [] => []
  | '$' :: '{' :: rest =>
    match _h : rest.dropWhile (· != '}') with
    | _ :: after => braced (rest.takeWhile (· != '}')) :: pieces after
    | [] => .plain ['$', '{'] :: pieces rest
  | '$' :: '$' :: rest => .plain ['$'] :: pieces rest
  | '$' :: c :: rest =>
    if isVariableName c then
      .variable (c :: rest.takeWhile isVariableName) none :: pieces (rest.dropWhile isVariableName)
    else .plain ['$'] :: pieces (c :: rest)
  | c :: rest => .plain [c] :: pieces rest
termination_by text.length
decreasing_by
  · have bound := (List.dropWhile_sublist (l := rest) (· != '}')).length_le
    rw [_h] at bound
    simp only [List.length_cons] at bound ⊢
    omega
  · simp only [List.length_cons]
    omega
  · simp only [List.length_cons]
    omega
  · have bound := (List.dropWhile_sublist (l := rest) isVariableName).length_le
    simp only [List.length_cons]
    omega
  · simp only [List.length_cons]
    omega
  · simp only [List.length_cons]
    omega

structure NotSet where
  name : String
deriving DecidableEq, Repr

def NotSet.message (error : NotSet) : String :=
  "error looking key '" ++ error.name ++ "' up: environment variable not found"

def Piece.value? (env : Environment) : Piece → Except NotSet (List Char)
  | .plain text => .ok text
  | .variable name fallback =>
    match env.get? (String.ofList name), fallback with
    | some value, _ => .ok value.toList
    | none, some text => .ok text
    | none, none => .error ⟨String.ofList name⟩

/-- Replaces a leading `~` by the home directory, when it stands alone or before a separator. -/
def expandHome (env : Environment) (text : List Char) : List Char :=
  match env.home?, text with
  | some home, ['~'] => home.text.toList
  | some home, '~' :: '/' :: rest => home.text.toList ++ '/' :: rest
  | _, _ => text

/-- Expands the variables and the home directory in a text. A `~` that a variable brought to the
front is kept. -/
def expand? (env : Environment) (text : String) : Except NotSet String := do
  let values ← (pieces text.toList).mapM (·.value? env)
  let expanded := values.flatten
  if text.toList.head? ≠ some '~' ∧ expanded.head? = some '~' then
    return String.ofList expanded
  return String.ofList (env.expandHome expanded)

end Environment

end TitleBar
