import TitleBar.Shell.Pattern
import TitleBar.Shell.Effect

/-! # Expansion of words

The fields that words stand for. Parameters, expressions and the output of commands are put in;
what comes of them outside quotes is split at separators, and fields with wildcards become the paths
that they match.
-/

namespace TitleBar.Shell

/-- A step towards the fields of a word. -/
inductive Cell where
  | char (char : PatternChar)
  /-- A field is there, even if it has no characters. -/
  | mark
  /-- A character that separates fields. -/
  | gap (separator : Char)
deriving DecidableEq, Repr

/-- The characters that separate fields. -/
def State.separators (state : State) : List Char :=
  ((state.variableValue? "IFS").getD " \t\n").toList

/-- Whether a character is a blank, which separates fields without making one. -/
def isSeparatorBlank (c : Char) : Bool := c == ' ' || c == '\t' || c == '\n'

def State.valueCells (state : State) (quoted : Bool) (value : List Char) : List Cell :=
  let separators := state.separators
  value.map fun c =>
    if !quoted && separators.contains c then .gap c else .char ⟨c, quoted⟩

def plain (cells : List Cell) : List PatternChar :=
  cells.filterMap fun cell =>
    match cell with
    | .char c => some c
    | .mark => none
    | .gap c => some ⟨c, false⟩

def plainText (cells : List Cell) : List Char := (plain cells).map PatternChar.char

/-- The home directory that a `~` with a name stands for. -/
def State.home? (state : State) (name : List Char) : Option (List Char) :=
  if name.isEmpty then (state.variableValue? "HOME").map String.toList
  else if name = ['r', 'o', 'o', 't'] then some ['/', 'r', 'o', 'o', 't']
  else none

/-- A word with the `~` at its start replaced by a home directory. -/
def Word.withHome (state : State) (word : Word) : Word :=
  match word with
  | .text ('~' :: text) false :: more =>
    let name := text.takeWhile (· != '/')
    let rest := text.drop name.length
    if rest.isEmpty && !more.isEmpty then word
    else match state.home? name with
      | some home => .text home true :: .text rest false :: more
      | none => word
  | _ => word

/-- Runs a script and gives what it prints. -/
abbrev Capture := List Char → Effect (List Char)

mutual
/-- The cells of a fragment, with at most `fuel` levels of places within places. -/
def Fragment.cells (capture : Capture) : Nat → Fragment → Effect (List Cell)
  | 0, _ => return []
  | fuel + 1, fragment => do
    match fragment with
    | .text text quoted =>
      let cells := text.map fun c => Cell.char ⟨c, quoted⟩
      return if quoted then .mark :: cells else cells
    | .parameter name use quoted =>
      let cells ← parameterCells capture fuel name use quoted
      return if quoted && name != ['@'] then .mark :: cells else cells
    | .arithmetic expression quoted => do
      let text ← Word.ofDocument expression |>.mapM (Fragment.cells capture fuel)
      let some expression := Expression.ofText? (plainText text.flatten) | Effect.leave 2
      let n ← expression.evaluate
        (fun name => do
          match (← get).value? name with
          | none => return 0
          | some value =>
            match integer? value with
            | some n => return wrapped n
            | none => Effect.leave 2)
        (fun name n => Effect.assign name (toString n))
        (Effect.leave 2)
      return (← get).valueCells quoted (toString n).toList
    | .output script quoted => do
      let value ← capture script
      return (← get).valueCells quoted value

def parameterCells (capture : Capture) : Nat → List Char → Use → Bool → Effect (List Cell)
  | 0, _, _, _ => return []
  | fuel + 1, name, use, quoted => do
    let state ← get
    let key := String.ofList name
    let value? := state.value? key
    let demanded : Effect (List Char) := do
      if value?.isNone && state.careful && name != ['@'] && name != ['*'] then Effect.leave 2
      return (value?.getD "").toList
    let all : List Cell :=
      if name = ['@'] || name = ['*'] && !quoted then
        List.intercalate [.gap ' '] (state.parameters.map fun value =>
          (if quoted then [.mark] else []) ++ state.valueCells quoted value.toList)
      else state.valueCells quoted (value?.getD "").toList
    match use with
    | .value => do
      let _ ← demanded
      return all
    | .length => do
      let value ← demanded
      return state.valueCells quoted (toString (Text.encode value).length).toList
    | .fallback kind orEmpty argument =>
      let missing := match value? with
        | none => true
        | some value => orEmpty && value.isEmpty
      let substitute := do
        let cells ← (Word.ofArgument quoted argument).mapM (Fragment.cells capture fuel)
        return cells.flatten
      match kind, missing with
      | .covers, false | .replaces, true =>
        let cells ← substitute
        let separators := state.separators
        return cells.map fun cell =>
          match cell with
          | .char ⟨c, false⟩ => if !quoted && separators.contains c then .gap c else cell
          | _ => cell
      | .covers, true => return []
      | .becomes, true => do
        let value := plainText (← substitute)
        if !isName name then Effect.leave 2
        Effect.assign key (String.ofList value)
        return (← get).valueCells quoted value
      | .demands, true => Effect.leave 2
      | _, false => return all
    | .cut atEnd longest argument => do
      let value ← demanded
      let cells ← (Word.ofArgument false argument).mapM (Fragment.cells capture fuel)
      return state.valueCells quoted (withoutMatch atEnd longest (plain cells.flatten) value)
    | .unknown => Effect.leave 2
end

/-- How many levels of places within places a word may have. -/
def maxPlaces : Nat := 100

def Word.cells (capture : Capture) (word : Word) : Effect (List Cell) := do
  let cells ← (word.withHome (← get)).mapM (Fragment.cells capture maxPlaces)
  return cells.flatten

/-- The text that a word stands for when it is not split, as a pattern. -/
def Word.pattern (capture : Capture) (word : Word) : Effect (List PatternChar) := do
  return plain (← word.cells capture)

/-- The text that a word stands for when it is not split. -/
def Word.value (capture : Capture) (word : Word) : Effect String := do
  return String.ofList ((← word.pattern capture).map PatternChar.char)

/-- The fields that cells make up. `open?` is the field that has been begun, last character first;
`behind` tells whether a blank has just ended one, so that another separator still belongs to it. -/
def fieldsOf (open? : Option (List PatternChar)) (behind : Bool) :
    List Cell → List (List PatternChar)
  | [] => (open?.map List.reverse).toList
  | .char c :: rest => fieldsOf (some (c :: open?.getD [])) false rest
  | .mark :: rest => fieldsOf (some (open?.getD [])) false rest
  | .gap separator :: rest =>
    let blank := isSeparatorBlank separator
    match open? with
    | some field => field.reverse :: fieldsOf none blank rest
    | none => (if blank || behind then [] else [[]]) ++ fieldsOf none (behind && blank) rest

/-- The names in a directory that a pattern matches. Names that start with a dot are matched only by
patterns that do. -/
def State.matchingNames (state : State) (directory : Path) (pattern : List PatternChar) :
    List String :=
  match state.files.locate directory with
  | .ok location =>
    let names := (state.files.namesIn location).filter fun name =>
      matchesPattern pattern name.toList &&
        (name.toList.head? != some '.' || pattern.head?.any (·.char == '.'))
    (names.mergeSort fun a b => Text.encode a.toList ≤ Text.encode b.toList).eraseDups
  | .error _ => []

/-- The pieces of a pattern between separators of a path. -/
def patternPieces (pattern : List PatternChar) : List (List PatternChar) :=
  pattern.foldr (fun c pieces =>
    match pieces with
    | piece :: pieces => if c.char = '/' then [] :: piece :: pieces else (c :: piece) :: pieces
    | [] => []) [[]]

/-- The paths that a pattern matches below one that has been written so far. -/
def State.matchingPaths (state : State) (written : String) : List (List PatternChar) → List String
  | [] => [written]
  | piece :: pieces =>
    let text := String.ofList (piece.map PatternChar.char)
    let go (name : String) : List String :=
      let path := written ++ name
      if pieces.isEmpty then if state.files.contains (state.path path) then [path] else []
      else state.matchingPaths (path ++ "/") pieces
    if hasWildcard piece then
      let directory := if written.isEmpty then state.directory else state.path written
      (state.matchingNames directory piece).flatMap go
    else go text

/-- The fields that a field with wildcards becomes. -/
def State.spread (state : State) (field : List PatternChar) : List String :=
  let literal := String.ofList (field.map PatternChar.char)
  if hasWildcard field && !state.literal then
    match state.matchingPaths "" (patternPieces field) with
    | [] => [literal]
    | paths => paths
  else [literal]

def Word.fields (capture : Capture) (word : Word) : Effect (List String) := do
  let cells ← word.cells capture
  return (fieldsOf none false cells).flatMap (← get).spread

end TitleBar.Shell
