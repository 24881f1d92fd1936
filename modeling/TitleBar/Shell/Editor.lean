import TitleBar.Shell.Edit.Reader
import TitleBar.Shell.Filter

/-! # The line editor

The utility that prints its input as a script of edits changes it.
-/

namespace TitleBar.Shell.Utility

open Text Effect

/-- The lines of bytes, each with whether a newline ends it. -/
def editLines (bytes : List UInt8) : List EditLine :=
  (byteLines bytes).map fun line =>
    if line.getLast? = some 10 then (Regex.byteChars line.dropLast, true)
    else (Regex.byteChars line, false)

/-- How many steps a script may make before it counts as one that never ends. -/
def maxEdits : Nat := 1000000

/-- Runs a script on lines; gives the status and what was printed, and writes files. -/
def runEdits (script : List EditStep) (quiet : Bool) (bytes : List UInt8) :
    Effect (Nat × List UInt8) := do
  let state ← get
  let ranges := script.zipIdx.filterMap fun (step, i) =>
    match step.choice.first?, step.choice.limit? with
    | some (.line 0), some _ => some (i, none)
    | _, _ => none
  let start : Editing :=
    { script, quiet, ranges
      content := fun name => state.files.content? (state.path name)
      space := ([], true)
      held := []
      number := 0
      lines := editLines bytes
      queue := []
      replaced := false
      used? := none
      output := []
      complete := true
      files := [] }
  match start.run maxEdits true with
  | none => throw (.endless [])
  | some (status, finished) => do
    for name in (finished.files.map (·.1)).eraseDups do
      let content := (finished.files.reverse.filter (·.1 == name)).flatMap (·.2)
      modify fun state =>
        { state with files := state.files.write (state.path name) (Regex.charBytes content) }
    return (status, Regex.charBytes finished.output.reverse.flatten)

/-- Whether an argument asks to change files in place. -/
def isInPlace (argument : String) : Bool :=
  (strip? ['-', 'i'] argument.toList).isSome || argument == "--in-place"

def editNames : List (String × Char) := [
  ("expression", 'e'), ("file", 'f'), ("quiet", 'n'), ("silent", 'n'), ("regexp-extended", 'E'),
  ("separate", 's'), ("unbuffered", 'u'), ("posix", 'u'), ("line-length", 'l')]

/-- Prints the lines of files as a script of edits changes them. -/
def edit (arguments : List String) : Effect Unit := do
  let inPlace := arguments.any isInPlace
  let (options, operands) := readOptions ['e', 'f', 'l'] editNames
    (arguments.filter (!isInPlace ·))
  let state ← get
  let parts := options.filterMap fun (c, value) =>
    if c = 'e' then some (encode value.toList)
    else if c = 'f' then some ((state.files.content? (state.path value)).getD [])
    else none
  let parts := parts.map Regex.byteChars
  let (script, names) := if parts.isEmpty then
      (Regex.byteChars (encode (operands.headD "").toList), operands.tail)
    else (List.intercalate ['\n'] parts, operands)
  let extended := hasOption options 'E' || hasOption options 'r'
  let silent := (strip? ['#', 'n'] script).any fun rest => rest.isEmpty || rest.head? = some '\n'
  let quiet := hasOption options 'n' || silent
  let known := ['e', 'f', 'l', 'n', 'E', 'r', 's', 'u', 'z']
  if parts.isEmpty && operands.isEmpty || !options.all fun (c, _) => known.contains c then setStatus 1
  else match EditStep.ofScript? extended script with
    | none => setStatus 1
    | some steps =>
      if inPlace then
        setStatus 0
        for name in names do
          match state.files.content? (state.path name) with
          | none => setStatus 4
          | some bytes => do
            let (_, output) ← runEdits steps quiet bytes
            modify fun state =>
              { state with files := state.files.write (state.path name) output }
      else
        let (streams, well) ← sources names
        let contents ← streams.mapM await
        let (status, output) ← runEdits steps quiet contents.flatten
        answer output (if well then status else 2)

end TitleBar.Shell.Utility
