import TitleBar.CommandLine.Action
import TitleBar.CommandLine.Survey

/-! # The program

Makes a host of the variables and files that a run may look at, runs the program on it, and prints
what it says. Rule files, solutions and tools that are scripts are taken as they are found; no other
process is started. Paths and variables are texts, nothing is logged, and watching ends with the first
title bar.
-/

namespace TitleBar

/-- Adds what a path leads to, if it leads anywhere. A path through a link is added as a link to
the place itself. -/
def survey (files : Files) (path : Path) : IO Files := do
  try
    let place ← IO.FS.realPath path.text
    let canonical : Path := ⟨place.toString⟩
    let files ←
      if ← place.isDir then pure (files.makeDirectory canonical)
      else
        let content ← IO.FS.readBinFile place
        pure (files.put canonical (.file content.toList true) false)
    return if files.contains path then files else files.put path (.link canonical) false
  catch _ => return files

def surveyVariables (names : List String) : IO (List (String × String)) := do
  let values ← names.mapM fun name => return (name, ← IO.getEnv name)
  return values.filterMap fun (name, value) => value.map fun value => (name, value)

end TitleBar

open TitleBar in
def main (arguments : List String) : IO UInt32 := do
  let known ← surveyVariables CommandLine.knownVariables
  let texts := arguments ++ known.map (·.2)
  let written ← surveyVariables (texts.flatMap CommandLine.variablesIn)
  let env : Environment := ⟨known ++ written, none⟩
  let files ← (CommandLine.surveyedPaths env arguments).foldlM survey Files.system
  let exit := CommandLine.run ⟨files, env⟩ arguments
  IO.print exit.printout.output
  IO.eprint exit.printout.errors
  return exit.code.toUInt32
