import TitleBar.Resolver

/-! # The open solution

Name and location of the open solution. `path(from,count)` slices its directory: it skips `from`
segments counted from the end and keeps the `count` segments before them.
-/

namespace TitleBar

/-- The solution that the host has opened, if any. -/
structure OpenSolution where
  solution? : Option Solution
deriving DecidableEq, Repr, Inhabited

namespace OpenSolution

def none : OpenSolution := ⟨Option.none⟩

def opened (solution : Solution) : OpenSolution := ⟨some solution⟩

/-- Closes the solution, and tells whether there was one. -/
def close (held : OpenSolution) : OpenSolution × Bool := (none, held.solution?.isSome)

/-- The slice of a directory that a `path` tag asks for; empty when its arguments are no counts. -/
def slice (directory : Path) (tag : String) : String :=
  let asked := if tag = "path" then some (0, 1) else Tag.slice? tag "path" 1
  match asked with
  | some (skipped, count) => Tag.trailingSegments directory.text '/' skipped count
  | Option.none => ""

def valueOf (solution : Solution) (tag : String) : String :=
  match Tag.base? tag with
  | some "solution" | some "solution-path" => solution.path.text
  | some "solution-name" | some "item-name" => solution.name
  | some "solution-dir" => solution.directory.text
  | some "path" => slice solution.directory tag
  | _ => ""

/-- The value of a tag. The solution of the situation goes before the one that was opened. -/
def value (held : OpenSolution) (situation : Situation) (tag : String) : String :=
  match situation.solution <|> held.solution? with
  | some solution => valueOf solution tag
  | Option.none => ""

/-- Whether a tag matches a pattern: its name asks only for a solution, any other tag for its value,
and the gate is not looked at. -/
def verdict (held : OpenSolution) (situation : Situation) (tag : String) (glob : Glob) : Trace Bool :=
  if tag = "solution" then pure true
  else ⟨glob.isMatch (held.value situation tag), [⟨"solution", tag⟩]⟩

def resolver (held : OpenSolution) : Resolver :=
  { name := "solution"
    tags := ["solution", "solution-name", "item-name", "solution-path", "solution-dir", "path"]
    available := held.solution?.isSome
    settled := true
    gate := fun situation _ => situation.solution.isSome
    value := held.value
    verdict := held.verdict }

end OpenSolution

end TitleBar
