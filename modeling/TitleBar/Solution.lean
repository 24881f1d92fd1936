import TitleBar.Host.Files

/-! # Solutions

A solution is what a host has open: a solution file, or a directory opened as one. It is named
after its file without the extension, or after the directory.
-/

namespace TitleBar

structure Solution where
  /-- The solution file, or the directory itself. -/
  path : Path
  /-- The directory that contains the solution file. -/
  directory : Path
  name : String
deriving DecidableEq, Repr, Inhabited

namespace Solution

/-- The solution that a path without links stands for. -/
def ofCanonical? (files : Files) (path : Path) : Option Solution := do
  if files.isDirectory path then
    let name ← path.fileName?
    if name.isEmpty then none else some ⟨path, path, name⟩
  else
    let name ← path.fileStem?
    let directory ← path.parent?
    if name.isEmpty then none else some ⟨path, directory, name⟩

/-- The solution that a path stands for; none without a name, such as a root. A path that leads
nowhere is taken as it is written. -/
def ofPath? (files : Files) (path : Path) : Option Solution :=
  ofCanonical? files ((files.canonical? path).getD path)

end Solution

end TitleBar
