import TitleBar.Host.Files

/-! # Finding a working copy

A working copy is the nearest directory, at or above a start, that holds the marker of its kind.
-/

namespace TitleBar

/-- The nearest of a directory and those above it that holds an entry named `marker`. -/
def nearestMarked? (files : Files) (start : Path) (marker : String) : Option Path :=
  start.ancestors.find? fun directory => files.contains (directory.join marker)

end TitleBar
