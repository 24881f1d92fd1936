import TitleBar.Host.Environment
import TitleBar.Host.Files

/-! # Searching programs

A program is the file of its name in the first directory of the search path that has one.
-/

namespace TitleBar

def findProgram? (env : Environment) (files : Files) (name : String) : Option Path :=
  (env.searchPath.map fun directory => directory.join name).find? files.isFile

end TitleBar
