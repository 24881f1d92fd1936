import TitleBar.Path

/-! # Which changes count

A watcher reports only changes of paths that its filter lets through.
-/

namespace TitleBar

inductive WatchFilter where
  /-- Every path. -/
  | all
  /-- No path through a directory named `objects` and no lock file: both change all the time while
  a command runs in a Git working copy. -/
  | withoutChurn
  /-- Paths with the given file name. -/
  | named (fileName : Option String)
deriving DecidableEq, Repr

namespace WatchFilter

def accepts : WatchFilter → Path → Bool
  | .all, _ => true
  | .withoutChurn, path =>
    !path.parts.contains (.name "objects") && path.extension? != some "lock"
  | .named fileName, path => path.fileName? == fileName

end WatchFilter

end TitleBar
