import TitleBar.Host.Files
import TitleBar.Watch.Debounce
import TitleBar.Watch.Filter

/-! # Watchers

A watcher is told of what happens below a directory, right in it, or to a single file, and reports
the changes that its filter lets through, once for each burst. Reading a file is no change. Links to
directories are followed when the watcher starts, and directories that are made later are watched as
well; what happens there is known under the path that led there.
-/

namespace TitleBar

/-- Something that happened to files. A notice without paths may be about any of them. -/
structure FileEvent where
  /-- Whether the files were only read. -/
  access : Bool
  paths : List Path
deriving DecidableEq, Repr

def WatchFilter.reports (filter : WatchFilter) (event : FileEvent) : Bool :=
  !event.access && (event.paths.isEmpty || event.paths.any filter.accepts)

structure WatchScope where
  directory : Path
  /-- Whether directories below the directory are watched as well. -/
  recursive : Bool
  filter : WatchFilter
deriving DecidableEq, Repr

/-- A place that is watched, and the path under which changes there are known. -/
structure Watch where
  place : Location
  path : Path
deriving DecidableEq, Repr

namespace Files

/-- The places at and below a directory, at most `depth` levels deep. Links to directories count as
directories, unless they lead back to one of those above, which are `above` and the directory. -/
def directoriesBelow (files : Files) : Nat → List Location → Watch → List Watch
  | 0, _, here => [here]
  | depth + 1, above, here =>
    let above := here.place :: above
    here :: (files.namesIn here.place).flatMap fun name =>
      let path := here.path.join name
      match files.node? (here.place ++ [name]) with
      | some .directory => files.directoriesBelow depth above ⟨here.place ++ [name], path⟩
      | some (.link _) =>
        match files.walk maxLinks here.place [.name name] with
        | .ok target =>
          if files.node? target = some .directory && !above.contains target then
            files.directoriesBelow depth above ⟨target, path⟩
          else []
        | .error _ => []
      | _ => []

end Files

namespace WatchScope

/-- The places that a scope covers at the moment. -/
def watches (scope : WatchScope) (files : Files) : List Watch :=
  match files.locate scope.directory with
  | .error _ => []
  | .ok root =>
    let here : Watch := ⟨root, scope.directory⟩
    if scope.recursive && files.node? root = some .directory then
      files.directoriesBelow (files.entries.length + 1) [] here
    else [here]

end WatchScope

structure Watcher where
  scope : WatchScope
  watches : List Watch
  debouncer : Debouncer
deriving DecidableEq, Repr

namespace Watcher

def start (scope : WatchScope) (files : Files) (quiet : Nat) : Watcher :=
  ⟨scope, scope.watches files, Debouncer.idle quiet⟩

/-- The paths under which a watcher learns of a change at a location: as something that stands in a
watched directory, or as the watched file itself. -/
def seen (watcher : Watcher) (changed : Location) : List Path :=
  watcher.watches.filterMap fun watch =>
    if watch.place = changed then some watch.path
    else if watch.place = changed.dropLast then changed.getLast?.map watch.path.join
    else none

def take (watcher : Watcher) (time : Nat) (event : FileEvent) : Watcher :=
  { watcher with
    debouncer := watcher.debouncer.arrive ⟨time, watcher.scope.filter.reports event⟩ }

/-- Watches a directory that has just been made in a watched one. -/
def adopt (watcher : Watcher) (files : Files) (changed : Location) (paths : List Path) : Watcher :=
  if watcher.scope.recursive && files.node? changed = some .directory then
    { watcher with watches := watcher.watches ++ paths.map (Watch.mk changed) }
  else watcher

/-- Tells a watcher that the files at some locations have changed at once. -/
def notice (watcher : Watcher) (files : Files) (time : Nat) (changed : List Location) :
    Watcher :=
  let watcher := changed.foldl (fun watcher location =>
    let paths := watcher.seen location
    let watcher := paths.foldl (fun watcher path => watcher.take time ⟨false, [path]⟩) watcher
    watcher.adopt files location paths) watcher
  { watcher with watches := watcher.watches.filter fun watch => (files.node? watch.place).isSome }

end Watcher

end TitleBar
