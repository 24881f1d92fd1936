import TitleBar.Repository.Backend
import TitleBar.Repository.Marker

/-! # Git

A Git working copy is found by its entry `.git`. That is watched if it is a directory, which it is
not in a linked working tree, and the repository is read again every minute, because a fetch in the
background moves what it tracks.
-/

namespace TitleBar.Git

open Text

/-- A reading of a Git working copy. What is not known is empty. -/
structure State where
  branch : String
  sha : String
  commitTime : String
  author : String
  subject : String
  remoteFetch : String
  remotePush : String
  fetchAhead : String
  fetchBehind : String
  pushAhead : String
  pushBehind : String
deriving DecidableEq, Repr

/-- The reading of which nothing is known. -/
def State.blank : State := ⟨"", "", "", "", "", "", "", "", "", "", ""⟩

def tags : List String := [
  "git", "git-branch", "git-sha", "git-commit-time-relative", "git-author", "git-subject",
  "git-remote-fetch", "git-remote-push", "git-fetch-ahead", "git-fetch-behind", "git-push-ahead",
  "git-push-behind"]

def value (state : State) (discovery : Discovery) (tag : String) : String :=
  match tag with
  | "git" => discovery.root.text
  | "git-branch" => state.branch
  | "git-sha" => state.sha
  | "git-commit-time-relative" => state.commitTime
  | "git-author" => state.author
  | "git-subject" => state.subject
  | "git-remote-fetch" => state.remoteFetch
  | "git-remote-push" => state.remotePush
  | "git-fetch-ahead" => state.fetchAhead
  | "git-fetch-behind" => state.fetchBehind
  | "git-push-ahead" => state.pushAhead
  | "git-push-behind" => state.pushBehind
  | _ => ""

/-- A text without white space at either end. -/
def trimmed (text : String) : String := String.ofList (trim text.toList)

/-- The first line of the output of a command, trimmed. -/
def firstLine (command : Command) : Script (Option String) :=
  (Script.capture command).map fun output => output.bind fun lines => lines.head?.map trimmed

/-- Cuts a text at a mark into at most `count + 1` fields; the last one may hold the mark. -/
def fields (mark : Char) : Nat → List Char → List (List Char)
  | 0, text => [text]
  | count + 1, text =>
    match text.dropWhile (· != mark) with
    | _ :: rest => text.takeWhile (· != mark) :: fields mark count rest
    | [] => [text]

def counts? (line : String) : Option (String × String) :=
  match words line.toList with
  | ahead :: behind :: _ => some (String.ofList ahead, String.ofList behind)
  | _ => none

/-- A branch that is tracked, and how far it is apart. -/
structure Tracking where
  remote : String
  ahead : String
  behind : String
deriving DecidableEq, Repr

def Tracking.none : Tracking := ⟨"", "", ""⟩

/-- Reads what `spec` tracks; how far it is apart is asked only when it tracks something. -/
def readTracking (command : List String → Command) (spec : String) : Script Tracking := do
  let remote :=
    (← firstLine (command ["rev-parse", "--abbrev-ref", "--symbolic-full-name", spec])).getD ""
  if remote.isEmpty then return Tracking.none
  let line ← firstLine (command ["rev-list", "--left-right", "--count", "HEAD..." ++ spec])
  let (ahead, behind) := (line.bind counts?).getD ("", "")
  return ⟨remote, ahead, behind⟩

/-- Reads a working copy. A detached head has no branch and an unborn one no commit; the reading
fails only when both are missing. -/
def read (program : Path) (discovery : Discovery) : Script (Option State) := do
  let command := Command.mk discovery.root program
  let branch ← firstLine (command ["symbolic-ref", "-q", "--short", "HEAD"])
  let commit ← firstLine (command ["show", "-s", "--format=%h|%cr|%an|%s", "HEAD"])
  if branch.isNone && commit.isNone then return none
  let parts := (fields '|' 3 (commit.getD "").toList).map fun field => String.ofList (trim field)
  let fetching ← readTracking command "@\x7bupstream\x7d"
  let push ← readTracking command "@\x7bpush\x7d"
  return some {
    branch := branch.getD ""
    sha := (parts[0]?).getD ""
    commitTime := (parts[1]?).getD ""
    author := (parts[2]?).getD ""
    subject := (parts[3]?).getD ""
    remoteFetch := fetching.remote
    remotePush := push.remote
    fetchAhead := fetching.ahead
    fetchBehind := fetching.behind
    pushAhead := push.ahead
    pushBehind := push.behind }

/-- Finds the working copy of a directory. -/
def discover (start : Path) : Script (Option Discovery) :=
  Script.files.map fun files => (nearestMarked? files start ".git").map fun root =>
    let marker := root.join ".git"
    ⟨root, if files.isDirectory marker then some marker else none, none⟩

def backend : Backend State :=
  { name := "git"
    tags
    blank := State.blank
    tool := "git"
    discover := fun _ start => discover start
    read
    value
    satisfies := Backend.matchesOrNames "git" value
    polls := true
    filter := .withoutChurn }

end TitleBar.Git
