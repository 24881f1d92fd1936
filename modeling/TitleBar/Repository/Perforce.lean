import TitleBar.Repository.Backend

/-! # Perforce

Perforce leaves no entry in a working copy to find. The clients of a server are listed with their
roots, and the nearest directory, at or above the start, that is the root of a client is taken.
The views of the client are its mappings from the depot; they are read again every minute.
-/

namespace TitleBar.Perforce

open Text

/-- A reading of a client: the depot side of each of its views, with its sign. -/
structure State where
  views : List String
deriving DecidableEq, Repr

structure Client where
  name : String
  root : Path
deriving DecidableEq, Repr

/-- Splits a text before the first mark that has some text before it. -/
def splitBefore? (mark : List Char) (taken : List Char) : List Char →
    Option (List Char × List Char)
  | [] => none
  | c :: rest =>
    match taken, strip? mark (c :: rest) with
    | _ :: _, some after => some (taken.reverse, after)
    | _, _ => splitBefore? mark (c :: taken) rest

/-- The root behind the last mark for it that has some text before it and a root behind it. -/
def lastRoot? : List Char → Option (List Char)
  | [] => none
  | _ :: rest =>
    (lastRoot? rest).or do
      let after ← strip? " root ".toList rest
      let (root, _) ← splitBefore? " '".toList [] after
      return root

/-- The client that a text behind the word for it describes: a name that ends before a blank, and a
root. `taken` is what already belongs to the name. -/
def describedAt? (taken : List Char) : List Char → Option Client
  | [] => none
  | c :: rest =>
    let here := if c = ' ' ∧ taken ≠ [] then
        (lastRoot? rest).map fun root =>
          Client.mk (String.ofList taken.reverse) ⟨String.ofList (trim root)⟩
      else none
    here.or (describedAt? (c :: taken) rest)

/-- The client that is described first in a text. -/
def clientIn? : List Char → Option Client
  | [] => none
  | c :: rest =>
    ((strip? "Client ".toList (c :: rest)).bind (describedAt? [])).or (clientIn? rest)

def client? (line : String) : Option Client :=
  (splitAt (· == '\n') line.toList).findSome? clientIn?

def clients (lines : List String) : List Client := lines.filterMap client?

def splitSign : List Char → List Char × List Char
  | '+' :: rest => (['+'], rest)
  | '-' :: rest => (['-'], rest)
  | text => ([], text)

/-- The path that a text starts with; it may stand in quotes. -/
def pathAt : List Char → List Char
  | '"' :: rest => rest.takeWhile (· != '"')
  | text => text.takeWhile fun c => !isBlank c

/-- The depot side of a view. -/
def view (line : List Char) : String :=
  let (sign, rest) := splitSign (trim line)
  String.ofList (sign ++ pathAt rest)

def withoutReturns (line : String) : List Char :=
  (line.toList.reverse.dropWhile (· == '\r')).reverse

/-- The views of a client description: the indented lines behind the header for them. -/
def views (lines : List String) : List String :=
  let cleaned := lines.map withoutReturns
  let behind := (cleaned.dropWhile fun line => (strip? "View:".toList line).isNone).drop 1
  (behind.takeWhile fun line => line.head? == some '\t').map view

/-- The segments of a view, without its sign and the leading slashes. -/
def viewSegments (view : String) : List (List Char) :=
  let bare := view.toList.dropWhile fun c => c == '+' || c == '-'
  splitAt (· == '/') ((strip? ['/', '/'] bare).getD bare)

/-- How many segments a view needs for a slice. The sum is kept in 64 bits and wraps around there. -/
def needed (skipped count : Nat) : Nat := (UInt64.ofNat skipped + UInt64.ofNat count).toNat

/-- The segments from `skipped` on, `count` of them, of the first view that has enough. -/
def sliceViews (views : List String) (skipped count : Nat) : String :=
  match (views.map viewSegments).find? fun segments => needed skipped count ≤ segments.length with
  | some segments => String.ofList (join ['/'] ((segments.drop skipped).take count))
  | none => ""

def value (state : State) (discovery : Discovery) (tag : String) : String :=
  match Tag.base? tag with
  | some "p4" | some "p4-root" => discovery.root.text
  | some "p4-client" => discovery.workspace.getD ""
  | some "p4-view" =>
    match if tag = "p4-view" then some (0, 1) else Tag.slice? tag "p4-view" 1 with
    | some (skipped, count) => sliceViews state.views skipped count
    | none => ""
  | _ => ""

/-- Whether a tag matches a pattern. The bare tag for views stands for each of them. -/
def satisfies (state : State) (discovery : Discovery) (tag : String) (glob : Glob) : Bool :=
  if tag = "p4-view" then state.views.any glob.isMatch
  else Backend.matchesOrNames "p4" value state discovery tag glob

def read (program : Path) (discovery : Discovery) : Script (Option State) :=
  match discovery.workspace with
  | none => .done none
  | some client =>
    (Script.capture ⟨discovery.root, program, ["client", "-o", client]⟩).map fun output =>
      output.map fun lines => ⟨views lines⟩

/-- The first listed client of the nearest directory, at or above a start, that is the root of
one. -/
def nearestClient? (clients : List Client) (start : Path) : Option Client :=
  start.ancestors.findSome? fun directory =>
    clients.find? fun client => client.root.equivalent directory

/-- Finds the client of a directory. -/
def discover (program start : Path) : Script (Option Discovery) :=
  (Script.capture ⟨start, program, ["clients"]⟩).map fun output => do
    let client ← nearestClient? (clients (← output)) start
    return ⟨client.root, none, some client.name⟩

def backend : Backend State :=
  { name := "p4"
    tags := ["p4", "p4-client", "p4-view", "p4-root"]
    blank := ⟨[]⟩
    tool := "p4"
    discover
    read
    value
    satisfies
    polls := true
    filter := .all }

end TitleBar.Perforce
