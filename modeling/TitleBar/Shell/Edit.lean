import TitleBar.Shell.Regex.Reader

/-! # Edits

A script of edits is run for one line after the other. It works on a space that holds the line, and
on a second space that holds what was put aside. Texts are texts of bytes.
-/

namespace TitleBar.Shell

/-- A line that a script waits for. -/
inductive EditAddress where
  | line (number : Nat)
  | last
  /-- Every so many lines from one on. -/
  | every (first step : Nat)
  /-- A line that a regular expression matches; without one, that which was used last. -/
  | found (regex? : Option Regex) (fold : Bool)

/-- Up to where a range of lines goes. -/
inductive EditLimit where
  | address (address : EditAddress)
  /-- So many lines behind its first one. -/
  | further (count : Nat)
  /-- Up to a multiple of a number. -/
  | multiple (factor : Nat)

structure EditChoice where
  first? : Option EditAddress
  limit? : Option EditLimit
  negated : Bool

/-- How letters are written from now on. -/
inductive LetterCase where
  | upper
  | lower
  | kept
  | nextUpper
  | nextLower
deriving DecidableEq, Repr

inductive ReplacementPart where
  | char (c : Char)
  /-- What a group has matched; that with the number zero is the whole match. -/
  | group (number : Nat)
  | letters (kind : LetterCase)
deriving DecidableEq, Repr

/-- A substitution of what a regular expression matches. -/
structure Substitution where
  regex? : Option Regex
  fold : Bool
  replacement : List ReplacementPart
  /-- The first match that is replaced. -/
  place : Nat
  /-- Whether all matches behind it are replaced, too. -/
  all : Bool
  printed : Bool
  file? : Option String

inductive Edit where
  | opens
  | closes
  | label (name : List Char)
  /-- Goes on behind a label, or at the end without one. With `after`, only if a substitution has
  been made since the last line was read or the last jump, or only if none has. -/
  | jump (after : Option Bool) (name : List Char)
  | substitute (substitution : Substitution)
  | translate (pairs : List (Char × Char))
  | print
  | printFirst
  | number
  | delete
  | deleteFirst
  | next
  | nextToo
  | hold
  | holdToo
  | fetch
  | fetchToo
  | exchange
  | clear
  | append (text : List Char)
  | insert (text : List Char)
  | change (text : List Char)
  | readFile (name : String)
  | writeFile (name : String)
  | quit (status : Nat) (printing : Bool)

structure EditStep where
  choice : EditChoice
  edit : Edit

/-- A text, and whether a newline ends it. -/
abbrev EditLine := List Char × Bool

structure Editing where
  script : List EditStep
  /-- Lines are not printed at the end of the script. -/
  quiet : Bool
  /-- What files hold. -/
  content : String → Option (List UInt8)
  space : EditLine
  held : List Char
  number : Nat
  /-- The lines that have not been read. -/
  lines : List EditLine
  /-- What is printed before the next line is read. -/
  queue : List (List Char)
  replaced : Bool
  /-- The regular expression that was used last. -/
  used? : Option (Regex × Bool)
  /-- The steps whose ranges of lines have begun, and the last numbers of those ranges. -/
  ranges : List (Nat × Option Nat)
  /-- What was printed, the last text first, and whether a newline ends it. -/
  output : List (List Char)
  complete : Bool
  /-- What was written to files, the last text first. -/
  files : List (String × List Char)

inductive EditEnd where
  | done
  | deleted
  /-- The script starts again without another line. -/
  | again
  | quits (status : Nat) (printing : Bool)

namespace Editing

/-- Prints a text. A line that has no newline gets one when something else follows. -/
def put (state : Editing) (text : List Char) (complete : Bool) : Editing :=
  { state with
    output := (if state.complete then text else '\n' :: text) :: state.output
    complete }

def emit (state : Editing) (text : List Char) (newline : Bool) : Editing :=
  state.put (if newline then text ++ ['\n'] else text) newline

def emitSpace (state : Editing) : Editing := state.emit state.space.1 state.space.2

def flush (state : Editing) : Editing :=
  state.queue.foldl (fun state text => if text.isEmpty then state else state.put text true)
    { state with queue := [] }

/-- Writes a line to a file, or prints it. -/
def save (state : Editing) (name : String) (text : List Char) : Editing :=
  if name = "/dev/stdout" then state.emit text true
  else { state with files := (name, text ++ ['\n']) :: state.files }

/-- Reads the next line; none if there is no other one. -/
def advance? (state : Editing) : Option Editing :=
  match state.lines with
  | [] => none
  | line :: lines => some { state with space := line, lines, number := state.number + 1 }

/-- A regular expression, or that which was used last. -/
def resolve (state : Editing) (regex? : Option Regex) (fold : Bool) : Option (Regex × Bool) :=
  match regex? with
  | some regex => some (regex, fold)
  | none => state.used?

def isAt (state : Editing) (address : EditAddress) : Bool × Editing :=
  match address with
  | .line number => (state.number == number, state)
  | .last => (state.lines.isEmpty, state)
  | .every first step =>
    (if step = 0 then state.number == first
      else first ≤ state.number && (state.number - first) % step == 0, state)
  | .found regex? fold =>
    match state.resolve regex? fold with
    | some (regex, fold) =>
      (regex.matches fold state.space.1, { state with used? := some (regex, fold) })
    | none => (false, state)

/-- Whether a range that has begun still holds the line. -/
def isWithin (state : Editing) (index : Nat) (limit : EditLimit) (last? : Option Nat) :
    Bool × Editing :=
  let closed := { state with ranges := state.ranges.filter (·.1 != index) }
  match last?, limit with
  | some last, _ => (state.number ≤ last, if last ≤ state.number then closed else state)
  | none, .address address =>
    let (ends, state) := state.isAt address
    (true, if ends then { state with ranges := state.ranges.filter (·.1 != index) } else state)
  | none, _ => (false, closed)

/-- The last line of a range that begins here, if its limit gives a number. -/
def lastOf (state : Editing) (limit : EditLimit) : Option Nat :=
  match limit with
  | .address (.line number) => some number
  | .further count => some (state.number + count)
  | .multiple factor =>
    some (if factor = 0 then state.number else (state.number / factor + 1) * factor)
  | .address _ => none

/-- Whether a step is made for the line. -/
def isMeant (state : Editing) (index : Nat) (choice : EditChoice) : Bool × Editing :=
  let (holds, state) :=
    match choice.first?, choice.limit? with
    | none, _ => (true, state)
    | some first, none => state.isAt first
    | some first, some limit =>
      match state.ranges.lookup index with
      | some last? => state.isWithin index limit last?
      | none =>
        let (begins, state) := state.isAt first
        let last? := state.lastOf limit
        if begins && !last?.any (· ≤ state.number) then
          (true, { state with ranges := (index, last?) :: state.ranges })
        else (begins, state)
  (holds != choice.negated, state)

end Editing

def replacementText (parts : List ReplacementPart) (found : RegexMatch) : List Char :=
  let write (text : List Char) (state : LetterCase × LetterCase × List Char) :=
    text.foldl (fun (once, lasting, written) c =>
      let wanted := if once = .kept then lasting else once
      let c := match wanted with
        | .upper | .nextUpper => c.toUpper
        | .lower | .nextLower => c.toLower
        | .kept => c
      (.kept, lasting, c :: written)) state
  let (_, _, written) := parts.foldl (fun (once, lasting, written) part =>
    match part with
    | .char c => write [c] (once, lasting, written)
    | .group 0 => write found.text (once, lasting, written)
    | .group number => write ((found.groups.lookup number).getD []) (once, lasting, written)
    | .letters .nextUpper => (.nextUpper, lasting, written)
    | .letters .nextLower => (.nextLower, lasting, written)
    | .letters kind => (.kept, kind, written)) (.kept, .kept, [])
  written.reverse

/-- Replaces matches from a place on, of which `count` have come before; at most `fuel` are looked
at. An empty match right behind another match does not count. Gives also whether there was anything
to replace. -/
def Substitution.replaceFrom (substitution : Substitution) (regex : Regex) (fold : Bool) :
    Nat → Nat → Option Nat → Cursor → List Char × Bool
  | 0, _, _, cursor => (cursor.after, false)
  | fuel + 1, count, behind?, cursor =>
    match regex.search? fold cursor with
    | none => (cursor.after, false)
    | some found =>
      let follow (text : List Char) (made : Bool) (count : Nat) : List Char × Bool :=
        if found.text.isEmpty then
          match found.next.step (fun _ => true), found.next.after with
          | next :: _, c :: _ =>
            let (rest, more) := replaceFrom substitution regex fold fuel count none next
            (found.before ++ text ++ c :: rest, made || more)
          | _, _ => (found.before ++ text, made)
        else
          let (rest, more) :=
            replaceFrom substitution regex fold fuel count (some found.next.index) found.next
          (found.before ++ text ++ rest, made || more)
      if found.text.isEmpty && behind? == some found.next.index then follow [] false count
      else if count + 1 = substitution.place then
        let text := replacementText substitution.replacement found
        if substitution.all then follow text true (count + 1)
        else (found.before ++ text ++ found.next.after, true)
      else if substitution.place < count + 1 then
        follow (replacementText substitution.replacement found) true (count + 1)
      else follow found.text false (count + 1)

namespace Editing

def substitute (state : Editing) (substitution : Substitution) : Editing :=
  match state.resolve substitution.regex? substitution.fold with
  | none => state
  | some (regex, fold) =>
    let state := { state with used? := some (regex, fold) }
    let (text, made) := substitution.replaceFrom regex fold (state.space.1.length + 2) 0 none
      (Cursor.start state.space.1)
    if made then
      let state := { state with space := (text, state.space.2), replaced := true }
      let state := if substitution.printed then state.emitSpace else state
      (substitution.file?.map fun name => state.save name text).getD state
    else state

/-- The place of a step behind the block that opens before it. -/
def behindBlock (script : List EditStep) : Nat → Nat → Nat → Nat
  | 0, _, index => index
  | fuel + 1, depth, index =>
    match script[index]? with
    | some ⟨_, .opens⟩ => behindBlock script fuel (depth + 1) (index + 1)
    | some ⟨_, .closes⟩ =>
      if depth = 0 then index + 1 else behindBlock script fuel (depth - 1) (index + 1)
    | some _ => behindBlock script fuel depth (index + 1)
    | none => index

/-- The place of a label, which is the end without a name. -/
def labelPlace (script : List EditStep) (name : List Char) : Nat :=
  if name.isEmpty then script.length
  else (script.findIdx? fun step =>
    match step.edit with
    | .label other => other == name
    | _ => false).getD script.length

inductive Turn where
  | goes (place : Nat) (state : Editing)
  | ends (how : EditEnd) (state : Editing)

def make (state : Editing) (index : Nat) (choice : EditChoice) (edit : Edit) : Turn :=
  let goes (state : Editing) : Turn := .goes (index + 1) state
  let text := state.space.1
  let withText (text : List Char) : Turn := goes { state with space := (text, state.space.2) }
  let firstLine := text.takeWhile (· != '\n')
  match edit with
  | .opens | .closes | .label _ => goes state
  | .jump none name => .goes (labelPlace state.script name) state
  | .jump (some wanted) name =>
    if state.replaced = wanted then
      .goes (labelPlace state.script name) { state with replaced := false }
    else goes { state with replaced := false }
  | .substitute substitution => goes (state.substitute substitution)
  | .translate pairs => withText (text.map fun c => (pairs.lookup c).getD c)
  | .print => goes state.emitSpace
  | .printFirst => goes (state.emit firstLine true)
  | .number => goes (state.emit (toString state.number).toList true)
  | .delete => .ends .deleted state
  | .deleteFirst =>
    if firstLine.length = text.length then .ends .deleted state
    else .ends .again { state with space := (text.drop (firstLine.length + 1), state.space.2) }
  | .next =>
    let printed := if state.quiet then state else state.emitSpace
    match printed.flush.advance? with
    | some state => goes state
    | none => .ends (.quits 0 true) state
  | .nextToo =>
    match state.flush.advance? with
    | some state => goes { state with space := (text ++ '\n' :: state.space.1, state.space.2) }
    | none => .ends (.quits 0 true) state
  | .hold => goes { state with held := text }
  | .holdToo => goes { state with held := state.held ++ '\n' :: text }
  | .fetch => withText state.held
  | .fetchToo => withText (text ++ '\n' :: state.held)
  | .exchange => goes { state with space := (state.held, state.space.2), held := text }
  | .clear => withText []
  | .append added => goes { state with queue := state.queue ++ [added] }
  | .insert added => goes (state.put added true)
  | .change added =>
    let ended := choice.negated || choice.limit?.isNone || (state.ranges.lookup index).isNone
    .ends .deleted (if ended then state.put added true else state)
  | .readFile name =>
    let content := (state.content name).getD []
    goes { state with queue := state.queue ++ [Regex.byteChars content] }
  | .writeFile name => goes (state.save name text)
  | .quit status printing => .ends (.quits status printing) state

/-- Runs the script for a line from a place on; at most `fuel` steps are made. Gives the fuel that
is left, too; nothing comes of a script that needs more. -/
def runFrom : Nat → Nat → Editing → Option (EditEnd × Editing × Nat)
  | 0, _, _ => none
  | fuel + 1, index, state =>
    match state.script[index]? with
    | none => some (.done, state, fuel)
    | some ⟨choice, edit⟩ =>
      let (meant, state) := state.isMeant index choice
      if meant then
        match state.make index choice edit with
        | .goes place state => runFrom fuel place state
        | .ends how state => some (how, state, fuel)
      else
        let place := match edit with
          | .opens => behindBlock state.script state.script.length 0 (index + 1)
          | _ => index + 1
        runFrom fuel place state

/-- Runs the script for all lines. Gives the status; nothing comes of a script that needs more fuel
than there is. -/
def run : Nat → Bool → Editing → Option (Nat × Editing)
  | 0, _, _ => none
  | fuel + 1, reads, state =>
    match if reads then state.advance? else some state with
    | none => some (0, state)
    | some state =>
      let state := if reads then { state with replaced := false } else state
      match runFrom fuel 0 state with
      | none => none
      | some (how, state, left) =>
        let printed := if state.quiet then state else state.emitSpace
        let left := min left fuel
        match how with
        | .done => run left true printed.flush
        | .deleted => run left true state.flush
        | .again => run left false state.flush
        | .quits status printing => some (status, (if printing then printed else state).flush)
  termination_by fuel => fuel
  decreasing_by all_goals omega

end Editing

end TitleBar.Shell
