import TitleBar.Shell.Filter
import TitleBar.Shell.Regex.Reader

/-! # Searching lines

The utility that prints the lines in which a regular expression matches.
-/

namespace TitleBar.Shell.Utility

open Text Effect

structure Sought where
  regex : Regex
  /-- Case does not matter. -/
  fold : Bool
  /-- The lines without a match are wanted. -/
  inverted : Bool

namespace Sought

def wants (sought : Sought) (line : List Char) : Bool :=
  sought.regex.matches sought.fold line != sought.inverted

/-- The texts in a line that match, from a place on; at most `fuel` of them. -/
def textsFrom (sought : Sought) : Nat → Cursor → List (List Char)
  | 0, _ => []
  | fuel + 1, cursor =>
    match sought.regex.search? sought.fold cursor with
    | none => []
    | some found =>
      if found.text.isEmpty then
        match found.next.step fun _ => true with
        | next :: _ => textsFrom sought fuel next
        | [] => []
      else found.text :: textsFrom sought fuel found.next

/-- The regular expressions of a search, of which one has to match. -/
def regex? (options : List (Char × String)) (patterns : List (List Char)) : Option Regex := do
  let plain := (options.reverse.find? fun (c, _) => ['E', 'F', 'G'].contains c).map (·.1)
  let regexes ← patterns.mapM fun pattern =>
    if plain = some 'F' then some (Regex.ofChars pattern)
    else Regex.ofText? (plain == some 'E') pattern
  let regex ← match regexes with
    | [] => none
    | first :: more => some (more.foldl Regex.either first)
  let bounded : Regex :=
    if hasOption options 'w' then
      .sequence (.between fun before _ => !before) (.sequence regex (.between fun _ behind => !behind))
    else regex
  return if hasOption options 'x' then .sequence .start (.sequence bounded .stop) else bounded

end Sought

structure Showing where
  /-- The names of files stand in front of lines. -/
  named : Bool
  numbered : Bool
  /-- The lines before and behind a wanted one that are shown with it. -/
  before : Nat
  behind : Nat
  /-- At most so many lines are wanted. -/
  most : Option Nat
  /-- Only the texts that match are shown. -/
  parts : Bool

/-- What stands in front of a line; `mark` comes behind each part of it. -/
def Showing.label (showing : Showing) (name : String) (number : Nat) (mark : UInt8) :
    List UInt8 :=
  (if showing.named then encode name.toList ++ [mark] else []) ++
    if showing.numbered then encode (toString number).toList ++ [mark] else []

/-- The numbers of the lines that are wanted, counted from one. -/
def Sought.numbers (sought : Sought) (most : Option Nat) (lines : List (List UInt8)) : List Nat :=
  let all := (lines.zipIdx.filter fun (line, _) => sought.wants (Regex.byteChars line)).map
    fun (_, i) => i + 1
  (most.map all.take).getD all

/-- The lines of a file that are shown, given the numbers of the wanted ones. -/
def Showing.lines (showing : Showing) (sought : Sought) (name : String) (wanted : List Nat)
    (lines : List (List UInt8)) : List (List UInt8) :=
  let numbered := lines.zipIdx.map fun (line, i) => (i + 1, line)
  if showing.parts then
    if sought.inverted then []
    else (numbered.filter fun (n, _) => wanted.contains n).flatMap fun (n, line) =>
      (sought.textsFrom (line.length + 1) (Cursor.start (Regex.byteChars line))).map fun text =>
        showing.label name n 58 ++ Regex.charBytes text
  else
    let shown := numbered.filter fun (n, _) =>
      wanted.any fun k => k ≤ n + showing.before && n ≤ k + showing.behind
    let gaps := showing.before + showing.behind ≠ 0
    (shown.foldl (fun (last?, kept) (n, line) =>
      let mark : UInt8 := if wanted.contains n then 58 else 45
      let text := showing.label name n mark ++ line
      let gap := gaps && last?.any fun last : Nat => last + 1 < n
      (some n, text :: if gap then [45, 45] :: kept else kept)) (none, [])).2.reverse

def searchNames : List (String × Char) := [
  ("regexp", 'e'), ("file", 'f'), ("ignore-case", 'i'), ("invert-match", 'v'),
  ("word-regexp", 'w'), ("line-regexp", 'x'), ("count", 'c'), ("files-with-matches", 'l'),
  ("files-without-match", 'L'), ("max-count", 'm'), ("only-matching", 'o'), ("quiet", 'q'),
  ("silent", 'q'), ("no-messages", 's'), ("line-number", 'n'), ("with-filename", 'H'),
  ("no-filename", 'h'), ("after-context", 'A'), ("before-context", 'B'), ("context", 'C'),
  ("extended-regexp", 'E'), ("fixed-strings", 'F'), ("basic-regexp", 'G'), ("text", 'a'),
  ("color", 'a'), ("colour", 'a')]

/-- Prints the lines of files in which a regular expression matches. -/
def searchLines (kind : List (Char × String)) (arguments : List String) : Effect Unit := do
  let (options, operands) := readOptions ['e', 'f', 'm', 'A', 'B', 'C'] searchNames
    arguments
  let options := kind ++ options
  let known := ['e', 'f', 'm', 'A', 'B', 'C', 'E', 'F', 'G', 'a', 'c', 'h', 'H', 'i', 'y', 'l', 'L',
    'n', 'o', 'q', 's', 'v', 'w', 'x']
  let state ← get
  let given := options.flatMap fun (c, value) =>
    if c = 'e' then [encode value.toList]
    else if c = 'f' then bareLines ((state.files.content? (state.path value)).getD [])
    else []
  let told := hasOption options 'e' || hasOption options 'f'
  let patterns := if told then given else (operands.take 1).map fun text => encode text.toList
  let names := if told then operands else operands.drop 1
  let texts := (patterns.flatMap fun bytes => bytes.splitOnP (· == 10)).map Regex.byteChars
  let number? (letter : Char) : Option Nat :=
    (optionValue? options letter).bind fun text => natural? text.toList
  match Sought.regex? options texts with
  | none => setStatus 2
  | some regex =>
    if !options.all fun (c, _) => known.contains c then setStatus 2
    else
      let sought : Sought :=
        { regex
          fold := hasOption options 'i' || hasOption options 'y'
          inverted := hasOption options 'v' }
      let around := (number? 'C').getD 0
      let showing : Showing :=
        { named := hasOption options 'H' || (1 < names.length && !hasOption options 'h')
          numbered := hasOption options 'n'
          before := (number? 'B').getD around
          behind := (number? 'A').getD around
          most := number? 'm'
          parts := hasOption options 'o' }
      let outcomes ← (if names.isEmpty then ["-"] else names).mapM fun name => do
        match ← source? name with
        | none => return none
        | some stream => do
          let lines := bareLines (← await stream)
          let shownName := if name = "-" then "(standard input)" else name
          let wanted := sought.numbers showing.most lines
          let quiet := hasOption options 'q'
          let listed := hasOption options 'l' && !wanted.isEmpty ||
            hasOption options 'L' && wanted.isEmpty
          let output :=
            if quiet then []
            else if hasOption options 'l' || hasOption options 'L' then
              if listed then [encode shownName.toList] else []
            else if hasOption options 'c' then
              [({ showing with numbered := false }).label shownName 0 58 ++
                encode (toString wanted.length).toList]
            else showing.lines sought shownName wanted lines
          let _ ← write 1 (output.map (· ++ [10])).flatten
          return some (!wanted.isEmpty)
      let found := outcomes.any (· == some true)
      if outcomes.contains none && !(found && hasOption options 'q') then setStatus 2
      else setStatus (if found then 0 else 1)

def searchers : List (String × Utility) := [
  ("grep", searchLines []),
  ("egrep", searchLines [('E', "")]),
  ("fgrep", searchLines [('F', "")])]

end TitleBar.Shell.Utility
