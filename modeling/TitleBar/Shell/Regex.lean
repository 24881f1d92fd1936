import TitleBar.Shell.CharClass
import TitleBar.Text.Blank

/-! # Regular expressions

What a regular expression matches. Texts are texts of bytes: each byte is the character of its
number. Of all matches that start at the first possible place, the longest counts.
-/

namespace TitleBar.Shell

inductive Regex where
  /-- The empty text. -/
  | nothing
  | char (c : Char)
  | anyChar
  /-- A character of a list of ranges, or with `negated` one that is in none of them. -/
  | member (negated : Bool) (ranges : List (Char × Char))
  /-- The start of the text. -/
  | start
  /-- The end of the text. -/
  | stop
  /-- A place such that the characters before and behind it are parts of words, or not. -/
  | between (test : Bool → Bool → Bool)
  | sequence (first second : Regex)
  | either (first second : Regex)
  /-- A number of matches in a row. -/
  | repeated (least : Nat) (most : Option Nat) (part : Regex)
  | group (number : Nat) (part : Regex)
  /-- What a group has matched. -/
  | same (number : Nat)

/-- A place in a text, and what groups have matched on the way to it. -/
structure Cursor where
  index : Nat
  before : Option Char
  after : List Char
  groups : List (Nat × List Char)

namespace Cursor

def start (text : List Char) : Cursor := ⟨0, none, text, []⟩

/-- The next place, if the character in front of it is accepted. -/
def step (accepts : Char → Bool) (cursor : Cursor) : List Cursor :=
  match cursor.after with
  | c :: rest =>
    if accepts c then [{ cursor with index := cursor.index + 1, before := some c, after := rest }]
    else []
  | [] => []

/-- The place behind some characters, if these come next. -/
def steps (same : Char → Char → Bool) (text : List Char) (cursor : Cursor) : List Cursor :=
  text.foldl (fun cursors c => cursors.flatMap (step (same c))) [cursor]

/-- A place once a group that began at another one has matched up to it. -/
def closing (number : Nat) (opened cursor : Cursor) : Cursor :=
  { cursor with
    groups := (number, opened.after.take (cursor.index - opened.index)) ::
      cursor.groups.filter (·.1 != number) }

/-- Places without those that are like an earlier one. -/
def distinct (cursors : List Cursor) : List Cursor :=
  (cursors.foldl (fun kept cursor =>
    if kept.any fun other => other.index == cursor.index && other.groups == cursor.groups then kept
    else cursor :: kept) []).reverse

/-- Whether the character behind a place is part of a word. -/
def meetsWord (cursor : Cursor) : Bool := cursor.after.head?.any isWordChar

/-- Whether the character before a place is part of a word. -/
def leavesWord (cursor : Cursor) : Bool := cursor.before.any isWordChar

end Cursor

/-- The places behind matches in a row, those of long rows first. At most `fuel` matches are tried;
those that match nothing are not repeated. -/
def repeatFrom (ends : Cursor → List Cursor) :
    Nat → Nat → Option Nat → List Cursor → List Cursor
  | 0, least, _, cursors => if least = 0 then cursors else []
  | fuel + 1, least, most, cursors =>
    let further :=
      if most = some 0 || cursors.isEmpty then []
      else
        let next := cursors.flatMap fun cursor =>
          (ends cursor).filter fun other => least ≠ 0 || cursor.index < other.index
        repeatFrom ends fuel (least - 1) (most.map (· - 1)) (Cursor.distinct next)
    further ++ if least = 0 then cursors else []

namespace Regex

def hasGroup : Regex → Bool
  | .group _ _ => true
  | .sequence a b | .either a b => a.hasGroup || b.hasGroup
  | .repeated _ _ part => part.hasGroup
  | _ => false

/-- Whether two characters count as the same. -/
def alike (fold : Bool) (a b : Char) : Bool :=
  if fold then a.toLower == b.toLower else a == b

/-- The places behind the matches that start at a place; those that are tried first come first. With
`fold`, case does not matter. -/
def ends (fold : Bool) : Regex → Cursor → List Cursor
  | .nothing, cursor => [cursor]
  | .char c, cursor => cursor.step (alike fold c)
  | .anyChar, cursor => cursor.step fun _ => true
  | .member negated ranges, cursor =>
    cursor.step fun c =>
      (inCharRanges ranges c ||
        fold && (inCharRanges ranges c.toLower || inCharRanges ranges c.toUpper)) != negated
  | .start, cursor => if cursor.before.isNone then [cursor] else []
  | .stop, cursor => if cursor.after.isEmpty then [cursor] else []
  | .between test, cursor => if test cursor.leavesWord cursor.meetsWord then [cursor] else []
  | .sequence first second, cursor =>
    Cursor.distinct ((first.ends fold cursor).flatMap (second.ends fold))
  | .either first second, cursor => first.ends fold cursor ++ second.ends fold cursor
  | .repeated least most part, cursor =>
    repeatFrom (part.ends fold) (least + cursor.after.length) least most [cursor]
  | .group number part, cursor => (part.ends fold cursor).map (Cursor.closing number cursor)
  | .same number, cursor =>
    match cursor.groups.lookup number with
    | some text => cursor.steps (alike fold) text
    | none => []

/-- The place behind the longest match that starts at a place; of equally long ones the first. -/
def longest? (fold : Bool) (regex : Regex) (cursor : Cursor) : Option Cursor :=
  (regex.ends fold cursor).foldl (fun best? other =>
    match best? with
    | some best => if best.index < other.index then some other else some best
    | none => some other) none

end Regex

/-- A match: the text before it, the text that matches, what its groups have matched, and the place
behind it. -/
structure RegexMatch where
  before : List Char
  text : List Char
  groups : List (Nat × List Char)
  next : Cursor

/-- The first match from a place on; `rest` is what follows the place. -/
def Regex.searchFrom? (fold : Bool) (regex : Regex) (cursor : Cursor) :
    List Char → Option RegexMatch
  | [] =>
    (regex.longest? fold { cursor with after := [] }).map fun next => ⟨[], [], next.groups, next⟩
  | c :: rest =>
    match regex.longest? fold { cursor with after := c :: rest } with
    | some next => some ⟨[], (c :: rest).take (next.index - cursor.index), next.groups, next⟩
    | none =>
      (searchFrom? fold regex { cursor with index := cursor.index + 1, before := some c } rest).map
        fun found => { found with before := c :: found.before }

def Regex.search? (fold : Bool) (regex : Regex) (cursor : Cursor) : Option RegexMatch :=
  regex.searchFrom? fold { cursor with groups := [] } cursor.after

/-- Whether a regular expression matches a part of a text. -/
def Regex.matches (fold : Bool) (regex : Regex) (text : List Char) : Bool :=
  (regex.search? fold (Cursor.start text)).isSome

end TitleBar.Shell
