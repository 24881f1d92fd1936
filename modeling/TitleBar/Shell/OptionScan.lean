/-! # Scanning options

A shell that reads the options of its arguments takes one letter after the other. Where it is in the
arguments is kept between the letters.
-/

namespace TitleBar.Shell

/-- How far the options of arguments have been read. -/
structure OptionScan where
  /-- The number of the next argument. -/
  index : Nat
  /-- How many characters of the argument before it have been read, if any of it may be left. -/
  offset : Option Nat
deriving DecidableEq, Repr

structure ScannedOption where
  letter : Char
  /-- The text that belongs to the letter; none if it lacks one or the letter is unknown. -/
  value : Option String
deriving DecidableEq, Repr

namespace OptionScan

def start : OptionScan := ⟨1, none⟩

/-- Whether a letter takes a text, by letters of which some are followed by a colon; none if it is
unknown. -/
def takesText? (letter : Char) : List Char → Option Bool
  | [] => none
  | c :: ':' :: rest => if c = letter then some true else takesText? letter rest
  | c :: rest => if c = letter then some false else takesText? letter rest

/-- Reads a letter, behind which `rest` is left of an argument that is `size` long; `next` is the
number of the argument behind it. -/
def readLetter (letters : List Char) (arguments : List String) (size next : Nat) (letter : Char)
    (rest : List Char) : OptionScan × ScannedOption :=
  let quiet := letters.head? = some ':'
  let wrong (kind : Char) : ScannedOption :=
    if quiet then ⟨kind, some (String.ofList [letter])⟩ else ⟨'?', none⟩
  let within : OptionScan := ⟨next, some (size - rest.length)⟩
  match takesText? letter letters with
  | none => (within, wrong '?')
  | some false => (within, ⟨letter, some ""⟩)
  | some true =>
    if !rest.isEmpty then (⟨next, none⟩, ⟨letter, some (String.ofList rest)⟩)
    else match arguments[next - 1]? with
      | some text => (⟨next + 1, none⟩, ⟨letter, some text⟩)
      | none => (⟨next, none⟩, wrong ':')

/-- The next option of arguments, and how far they have then been read. There is none in front of an
argument without a minus sign; two minus signs end the options. -/
def step (letters : List Char) (arguments : List String) (scan : OptionScan) :
    OptionScan × Option ScannedOption :=
  let scan := if arguments.length + 1 < scan.index then start else scan
  let read (size next : Nat) (letter : Char) (rest : List Char) :=
    let (scan, found) := readLetter letters arguments size next letter rest
    (scan, some found)
  let argument (n : Nat) : List Char := ((arguments[n - 1]?).getD "").toList
  let left := if scan.index ≤ 1 then []
    else (scan.offset.map fun n => (argument (scan.index - 1)).drop n).getD []
  match left with
  | letter :: rest => read (argument (scan.index - 1)).length scan.index letter rest
  | [] =>
    match argument scan.index with
    | ['-', '-'] => (⟨scan.index + 1, none⟩, none)
    | '-' :: letter :: rest => read (rest.length + 2) (scan.index + 1) letter rest
    | _ => (⟨scan.index, none⟩, none)

end OptionScan

end TitleBar.Shell
