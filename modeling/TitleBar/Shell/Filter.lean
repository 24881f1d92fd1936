import TitleBar.Shell.Utility

/-! # Filters

The utilities that read bytes and print what they make of them.
-/

namespace TitleBar.Shell.Utility

open Text Effect

/-- The lines of an output, each with its newline. -/
def byteLines (bytes : List UInt8) : List (List UInt8) :=
  let (lines, last) := bytes.foldl (fun (lines, last) byte =>
    if byte = 10 then ((byte :: last).reverse :: lines, []) else (lines, byte :: last))
    (([], []) : List (List UInt8) × List UInt8)
  (if last.isEmpty then lines else last.reverse :: lines).reverse

/-- The lines of an output without newlines. -/
def bareLines (bytes : List UInt8) : List (List UInt8) :=
  (byteLines bytes).map fun line => if line.getLast? = some 10 then line.dropLast else line

/-- The options that arguments start with, as single letters, and the arguments behind them. -/
def splitOptions (arguments : List String) : List Char × List String :=
  let isOption (argument : String) : Bool :=
    argument.toList.head? == some '-' && 1 < argument.toList.length && argument != "--"
  let rest := arguments.dropWhile isOption
  (((arguments.takeWhile isOption).map fun argument => argument.toList.tail).flatten,
    if rest.head? = some "--" then rest.tail else rest)

/-- A byte as it is shown when control characters are made visible. -/
def visibleByte (byte : UInt8) : List UInt8 :=
  let low (byte : UInt8) : List UInt8 :=
    if byte < 32 then [94, byte + 64] else if byte = 127 then [94, 63] else [byte]
  if byte = 9 then [9] else if byte < 128 then low byte else [77, 45] ++ low (byte - 128)

structure LineStyle where
  /-- All lines have numbers. -/
  numbered : Bool
  /-- Lines that are not empty have numbers. -/
  counted : Bool
  /-- Of empty lines in a row one is kept. -/
  squeezed : Bool
  /-- The ends of lines are marked. -/
  ends : Bool
  /-- Tabs are made visible. -/
  tabs : Bool
  /-- Other control characters are made visible. -/
  controls : Bool

def LineStyle.ofLetters (letters : List Char) : LineStyle :=
  let has := letters.contains
  { numbered := has 'n' && !has 'b'
    counted := has 'b'
    squeezed := has 's'
    ends := has 'E' || has 'A' || has 'e'
    tabs := has 'T' || has 'A' || has 't'
    controls := has 'v' || has 'A' || has 'e' || has 't' }

/-- The lines of an output without empty ones behind an empty one. -/
def squeezeLines : List (List UInt8) → List (List UInt8)
  | [10] :: [10] :: rest => squeezeLines ([10] :: rest)
  | line :: rest => line :: squeezeLines rest
  | [] => []

/-- How a line is shown without its number. -/
def LineStyle.show (style : LineStyle) (line : List UInt8) : List UInt8 :=
  let ended := line.getLast? = some 10
  let text := if ended then line.dropLast else line
  let text := if style.controls then (text.map visibleByte).flatten else text
  let text := if style.tabs then text.flatMap fun byte => if byte = 9 then [94, 73] else [byte]
    else text
  text ++ (if ended && style.ends then [36] else []) ++ if ended then [10] else []

def LineStyle.showAll (style : LineStyle) (bytes : List UInt8) : List UInt8 :=
  let lines := byteLines bytes
  let lines := if style.squeezed then squeezeLines lines else lines
  (lines.foldl (fun (number, shown) line =>
    if style.numbered || style.counted && line ≠ [10] then
      let label := padTo 6 false false (encode (toString number).toList)
      (number + 1, (label ++ 9 :: style.show line) :: shown)
    else (number, style.show line :: shown)) (1, [])).2.reverse.flatten

/-- Prints what files hold. -/
def cat (arguments : List String) : Effect Unit := do
  let (options, names) := splitOptions arguments
  if options.all (· == 'u') then
    let (streams, well) ← sources names
    streams.forM (relay id)
    setStatus (if well then 0 else 1)
  else if !options.all (['n', 'b', 's', 'E', 'T', 'A', 'e', 't', 'v', 'u'].contains ·) then
    setStatus 1
  else transform names (LineStyle.ofLetters options).showAll

/-- What `head` and `tail` count, how far, and in which files. -/
def countOption : List String → Char × List Char × List String
  | [] => ('n', ['1', '0'], [])
  | argument :: rest =>
    match argument.toList with
    | ['-', 'n'] => ('n', (rest.headD "").toList, rest.tail)
    | ['-', 'c'] => ('c', (rest.headD "").toList, rest.tail)
    | '-' :: 'n' :: count => ('n', count, rest)
    | '-' :: 'c' :: count => ('c', count, rest)
    | '-' :: d :: count => if d.isDigit then ('n', d :: count, rest) else ('?', [], [])
    | _ => ('n', ['1', '0'], argument :: rest)

/-- The number of a count, and the number of a kilobyte behind it. -/
def amount? (text : List Char) : Option Nat :=
  match text.getLast? with
  | some 'k' | some 'K' => (natural? text.dropLast).map (1024 * ·)
  | some 'M' => (natural? text.dropLast).map (1048576 * ·)
  | _ => natural? text

/-- Prints the first lines or bytes; with a minus sign all but the last ones. -/
def head (arguments : List String) : Effect Unit := do
  let (unit, text, names) := countOption arguments
  let butLast := text.head? = some '-'
  match amount? (if butLast then text.tail else text) with
  | none => setStatus 1
  | some count =>
    if butLast then
      transform names fun bytes =>
        if unit = 'c' then bytes.take (bytes.length - count)
        else
          let lines := byteLines bytes
          (lines.take (lines.length - count)).flatten
    else
      let (streams, well) ← sources names
      for stream in streams do
        let (bytes, time?, _) :=
          if unit = 'c' then stream.take count else stream.takeLines count
        match time? with
        | none => throw (.endless [])
        | some time => do
          waitUntil time
          let _ ← write 1 bytes
      setStatus (if well then 0 else 1)

/-- The last elements, or those from a place on. -/
def lastOf {α : Type} (fromStart : Bool) (count : Nat) (items : List α) : List α :=
  if fromStart then items.drop (count - 1) else items.drop (items.length - count)

/-- Prints the last lines or bytes; with a plus sign those from a place on. -/
def tail (arguments : List String) : Effect Unit :=
  let (unit, text, names) := countOption arguments
  let fromStart := text.head? = some '+'
  match amount? (if fromStart || text.head? = some '-' then text.tail else text) with
  | none => setStatus 1
  | some count =>
    transform names fun bytes =>
      if unit = 'c' then lastOf fromStart count bytes
      else (lastOf fromStart count (byteLines bytes)).flatten

def countWords (bytes : List UInt8) : Nat :=
  let (count, _) := bytes.foldl (fun (count, inside) byte =>
    let blank := byte = 32 || (9 ≤ byte && byte ≤ 13)
    (if !blank && !inside then count + 1 else count, !blank)) (0, false)
  count

/-- Counts lines, words and bytes. -/
def count (arguments : List String) : Effect Unit := do
  let (options, names) := splitOptions arguments
  let options := if options.isEmpty then ['l', 'w', 'c'] else options
  let (bytes, well) ← readAll names
  let counts := [('l', (bytes.filter (· == 10)).length), ('w', countWords bytes),
    ('m', bytes.length), ('c', bytes.length)].filter fun (letter, _) => options.contains letter
  let cells := counts.map fun (_, n) => toString n
  let text := match cells, names with
    | [cell], [] => cell
    | cells, _ =>
      let width := if names.isEmpty then 7 else 1
      String.intercalate " " ((cells.map fun (cell : String) =>
        String.ofList (List.replicate (width - cell.length) ' ') ++ cell) ++ names)
  answer (encode text.toList ++ [10]) (if well then 0 else 1)

/-- Keeps one of the same lines in a row. -/
def unique (arguments : List String) : Effect Unit := do
  let (options, names) := splitOptions arguments
  transform names fun bytes =>
    let groups := (bareLines bytes).splitBy (· == ·)
    (groups.map fun group =>
      let line := group.headD []
      if options.contains 'c' then
        padTo 7 false false (encode (toString group.length).toList) ++ 32 :: line ++ [10]
      else if options.contains 'd' && group.length = 1 || options.contains 'u' && 1 < group.length
      then []
      else line ++ [10]).flatten

/-- Whether a list of numbers and ranges, such as `1,3-5`, has a number. -/
def inRanges (text : List Char) (n : Nat) : Bool :=
  (splitAt (· == ',') text).any fun range =>
    match splitAt (· == '-') range with
    | [single] => natural? single = some n
    | [low, high] => (natural? low).getD 1 ≤ n && n ≤ (natural? high).getD n
    | _ => false

/-- Prints parts of lines: bytes, or fields between marks. -/
def cut (arguments : List String) : Effect Unit := do
  let (options, names) := readOptions ['b', 'c', 'd', 'f', 'O'] [("bytes", 'b'), ("characters", 'c'),
    ("delimiter", 'd'), ("fields", 'f'), ("only-delimited", 's'), ("complement", 'C'),
    ("output-delimiter", 'O')] arguments
  let mark := ((optionValue? options 'd').bind fun text => (encode text.toList).head?).getD 9
  let between := ((optionValue? options 'O').map fun text => encode text.toList).getD [mark]
  let choose (ranges : String) (items : List (List UInt8)) : List (List UInt8) :=
    (items.zipIdx.filter fun (_, i) =>
      inRanges ranges.toList (i + 1) != hasOption options 'C').map (·.1)
  let lines (f : List UInt8 → Option (List UInt8)) : Effect Unit :=
    transform names fun bytes =>
      ((bareLines bytes).filterMap fun line => (f line).map (· ++ [10])).flatten
  match optionValue? options 'f', optionValue? options 'c' <|> optionValue? options 'b' with
  | some ranges, _ =>
    lines fun line =>
      let fields := line.splitOnP (· == mark)
      if fields.length = 1 then if hasOption options 's' then none else some line
      else some (List.intercalate between (choose ranges fields))
  | none, some ranges => lines fun line => some (choose ranges (line.map ([·]))).flatten
  | none, none => setStatus 1

def copyBlocks (arguments : List String) : Effect Unit := do
  let value? (key : String) : Option String :=
    arguments.findSome? fun argument =>
      (strip? (key.toList ++ ['=']) argument.toList).map String.ofList
  match ← source? ((value? "if").getD "-") with
  | none => setStatus 1
  | some stream =>
    let size := ((value? "bs").bind fun text => amount? text.toList).getD 512
    match (value? "count").bind fun text => amount? text.toList with
    | none => relay id stream
    | some count =>
      let (bytes, time?, _) := stream.take (size * count)
      match time? with
      | none => throw (.endless [])
      | some time => do
        waitUntil time
        answer bytes 0

def reverseLines (arguments : List String) : Effect Unit :=
  transform arguments fun bytes => (byteLines bytes).reverse.flatten

/-- Prints each line backwards. -/
def reverseText (arguments : List String) : Effect Unit :=
  transform arguments fun bytes =>
    ((byteLines bytes).map fun line =>
      if line.getLast? = some 10 then line.dropLast.reverse ++ [10] else line.reverse).flatten

/-- Prints its input and writes it to files. -/
def tee (arguments : List String) : Effect Unit := do
  let (options, names) := splitOptions arguments
  let bytes ← takeAll
  for name in names do
    if !devices.contains name then
      modify fun state =>
        let path := state.path name
        let before := if options.contains 'a' then (state.files.content? path).getD [] else []
        { state with files := state.files.write path (before ++ bytes) }
  answer bytes 0

def filters : List (String × Utility) := [
  ("cat", cat),
  ("head", head),
  ("tail", tail),
  ("wc", count),
  ("cut", cut),
  ("dd", copyBlocks),
  ("uniq", unique),
  ("tac", reverseLines),
  ("rev", reverseText),
  ("tee", tee)]

end TitleBar.Shell.Utility
