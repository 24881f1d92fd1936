import TitleBar.Shell.Filter

/-! # Layout of lines

The utilities that number, join, break and dump what they read.
-/

namespace TitleBar.Shell.Utility

open Text Effect

/-- Prints lines with numbers; empty ones have none unless all lines are numbered. -/
def numberLines (arguments : List String) : Effect Unit := do
  let (options, names) := readOptions ['b', 'w', 's', 'v', 'i', 'n'] [] arguments
  let number (letter : Char) (otherwise : Nat) : Nat :=
    ((optionValue? options letter).bind fun text => natural? text.toList).getD otherwise
  let width := number 'w' 6
  let mark := encode ((optionValue? options 's').getD "\t").toList
  let kind := (optionValue? options 'b').getD "t"
  let format := (optionValue? options 'n').getD "rn"
  transform names fun bytes =>
    ((bareLines bytes).foldl (fun (next, shown) line =>
      if kind = "a" || kind = "t" && !line.isEmpty then
        let label := padTo width (format = "ln") (format = "rz") (encode (toString next).toList)
        (next + number 'i' 1, (label ++ mark ++ line ++ [10]) :: shown)
      else (next, (List.replicate (width + mark.length) 32 ++ line ++ [10]) :: shown))
      (number 'v' 1, [])).2.reverse.flatten

/-- The lines that each of some names stands for; those that stand for the input take turns. -/
def dealLines (input : List (List UInt8)) (names : List String)
    (content : String → Option (List (List UInt8))) : Option (List (List (List UInt8))) :=
  let shares := names.count "-"
  names.zipIdx.mapM fun (name, i) =>
    if name = "-" then
      let turn := (names.take i).count "-"
      some ((input.zipIdx.filter fun (_, j) => j % shares = turn).map (·.1))
    else content name

/-- Cells of a row with marks between them, which are taken in turn. -/
def joinCells (marks : List (List UInt8)) (cells : List (List UInt8)) : List UInt8 :=
  match cells with
  | [] => [10]
  | first :: rest =>
    first ++ (rest.zipIdx.flatMap fun (cell, i) =>
      marks.getD (i % max 1 marks.length) [] ++ cell) ++ [10]

/-- Prints lines of several files side by side; with `-s` the lines of each file in one. -/
def paste (arguments : List String) : Effect Unit := do
  let (options, names) := readOptions ['d'] [("serial", 's'), ("delimiters", 'd')] arguments
  let names := if names.isEmpty then ["-"] else names
  let marks := (encode (((optionValue? options 'd').map fun text =>
    String.ofList ((text.replace "\\n" "\n").replace "\\t" "\t").toList).getD "\t").toList).map
      fun byte => [byte]
  let input ← if names.contains "-" then takeAll else pure []
  let state ← get
  let content (name : String) := (state.files.content? (state.path name)).map bareLines
  match dealLines (bareLines input) names content with
  | none => setStatus 1
  | some columns =>
    if hasOption options 's' then answer (columns.flatMap (joinCells marks)) 0
    else
      let height := (columns.map List.length).foldl max 0
      let rows := (List.range height).map fun i => columns.map fun column => column.getD i []
      answer (rows.flatMap (joinCells marks)) 0

/-- A line broken into pieces of some width; with `words` behind blanks if possible. At most `fuel`
pieces are made. -/
def foldLine (words : Bool) (width : Nat) : Nat → List UInt8 → List (List UInt8)
  | 0, line => [line]
  | fuel + 1, line =>
    if line.length ≤ width then [line]
    else
      let piece := line.take width
      let behind := (piece.reverse.dropWhile (· != 32)).reverse
      let piece := if words && !behind.isEmpty then behind else piece
      piece :: foldLine words width fuel (line.drop piece.length)

def foldLines (arguments : List String) : Effect Unit := do
  let (options, names) := readOptions ['w'] [("width", 'w'), ("spaces", 's')] arguments
  let width := max 1 (((optionValue? options 'w').bind fun text => natural? text.toList).getD 80)
  transform names fun bytes =>
    ((byteLines bytes).map fun line =>
      let ended := line.getLast? = some 10
      let text := if ended then line.dropLast else line
      List.intercalate [10] (foldLine (hasOption options 's') width text.length text) ++
        if ended then [10] else []).flatten

def dumpedByte (kind : String) (byte : UInt8) : List Char :=
  let digits (base width : Nat) : List Char :=
    let text := Nat.toDigits base byte.toNat
    List.replicate (width - text.length) '0' ++ text
  let spaced (width : Nat) (text : List Char) : List Char :=
    List.replicate (width - text.length) ' ' ++ text
  match kind with
  | "x1" => ' ' :: digits 16 2
  | "u1" => spaced 4 (Nat.toDigits 10 byte.toNat)
  | "d1" =>
    let n : Int := if byte < 128 then byte.toNat else (byte.toNat : Int) - 256
    spaced 5 (toString n).toList
  | "c" =>
    let letter? := [(0, '0'), (7, 'a'), (8, 'b'), (9, 't'), (10, 'n'), (11, 'v'), (12, 'f'),
      (13, 'r')].lookup byte.toNat
    spaced 4 (match letter? with
      | some letter => ['\\', letter]
      | none =>
        if 32 ≤ byte && byte < 127 then [Char.ofNat byte.toNat] else digits 8 3)
  | _ => ' ' :: digits 8 3

def dumpedRow (kind : String) (row : List UInt8) : List Char :=
  if kind = "o2" then
    (row.zipIdx.filter fun (_, i) => i % 2 = 0).flatMap fun (low, i) =>
      let value := low.toNat + 256 * ((row[i + 1]?).getD 0).toNat
      let digits := Nat.toDigits 8 value
      ' ' :: (List.replicate (6 - digits.length) '0' ++ digits)
  else row.flatMap (dumpedByte kind)

/-- Bytes in rows of a width; at most `fuel` of them. -/
def byteRows (width : Nat) : Nat → List UInt8 → List (List UInt8)
  | 0, _ => []
  | fuel + 1, bytes =>
    if bytes.isEmpty then [] else bytes.take width :: byteRows width fuel (bytes.drop width)

/-- Prints the bytes of files by their numbers. -/
def dump (arguments : List String) : Effect Unit := do
  let (options, names) := readOptions ['A', 't', 'N', 'j'] [] arguments
  let kind := if hasOption options 'c' then "c"
    else if hasOption options 'b' then "o1"
    else match optionValue? options 't' with
      | some "x1" => "x1"
      | some "c" => "c"
      | some "u1" => "u1"
      | some "d1" => "d1"
      | some "o1" => "o1"
      | _ => "o2"
  let base? : Option Nat := match optionValue? options 'A' with
    | some "n" => none
    | some "d" => some 10
    | some "x" => some 16
    | _ => some 8
  let width := if base? = some 16 then 6 else 7
  let label (place : Nat) : List Char := match base? with
    | none => []
    | some base =>
      let digits := Nat.toDigits base place
      List.replicate (width - digits.length) '0' ++ digits
  let count? := (optionValue? options 'N').bind fun text => natural? text.toList
  transform names fun bytes =>
    let bytes := (count?.map bytes.take).getD bytes
    let rows := byteRows 16 (bytes.length + 1) bytes
    let (_, _, lines) := rows.foldl (fun (place, last?, lines) row =>
      let again := last? = some row && row.length = 16
      let line := if again then ['*', '\n'] else label place ++ dumpedRow kind row ++ ['\n']
      let lines := if again && lines.head? = some ['*', '\n'] then lines else line :: lines
      (place + row.length, some row, lines))
      ((0, none, []) : Nat × Option (List UInt8) × List (List Char))
    let ending := if base?.isNone then [] else label bytes.length ++ ['\n']
    encode (lines.reverse.flatten ++ ending)

/-- The signs of a base of sixty-four. -/
def signs64 : List Char :=
  charsOf [('A', 'Z'), ('a', 'z'), ('0', '9')] ++ ['+', '/']

/-- Bytes in a base of sixty-four: three of them as four signs. -/
def encode64 : List UInt8 → List Char
  | [] => []
  | [a] =>
    let n := a.toNat * 16
    [signs64.getD (n / 64) '=', signs64.getD (n % 64) '=', '=', '=']
  | [a, b] =>
    let n := (a.toNat * 256 + b.toNat) * 4
    [signs64.getD (n / 4096) '=', signs64.getD (n / 64 % 64) '=', signs64.getD (n % 64) '=', '=']
  | a :: b :: c :: rest =>
    let n := (a.toNat * 256 + b.toNat) * 256 + c.toNat
    signs64.getD (n / 262144) '=' :: signs64.getD (n / 4096 % 64) '=' ::
      signs64.getD (n / 64 % 64) '=' :: signs64.getD (n % 64) '=' :: encode64 rest

/-- The bytes of signs of a base of sixty-four; none if there are other signs. -/
def decode64? : List Char → Option (List UInt8)
  | [] => some []
  | [a, b, '=', '='] => do
    let n := (← signs64.idxOf? a) * 64 + (← signs64.idxOf? b)
    return [UInt8.ofNat (n / 16)]
  | [a, b, c, '='] => do
    let n := ((← signs64.idxOf? a) * 64 + (← signs64.idxOf? b)) * 64 + (← signs64.idxOf? c)
    return [UInt8.ofNat (n / 1024), UInt8.ofNat (n / 4 % 256)]
  | a :: b :: c :: d :: rest => do
    let high := (← signs64.idxOf? a) * 64 + (← signs64.idxOf? b)
    let n := (high * 64 + (← signs64.idxOf? c)) * 64 + (← signs64.idxOf? d)
    return UInt8.ofNat (n / 65536) :: UInt8.ofNat (n / 256 % 256) :: UInt8.ofNat (n % 256) ::
      (← decode64? rest)
  | _ => none

/-- Prints files in a base of sixty-four, or what such files stand for. -/
def base64 (arguments : List String) : Effect Unit := do
  let (options, names) := readOptions ['w'] [("decode", 'd'), ("wrap", 'w')] arguments
  let (bytes, well) ← readAll names
  if !well then setStatus 1
  else if hasOption options 'd' then
    match decode64? (((decode bytes).toOption.getD []).filter (· != '\n')) with
    | some bytes => answer bytes 0
    | none => setStatus 1
  else
    let width := ((optionValue? options 'w').bind fun text => natural? text.toList).getD 76
    let text := encode (encode64 bytes)
    let rows := if width = 0 then [text] else (byteRows width (text.length + 1) text).map (· ++ [10])
    answer rows.flatten 0

def layouts : List (String × Utility) := [
  ("nl", numberLines),
  ("paste", paste),
  ("fold", foldLines),
  ("od", dump),
  ("base64", base64)]

end TitleBar.Shell.Utility
