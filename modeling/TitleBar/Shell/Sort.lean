import TitleBar.Shell.Filter

/-! # Order of lines

Lines are compared by keys, which are parts of them, and by the whole lines if all keys are equal.
-/

namespace TitleBar.Shell

open Text

/-- An end of a key: a field and a character in it, both counted from one. The end of a field has
the character number zero. -/
structure KeyEnd where
  field : Nat
  char : Nat
  /-- Blanks at the start of the field do not count. -/
  skips : Bool
deriving DecidableEq, Repr

structure SortKey where
  start : KeyEnd
  stop? : Option KeyEnd
  /-- The letters that say what is compared, such as `n` for numbers. -/
  letters : List Char
deriving DecidableEq, Repr

structure LineOrder where
  /-- The byte between fields; without one, blanks in front of a field belong to it. -/
  separator? : Option UInt8
  keys : List SortKey
  letters : List Char
  /-- Whole lines do not matter if all keys are equal. -/
  stable : Bool

def isBlankByte (byte : UInt8) : Bool := byte == 32 || byte == 9

namespace LineOrder

/-- What follows some fields of a line. -/
def skipFields (separator? : Option UInt8) : Nat → List UInt8 → List UInt8
  | 0, line => line
  | count + 1, line =>
    match separator? with
    | some separator => skipFields separator? count ((line.dropWhile (· != separator)).drop 1)
    | none => skipFields separator? count ((line.dropWhile isBlankByte).dropWhile (!isBlankByte ·))

def fromField (separator? : Option UInt8) (line : List UInt8) (keyEnd : KeyEnd) : List UInt8 :=
  let rest := skipFields separator? (keyEnd.field - 1) line
  if keyEnd.skips then rest.dropWhile isBlankByte else rest

/-- How many bytes of a line stand before the start of a key. -/
def startOffset (separator? : Option UInt8) (line : List UInt8) (start : KeyEnd) : Nat :=
  line.length - (fromField separator? line start).length + (start.char - 1)

/-- How many bytes of a line stand before the end of a key. -/
def stopOffset (separator? : Option UInt8) (line : List UInt8) (stop : KeyEnd) : Nat :=
  if stop.char = 0 then
    let rest := skipFields separator? (stop.field - 1) line
    match separator? with
    | some separator => line.length - (rest.dropWhile (· != separator)).length
    | none => line.length - ((rest.dropWhile isBlankByte).dropWhile (!isBlankByte ·)).length
  else line.length - (fromField separator? line stop).length + stop.char

def part (separator? : Option UInt8) (key : SortKey) (line : List UInt8) : List UInt8 :=
  let stop := (key.stop?.map (stopOffset separator? line)).getD line.length
  (line.take stop).drop (startOffset separator? line key.start)

/-- The number that bytes start with, as an integer and its decimal places. -/
def number (bytes : List UInt8) : Int × Nat :=
  let text := (bytes.dropWhile isBlankByte).map fun byte => Char.ofNat byte.toNat
  let (negative, text) := match text with
    | '-' :: rest => (true, rest)
    | text => (false, text)
  let whole := text.takeWhile Char.isDigit
  let places := match text.drop whole.length with
    | '.' :: rest => rest.takeWhile Char.isDigit
    | _ => []
  let n : Int := numeral 10 (whole ++ places)
  (if negative then -n else n, places.length)

def compareNumbers (a b : Int × Nat) : Ordering := compare (a.1 * Int.pow 10 b.2) (b.1 * Int.pow 10 a.2)

/-- The rank of the letter behind a number that stands for a power of a thousand. -/
def unit (bytes : List UInt8) : Nat :=
  let text := (bytes.dropWhile isBlankByte).map fun byte => Char.ofNat byte.toNat
  let rest := text.dropWhile fun c => c == '-' || c.isDigit || c == '.'
  match rest.head? with
  | some c => ['K', 'M', 'G', 'T', 'P', 'E', 'Z', 'Y'].idxOf c.toUpper + 1 |>.mod 9
  | none => 0

/-- The number of the month whose name bytes start with; zero if they start with none. -/
def month (bytes : List UInt8) : Nat :=
  let name := ((bytes.dropWhile isBlankByte).take 3).map fun byte => (Char.ofNat byte.toNat).toUpper
  (["JAN", "FEB", "MAR", "APR", "MAY", "JUN", "JUL", "AUG", "SEP", "OCT", "NOV", "DEC"].idxOf
    (String.ofList name) + 1) % 13

/-- The order of characters in versions: a tilde comes before the end, letters before other signs. -/
def versionRank (c : Char) : Nat :=
  if c = '~' then 0 else if c.isAlpha then c.toNat + 1 else c.toNat + 256

/-- Compares two versions, in which runs of digits are numbers; at most `fuel` runs are compared. -/
def compareVersions : Nat → List Char → List Char → Ordering
  | 0, _, _ => .eq
  | fuel + 1, a, b =>
    let (x, y) := (a.takeWhile (!·.isDigit), b.takeWhile (!·.isDigit))
    let ranks (text : List Char) : List Nat := text.map versionRank ++ [1]
    if x ≠ y then if ranks x < ranks y then .lt else .gt
    else
      let (a, b) := (a.drop x.length, b.drop y.length)
      let (m, n) := (a.takeWhile Char.isDigit, b.takeWhile Char.isDigit)
      if a.isEmpty && b.isEmpty then .eq
      else
        (compare (numeral 10 m) (numeral 10 n)).then
          (compareVersions fuel (a.drop m.length) (b.drop n.length))

/-- Compares bytes, or what is left of them and how they are written by some letters. -/
def compareTexts (letters : List Char) (a b : List UInt8) : Ordering :=
  let seen (bytes : List UInt8) : List UInt8 :=
    let chars := bytes.map fun byte => Char.ofNat byte.toNat
    let chars := if letters.contains 'd' then chars.filter fun c => c.isAlphanum || c = ' ' || c = '\t'
      else chars
    let chars := if letters.contains 'i' then chars.filter fun c => ' ' ≤ c && c ≤ '~' else chars
    (if letters.contains 'f' then chars.map Char.toUpper else chars).map fun c =>
      UInt8.ofNat c.toNat
  let (x, y) := (seen a, seen b)
  if x = y then .eq else if x < y then .lt else .gt

/-- Compares two parts of lines as letters say. -/
def compareParts (letters : List Char) (a b : List UInt8) : Ordering :=
  let skipped (bytes : List UInt8) :=
    if letters.contains 'b' then bytes.dropWhile isBlankByte else bytes
  let (a, b) := (skipped a, skipped b)
  let result :=
    if letters.contains 'n' || letters.contains 'g' then compareNumbers (number a) (number b)
    else if letters.contains 'h' then
      let signed (bytes : List UInt8) : Int :=
        if (number bytes).1 < 0 then -(unit bytes : Int) else unit bytes
      (compare (signed a) (signed b)).then (compareNumbers (number a) (number b))
    else if letters.contains 'M' then compare (month a) (month b)
    else if letters.contains 'V' then
      let chars (bytes : List UInt8) := bytes.map fun byte => Char.ofNat byte.toNat
      compareVersions (a.length + b.length + 1) (chars a) (chars b)
    else compareTexts letters a b
  if letters.contains 'r' then result.swap else result

/-- Compares two lines by the keys. A key without letters of its own has those of the order. -/
def compareKeys (order : LineOrder) (a b : List UInt8) : Ordering :=
  if order.keys.isEmpty then compareParts order.letters a b
  else order.keys.foldl (fun result key =>
    let letters := if key.letters.isEmpty then order.letters else key.letters
    result.then (compareParts letters (part order.separator? key a) (part order.separator? key b)))
    .eq

def compareLines (order : LineOrder) (a b : List UInt8) : Ordering :=
  let whole := if a = b then Ordering.eq else if a < b then .lt else .gt
  let whole := if order.letters.contains 'r' then whole.swap else whole
  (order.compareKeys a b).then (if order.stable then .eq else whole)

end LineOrder

/-- Reads an end of a key: a field, a character if one is given, and letters. -/
def readKeyEnd (text : List Char) : KeyEnd × List Char × List Char :=
  let field := text.takeWhile Char.isDigit
  let rest := text.drop field.length
  let (char, rest) := match rest with
    | '.' :: rest => (rest.takeWhile Char.isDigit, rest.dropWhile Char.isDigit)
    | rest => ([], rest)
  let letters := rest.takeWhile Char.isAlpha
  (⟨numeral 10 field, numeral 10 char, letters.contains 'b'⟩, letters, rest.drop letters.length)

/-- The key that a text describes, such as `2,3n`. -/
def SortKey.ofText? (text : String) : Option SortKey :=
  let (start, letters, rest) := readKeyEnd text.toList
  let start := { start with char := max 1 start.char }
  if start.field = 0 then none
  else match rest with
    | [] => some ⟨start, none, letters⟩
    | ',' :: rest =>
      let (stop, more, rest) := readKeyEnd rest
      if stop.field = 0 || !rest.isEmpty then none else some ⟨start, some stop, letters ++ more⟩
    | _ => none

namespace Utility

open Effect

/-- Whether no line of some comes before the one in front of it; with `strict`, none is equal to it. -/
def isSorted (order : LineOrder) (strict : Bool) : List (List UInt8) → Bool
  | a :: b :: rest =>
    let result := if strict then order.compareKeys a b else order.compareLines a b
    (result == .lt || !strict && result == .eq) && isSorted order strict (b :: rest)
  | _ => true

/-- The letters of options that say how lines are compared. -/
def orderLetters : List Char := ['b', 'd', 'f', 'g', 'h', 'i', 'M', 'n', 'r', 'V']

/-- Lines without those that are equal to the one in front of them. -/
def withoutEqual (order : LineOrder) : List (List UInt8) → List (List UInt8)
  | [] => []
  | line :: rest =>
    line :: (withoutEqual order rest).dropWhile fun other => order.compareKeys line other == .eq

def sort (arguments : List String) : Effect Unit := do
  let (options, names) := readOptions ['k', 't', 'o', 'S', 'T'] [] arguments
  let has := hasOption options
  let keys? := (options.filter (·.1 == 'k')).mapM fun (_, text) => SortKey.ofText? text
  let known := ['k', 't', 'o', 'u', 's', 'c', 'C', 'm', 'z', 'S', 'T'] ++ orderLetters
  match keys?, options.all fun (c, _) => known.contains c with
  | some keys, true => do
    let order : LineOrder :=
      { separator? := (optionValue? options 't').bind fun text => (encode text.toList).head?
        keys
        letters := (options.map (·.1)).filter (orderLetters.contains ·)
        stable := has 's' || has 'u' }
    let (bytes, well) ← readAll names
    let lines := bareLines bytes
    if has 'c' || has 'C' then setStatus (if isSorted order (has 'u') lines then 0 else 1)
    else
      let sorted := lines.mergeSort fun a b => order.compareLines a b != .gt
      let kept := if has 'u' then withoutEqual order sorted else sorted
      let output := (kept.map (· ++ [10])).flatten
      if !well then setStatus 2
      else match optionValue? options 'o' with
        | some name => do
          modify fun state => { state with files := state.files.write (state.path name) output }
          setStatus 0
        | none => answer output 0
  | _, _ => setStatus 2

end Utility

end TitleBar.Shell
