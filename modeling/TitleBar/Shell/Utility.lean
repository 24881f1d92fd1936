import TitleBar.Shell.Print
import TitleBar.Shell.Effect
import TitleBar.Shell.WordExpression

/-! # Utilities

The small programs that come with a system, as far as scripts use them to answer: they print, test,
count, or wait.
-/

namespace TitleBar.Shell

open Text

/-- A utility acts on its arguments, in a shell of its own. -/
abbrev Utility := List String → Effect Unit

/-- The number that a text is, if it is a number without a sign. -/
def natural? (text : List Char) : Option Nat :=
  if text.isEmpty || !text.all Char.isDigit then none else some (numeral 10 text)

namespace Effect

def devices : List String := ["/dev/null", "/dev/zero", "/dev/full", "/dev/tty"]

/-- The stream that a name stands for: that of a device, the input, or what a file holds. -/
def source? (name : String) : Effect (Option Stream) := do
  let state ← get
  match name with
  | "-" | "/dev/stdin" => do
    set { state with input := Stream.empty }
    return some state.input
  | "/dev/null" => return some Stream.empty
  | "/dev/zero" | "/dev/full" => return some ⟨[], .repeats [0]⟩
  | _ => return (state.files.content? (state.path name)).map Stream.ofBytes

/-- The streams that names stand for, or the input if there are none, and whether all exist. -/
def sources (names : List String) : Effect (List Stream × Bool) := do
  let streams ← (if names.isEmpty then ["-"] else names).mapM source?
  return (streams.filterMap id, streams.all Option.isSome)

/-- Waits for all bytes of a stream. -/
def await (stream : Stream) : Effect (List UInt8) := do
  match stream.all? with
  | some (bytes, time) => do
    waitUntil time
    return bytes
  | none => throw (.endless [])

/-- All bytes of what names stand for, and whether all of them exist. -/
def readAll (names : List String) : Effect (List UInt8 × Bool) := do
  let (streams, well) ← sources names
  return ((← streams.mapM await).flatten, well)

/-- Prints what comes of all bytes. -/
def transform (names : List String) (f : List UInt8 → List UInt8) : Effect Unit := do
  let (bytes, well) ← readAll names
  answer (f bytes) (if well then 0 else 1)

/-- Prints a stream as it comes, each byte as a function says. -/
def relay (f : List UInt8 → List UInt8) (stream : Stream) : Effect Unit := do
  for chunk in stream.chunks do
    waitUntil chunk.time
    let _ ← write 1 (f chunk.bytes)
  match stream.ending with
  | .closes time => waitUntil time
  | .repeats bytes => throw (.endless (f bytes))

end Effect

namespace Utility

open Effect

/-- The options among arguments by their letters, each with the text that belongs to it, and the
other arguments. A letter of `valued` takes what is left of its argument, or the next argument. Long
names stand for the letters that `names` gives, and for a minus sign if it gives none. -/
def readOptions (valued : List Char) (names : List (String × Char)) :
    List String → List (Char × String) × List String
  | [] => ([], [])
  | argument :: rest =>
    match argument.toList with
    | ['-', '-'] => ([], rest)
    | '-' :: '-' :: text =>
      let name := text.takeWhile (· != '=')
      let letter := (names.lookup (String.ofList name)).getD '-'
      match text.drop name.length, rest with
      | _ :: value, rest =>
        let (options, operands) := readOptions valued names rest
        ((letter, String.ofList value) :: options, operands)
      | [], value :: rest =>
        if valued.contains letter then
          let (options, operands) := readOptions valued names rest
          ((letter, value) :: options, operands)
        else
          let (options, operands) := readOptions valued names (value :: rest)
          ((letter, "") :: options, operands)
      | [], [] => ([(letter, "")], [])
    | '-' :: letter :: letters =>
      let all := letter :: letters
      let flags := all.takeWhile (!valued.contains ·)
      let entries := flags.map fun c => (c, "")
      match all.drop flags.length, rest with
      | [c], value :: rest =>
        let (options, operands) := readOptions valued names rest
        (entries ++ (c, value) :: options, operands)
      | c :: text, rest =>
        let (options, operands) := readOptions valued names rest
        (entries ++ (c, String.ofList text) :: options, operands)
      | [], rest =>
        let (options, operands) := readOptions valued names rest
        (entries ++ options, operands)
    | _ =>
      let (options, operands) := readOptions valued names rest
      (options, argument :: operands)

def hasOption (options : List (Char × String)) (letter : Char) : Bool :=
  options.any (·.1 == letter)

/-- The last text that an option gives. -/
def optionValue? (options : List (Char × String)) (letter : Char) : Option String :=
  (options.reverse.find? (·.1 == letter)).map (·.2)

/-- Prints its arguments; `-n` leaves the newline out and `-e` asks for escapes. -/
def echo (arguments : List String) : Effect Unit := do
  let isOption (argument : String) : Bool :=
    match argument.toList with
    | '-' :: letter :: letters => (letter :: letters).all (['n', 'e', 'E'].contains ·)
    | _ => false
  let letters := ((arguments.takeWhile isOption).map String.toList).flatten
  let escapes := (letters.filter (['e', 'E'].contains ·)).getLast? = some 'e'
  answer (Shell.echo escapes (!letters.contains 'n') (arguments.dropWhile isOption)) 0

def printf (arguments : List String) : Effect Unit := do
  let print (format : String) (rest : List String) : Effect Unit :=
    let (bytes, status) := printFormat format rest
    answer bytes status
  match arguments with
  | [] | ["--"] => setStatus 2
  | "--" :: format :: rest => print format rest
  | format :: rest =>
    if format.toList.head? = some '-' && 1 < format.toList.length then setStatus 2
    else print format rest

/-- Whether a condition on one text holds; none when there is no such condition. -/
def single? (state : State) (sign text : String) : Option Bool :=
  let path := state.path text
  let device := devices.contains text
  match sign with
  | "-n" => some !text.isEmpty
  | "-z" => some text.isEmpty
  | "-e" | "-r" | "-w" | "-O" | "-G" => some (device || state.files.contains path)
  | "-f" => some (state.files.isFile path)
  | "-d" => some (state.files.isDirectory path)
  | "-s" => some (state.files.isDirectory path ||
      (state.files.content? path).any (!·.isEmpty))
  | "-x" => some (match state.files.nodeAt? path with
      | some .directory | some (.file _ true) => true
      | _ => false)
  | "-L" | "-h" => some (state.files.linkTarget? path).isSome
  | "-c" => some device
  | "-b" | "-p" | "-S" | "-t" | "-u" | "-g" | "-k" => some false
  | _ => none

def compare? (test : Int → Int → Bool) (a b : String) : Option Bool := do
  return test (← decimal? a) (← decimal? b)

/-- The conditions on two texts; a condition is malformed when a text is no number. -/
def pairConditions : List (String × (String → String → Option Bool)) := [
  ("=", fun a b => some (a == b)),
  ("==", fun a b => some (a == b)),
  ("!=", fun a b => some (a != b)),
  ("<", fun a b => some (encode a.toList < encode b.toList)),
  (">", fun a b => some (encode b.toList < encode a.toList)),
  ("-eq", compare? (· == ·)),
  ("-ne", compare? (· != ·)),
  ("-lt", compare? (· < ·)),
  ("-le", compare? (· ≤ ·)),
  ("-gt", compare? (· > ·)),
  ("-ge", compare? (· ≥ ·))]

mutual
/-- Takes conditions that are joined by `-o`, with at most `fuel` levels below them. -/
def readAlternatives (state : State) : Nat → List String → Option (Bool × List String)
  | 0, _ => none
  | fuel + 1, words => do
    let (first, rest) ← readJoined state fuel words
    match rest with
    | "-o" :: rest => do
      let (second, rest) ← readAlternatives state fuel rest
      return (first || second, rest)
    | rest => return (first, rest)

def readJoined (state : State) : Nat → List String → Option (Bool × List String)
  | 0, _ => none
  | fuel + 1, words => do
    let (first, rest) ← readCondition state fuel words
    match rest with
    | "-a" :: rest => do
      let (second, rest) ← readJoined state fuel rest
      return (first && second, rest)
    | rest => return (first, rest)

def readCondition (state : State) : Nat → List String → Option (Bool × List String)
  | 0, _ => none
  | fuel + 1, words =>
    match words with
    | a :: sign :: b :: rest =>
      match pairConditions.lookup sign with
      | some condition => (condition a b).map fun holds => (holds, rest)
      | none => readSimple state fuel words
    | words => readSimple state fuel words

/-- Takes a condition that is no comparison. -/
def readSimple (state : State) : Nat → List String → Option (Bool × List String)
  | 0, _ => none
  | fuel + 1, words =>
    match words with
    | "!" :: word :: rest => do
      let (holds, rest) ← readCondition state fuel (word :: rest)
      return (!holds, rest)
    | "(" :: word :: rest => do
      let (holds, rest) ← readAlternatives state fuel (word :: rest)
      let ")" :: rest := rest | none
      return (holds, rest)
    | sign :: word :: rest =>
      if word = "-a" || word = "-o" then some (!sign.isEmpty, word :: rest)
      else match single? state sign word with
        | some holds => some (holds, rest)
        | none => some (!sign.isEmpty, word :: rest)
    | [word] => some (!word.isEmpty, [])
    | [] => none
end

def test (arguments : List String) : Effect Unit := do
  let state ← get
  if arguments.isEmpty then setStatus 1
  else match readAlternatives state (4 * arguments.length + 4) arguments with
    | some (holds, []) => setStatus (if holds then 0 else 1)
    | _ => setStatus 2

def bracket (arguments : List String) : Effect Unit :=
  if arguments.getLast? = some "]" then test arguments.dropLast else setStatus 2

/-- A decimal: an integer, and how many of its digits are places. -/
abbrev PlacedNumber := Int × Nat

def placedNumber? (text : String) : Option PlacedNumber := do
  let (negative, digits) := match text.toList with
    | '-' :: rest => (true, rest)
    | '+' :: rest => (false, rest)
    | rest => (false, rest)
  let (whole, places, rest) ← readDigits? Char.isDigit digits
  if !rest.isEmpty then none
  let n : Int := numeral 10 (whole ++ places)
  return (if negative then -n else n, places.length)

def placedText (places : Nat) (n : Int) : List Char :=
  (if n < 0 then ['-'] else []) ++ Decimal.withPoint places n.natAbs

/-- The arguments of `seq` that are options, and the numbers behind them. -/
def splitNumbers : List String → List String × List String
  | [] => ([], [])
  | "--" :: rest => ([], rest)
  | argument :: rest =>
    if argument.toList.head? != some '-' || (placedNumber? argument).isSome then
      ([], argument :: rest)
    else match argument, rest with
      | "-s", value :: rest | "-f", value :: rest =>
        let (options, numbers) := splitNumbers rest
        (argument :: value :: options, numbers)
      | _, rest =>
        let (options, numbers) := splitNumbers rest
        (argument :: options, numbers)

/-- Prints numbers in a row. -/
def sequence (arguments : List String) : Effect Unit := do
  let (given, texts) := splitNumbers arguments
  let (options, _) := readOptions ['s', 'f'] [("separator", 's'), ("format", 'f'),
    ("equal-width", 'w')] given
  let mark := (optionValue? options 's').getD "\n"
  let row (first step last : PlacedNumber) : Effect Unit := do
    let places := max first.2 step.2
    let common := max places last.2
    let scaled (number : PlacedNumber) : Int := number.1 * Int.pow 10 (common - number.2)
    if step.1 = 0 then setStatus 1
    else
      let count := ((scaled last - scaled first).fdiv (scaled step) + 1).toNat
      let plain := (List.range count).map fun i =>
        placedText places ((scaled first + scaled step * Int.ofNat i) / Int.pow 10 (common - places))
      let width := (plain.map List.length).foldl max 0
      let wide := hasOption options 'w'
      let texts := plain.map fun text =>
        match optionValue? options 'f' with
        | some format => (printFormat format [String.ofList text]).1
        | none => if wide then padTo width false true (encode text) else encode text
      if texts.isEmpty then setStatus 0
      else answer (List.intercalate (unescape mark.toList).1 texts ++ [10]) 0
  match texts.mapM placedNumber? with
  | some [last] => row (1, 0) (1, 0) last
  | some [first, last] => row first (1, 0) last
  | some [first, step, last] => row first step last
  | _ => setStatus 1

/-- How many milliseconds a text asks to wait for; none if that is for ever. -/
def milliseconds? (text : String) : Option (Option Nat) := do
  if text = "infinity" || text = "inf" then return none
  let chars := text.toList
  let (digits, scale) := match chars.getLast? with
    | some 's' => (chars.dropLast, 1000)
    | some 'm' => (chars.dropLast, 60000)
    | some 'h' => (chars.dropLast, 3600000)
    | some 'd' => (chars.dropLast, 86400000)
    | _ => (chars, 1000)
  let whole := digits.takeWhile (· != '.')
  let places := (digits.dropWhile (· != '.')).tail
  let total ← natural? (whole ++ places)
  return some (total * scale / Nat.pow 10 places.length)

def sleep (arguments : List String) : Effect Unit := do
  match arguments.mapM milliseconds? with
  | some (time :: times) =>
    match (time :: times).mapM id with
    | some times => do
      waitUntil ((← get).clock + times.foldl (· + ·) 0)
      setStatus 0
    | none => throw (.endless [])
  | _ => setStatus 1

/-- Prints a line for ever. -/
def yes (arguments : List String) : Effect Unit :=
  let line := if arguments.isEmpty then "y" else String.intercalate " " arguments
  throw (.endless (encode line.toList ++ [10]))

/-- Prints the value of an expression. -/
def evaluateWords (arguments : List String) : Effect Unit := do
  let words := if arguments.head? = some "--" then arguments.tail else arguments
  match WordExpression.evaluate words with
  | .ok value => do
    answerLine value
    if WordExpression.isNull value then setStatus 1
  | .error _ => setStatus 2

/-- Prints the current directory, links not counted. -/
def printDirectory (_ : List String) : Effect Unit := do
  answerLine ((← get).currentDirectory true).text

def basic : List (String × Utility) := [
  ("true", fun _ => setStatus 0),
  ("false", fun _ => setStatus 1),
  ("echo", echo),
  ("printf", printf),
  ("test", test),
  ("[", bracket),
  ("pwd", printDirectory),
  ("expr", evaluateWords),
  ("uname", fun _ => answerLine "Linux"),
  ("seq", sequence),
  ("sleep", sleep),
  ("yes", yes)]

end Utility

end TitleBar.Shell
