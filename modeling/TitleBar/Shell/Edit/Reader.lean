import TitleBar.Shell.Edit

/-! # Reading scripts of edits

A script is a sequence of steps, each on a line of its own or behind a semicolon. A step starts with
the lines that it is meant for; the letter behind them says what it does.
-/

namespace TitleBar.Shell.EditStep

/-- The byte of a control character that a letter stands for behind a backslash. -/
def control? : Char → Option Char
  | 'a' => some '\x07'
  | 'f' => some '\x0c'
  | 'n' => some '\n'
  | 'r' => some '\r'
  | 't' => some '\t'
  | 'v' => some '\x0b'
  | _ => none

/-- A regular expression in which control characters stand for themselves. -/
def withControls : List Char → List Char
  | [] => []
  | [c] => [c]
  | c :: d :: rest =>
    if c = '\\' then
      match control? d with
      | some control => control :: withControls rest
      | none => c :: d :: withControls rest
    else c :: withControls (d :: rest)

/-- What stands before a sign that is not quoted, and what is behind it. A backslash in front of the
sign is dropped. With `lists`, the sign may stand in a list in brackets; `depth` tells whether such a
list is open: one more than the characters after which it can be closed. -/
def splitAtSign (sign : Char) (lists : Bool) (depth : Nat) :
    List Char → Option (List Char × List Char)
  | [] => none
  | [c] => if c = sign ∧ depth = 0 then some ([], []) else none
  | c :: d :: rest =>
    let keep (signs : List Char) (found : Option (List Char × List Char)) :=
      found.map fun (inside, behind) => (signs ++ inside, behind)
    if depth = 0 then
      if c = sign then some ([], d :: rest)
      else if c = '\\' then
        keep (if d = sign then [d] else [c, d]) (splitAtSign sign lists 0 rest)
      else if c = '[' ∧ lists then
        let lead := if d = '^' then 3 else 2
        keep [c] (splitAtSign sign lists lead (d :: rest))
      else keep [c] (splitAtSign sign lists 0 (d :: rest))
    else if depth = 1 ∧ c = ']' then keep [c] (splitAtSign sign lists 0 (d :: rest))
    else keep [c] (splitAtSign sign lists (max 1 (depth - 1)) (d :: rest))

/-- A regular expression of a script; an empty one stands for that which was used last. -/
def regex? (extended : Bool) (text : List Char) : Option (Option Regex) :=
  if text.isEmpty then some none
  else (Regex.ofText? extended (withControls text)).map some

def number (text : List Char) : Nat × List Char :=
  let digits := text.takeWhile Char.isDigit
  (digits.foldl (fun n c => 10 * n + (c.toNat - 48)) 0, text.drop digits.length)

def skipBlanks (text : List Char) : List Char := text.dropWhile fun c => c == ' ' || c == '\t'

/-- Reads an address; there need not be one. -/
def address? (extended : Bool) (text : List Char) : Option (Option EditAddress × List Char) := do
  let found (sign : Char) (rest : List Char) : Option (Option EditAddress × List Char) := do
    let (pattern, rest) ← splitAtSign sign true 0 rest
    let regex ← regex? extended pattern
    let flags := rest.takeWhile fun c => c == 'I' || c == 'M'
    return (some (.found regex (flags.contains 'I')), rest.drop flags.length)
  match text with
  | '$' :: rest => return (some .last, rest)
  | '/' :: rest => found '/' rest
  | '\\' :: sign :: rest => found sign rest
  | c :: _ =>
    if !c.isDigit then return (none, text)
    let (first, rest) := number text
    match skipBlanks rest with
    | '~' :: rest =>
      let (step, rest) := number (skipBlanks rest)
      return (some (.every first step), rest)
    | rest => return (some (.line first), rest)
  | [] => return (none, [])

def limit? (extended : Bool) (text : List Char) : Option (EditLimit × List Char) := do
  match text with
  | '+' :: rest =>
    let (count, rest) := number rest
    return (.further count, rest)
  | '~' :: rest =>
    let (factor, rest) := number rest
    return (.multiple factor, rest)
  | text =>
    let (some address, rest) ← address? extended text | none
    return (.address address, rest)

/-- Reads the lines that a step is meant for. -/
def choice? (extended : Bool) (text : List Char) : Option (EditChoice × List Char) := do
  let (first?, rest) ← address? extended text
  let (limit?, rest) ← match first?, skipBlanks rest with
    | some _, ',' :: rest => do
      let (limit, rest) ← limit? extended (skipBlanks rest)
      pure (some limit, rest)
    | _, rest => pure (none, rest)
  match skipBlanks rest with
  | '!' :: rest =>
    return (⟨first?, limit?, true⟩, rest.dropWhile fun c => c == '!' || c == ' ' || c == '\t')
  | rest => return (⟨first?, limit?, false⟩, rest)

def replacementParts : List Char → List ReplacementPart
  | [] => []
  | '&' :: rest => .group 0 :: replacementParts rest
  | '\\' :: c :: rest =>
    let part : ReplacementPart := match c with
      | 'U' => .letters .upper
      | 'L' => .letters .lower
      | 'E' => .letters .kept
      | 'u' => .letters .nextUpper
      | 'l' => .letters .nextLower
      | c => if c.isDigit then .group (c.toNat - 48) else .char ((control? c).getD c)
    part :: replacementParts rest
  | c :: rest => .char c :: replacementParts rest

def flags? (substitution : Substitution) : List Char → Option (Substitution × List Char)
  | 'g' :: rest => flags? { substitution with all := true } rest
  | 'p' :: rest => flags? { substitution with printed := true } rest
  | 'i' :: rest | 'I' :: rest => flags? { substitution with fold := true } rest
  | 'm' :: rest | 'M' :: rest => flags? substitution rest
  | 'w' :: rest =>
    let name := (skipBlanks rest).takeWhile (· != '\n')
    some ({ substitution with file? := some (String.ofList name) },
      (skipBlanks rest).drop name.length)
  | c :: rest =>
    if c.isDigit then
      let digit := c.toNat - 48
      if digit = 0 ∧ substitution.place ≤ 1 then none
      else flags? { substitution with place := substitution.place * 10 + digit } rest
    else some (substitution, c :: rest)
  | [] => some (substitution, [])

def substitution? (extended : Bool) (text : List Char) : Option (Substitution × List Char) := do
  let sign :: text := text | none
  if sign = '\n' ∨ sign = '\\' then none
  let (pattern, rest) ← splitAtSign sign true 0 text
  let (replacement, rest) ← splitAtSign sign false 0 rest
  let regex? ← regex? extended pattern
  let (substitution, rest) ← flags?
    { regex?, fold := false, replacement := replacementParts replacement, place := 0, all := false,
      printed := false, file? := none } rest
  return ({ substitution with place := max 1 substitution.place }, rest)

def translationChars : List Char → List Char
  | [] => []
  | '\\' :: c :: rest => (control? c).getD c :: translationChars rest
  | c :: rest => c :: translationChars rest

def translation? (text : List Char) : Option (Edit × List Char) := do
  let sign :: text := text | none
  let (source, rest) ← splitAtSign sign false 0 text
  let (target, rest) ← splitAtSign sign false 0 rest
  let (source, target) := (translationChars source, translationChars target)
  if source.length = target.length then return (.translate (source.zip target), rest) else none

/-- The lines of a text up to one that no backslash continues, and what is behind them. -/
def textLines : List Char → List Char × List Char
  | [] => (['\n'], [])
  | '\n' :: rest => (['\n'], rest)
  | '\\' :: c :: rest =>
    let (text, behind) := textLines rest
    (c :: text, behind)
  | c :: rest =>
    let (text, behind) := textLines rest
    (c :: text, behind)

def text? (text : List Char) : Option (List Char × List Char) :=
  match skipBlanks text with
  | '\\' :: rest =>
    match skipBlanks rest with
    | '\n' :: rest => some (textLines rest)
    | _ => some (textLines rest)
  | [] => none
  | rest => some (textLines rest)

/-- What an edit with a letter does, if nothing follows the letter. -/
def simple? : Char → Option Edit
  | '\x7b' => some .opens
  | '\x7d' => some .closes
  | 'p' => some .print
  | 'P' => some .printFirst
  | '=' => some .number
  | 'd' => some .delete
  | 'D' => some .deleteFirst
  | 'n' => some .next
  | 'N' => some .nextToo
  | 'h' => some .hold
  | 'H' => some .holdToo
  | 'g' => some .fetch
  | 'G' => some .fetchToo
  | 'x' => some .exchange
  | 'z' => some .clear
  | _ => none

def edit? (extended : Bool) : List Char → Option (Edit × List Char)
  | [] => none
  | letter :: rest => do
    let name (text : List Char) : List Char :=
      (skipBlanks text).takeWhile fun c => c != '\n' && c != ';' && c != '\x7d' && c != ' '
    let line (text : List Char) : List Char := (skipBlanks text).takeWhile (· != '\n')
    let behind (text part : List Char) : List Char := (skipBlanks text).drop part.length
    let jump (after : Option Bool) : Option (Edit × List Char) :=
      some (.jump after (name rest), behind rest (name rest))
    match letter with
    | 's' => do
      let (substitution, rest) ← substitution? extended rest
      return (.substitute substitution, rest)
    | 'y' => translation? rest
    | 'a' => (text? rest).map fun (text, rest) => (.append text, '\n' :: rest)
    | 'i' => (text? rest).map fun (text, rest) => (.insert text, '\n' :: rest)
    | 'c' => (text? rest).map fun (text, rest) => (.change text, '\n' :: rest)
    | ':' =>
      if (name rest).isEmpty then none else return (.label (name rest), behind rest (name rest))
    | 'b' => jump none
    | 't' => jump (some true)
    | 'T' => jump (some false)
    | 'r' => return (.readFile (String.ofList (line rest)), behind rest (line rest))
    | 'w' => return (.writeFile (String.ofList (line rest)), behind rest (line rest))
    | 'q' | 'Q' =>
      let (status, rest) := number (skipBlanks rest)
      return (.quit status (letter == 'q'), rest)
    | letter => (simple? letter).map fun edit => (edit, rest)

def behindEdit? (edit : Edit) (text : List Char) : Option (List Char) :=
  match edit, skipBlanks text with
  | .opens, rest => some rest
  | _, [] => some []
  | _, ';' :: rest | _, '\n' :: rest => some rest
  | _, '#' :: rest => some ('#' :: rest)
  | _, '\x7d' :: rest => some ('\x7d' :: rest)
  | _, _ => none

/-- Reads at most `fuel` steps; `depth` blocks are open. -/
def readAll? (extended : Bool) : Nat → Nat → List Char → Option (List EditStep)
  | 0, _, _ => none
  | fuel + 1, depth, text => do
    match text.dropWhile fun c => c == ';' || c == ' ' || c == '\t' || c == '\n' with
    | [] => if depth = 0 then return [] else none
    | '#' :: rest => readAll? extended fuel depth (rest.dropWhile (· != '\n'))
    | text =>
      let (choice, rest) ← choice? extended text
      let (edit, rest) ← edit? extended rest
      let depth ← match edit with
        | .opens => some (depth + 1)
        | .closes => if depth = 0 || choice.first?.isSome then none else some (depth - 1)
        | _ => some depth
      let rest ← behindEdit? edit rest
      return ⟨choice, edit⟩ :: (← readAll? extended fuel depth rest)

def targets (steps : List EditStep) : List (List Char) :=
  steps.filterMap fun step =>
    match step.edit with
    | .jump _ name => if name.isEmpty then none else some name
    | _ => none

def labels (steps : List EditStep) : List (List Char) :=
  steps.filterMap fun step =>
    match step.edit with
    | .label name => some name
    | _ => none

/-- The steps of a script; every label that they jump to has to be there. -/
def ofScript? (extended : Bool) (script : List Char) : Option (List EditStep) := do
  let steps ← readAll? extended (script.length + 1) 0 script
  if (targets steps).all fun name => (labels steps).contains name then return steps else none

end TitleBar.Shell.EditStep
