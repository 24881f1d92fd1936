/-! # Words of the shell

A word is a sequence of fragments: texts, and places where a value is put in. What stands between
quotes is kept together when words are split into fields, and nothing in it is a wildcard. The text
inside a place, such as the fallback of a parameter, stays as it is written; it is scanned when the
place is filled.
-/

namespace TitleBar.Shell

/-- When the argument of a parameter comes into play. -/
inductive Fallback where
  /-- It stands for a missing value. -/
  | replaces
  /-- It becomes the value if that is missing. -/
  | becomes
  /-- The shell ends if the value is missing. -/
  | demands
  /-- It stands for a value that is not missing. -/
  | covers
deriving DecidableEq, Repr

inductive Use where
  | value
  /-- The number of its bytes. -/
  | length
  /-- Its value or an argument; with `orEmpty` an empty value counts as a missing one. -/
  | fallback (kind : Fallback) (orEmpty : Bool) (argument : List Char)
  /-- Its value without what a pattern matches at one end: as much or as little as possible. -/
  | cut (atEnd longest : Bool) (pattern : List Char)
  /-- Nothing that exists; the shell ends. -/
  | unknown
deriving DecidableEq, Repr

inductive Fragment where
  | text (text : List Char) (quoted : Bool)
  /-- A parameter or a variable. -/
  | parameter (name : List Char) (use : Use) (quoted : Bool)
  /-- The value of an arithmetic expression. -/
  | arithmetic (expression : List Char) (quoted : Bool)
  /-- The output of commands. -/
  | output (script : List Char) (quoted : Bool)
deriving DecidableEq, Repr

abbrev Word := List Fragment

/-- The text of a word in which nothing is quoted or put in. -/
def Word.bare? : Word → Option String
  | [.text text false] => some (String.ofList text)
  | _ => none

/-- Whether a character ends a word outside quotes. -/
def isDelimiter (c : Char) : Bool := c ∈ [' ', '\t', '\n', ';', '&', '|', '(', ')', '<', '>']

def isNameStart (c : Char) : Bool := c.isAlpha || c == '_'

def isNameChar (c : Char) : Bool := c.isAlphanum || c == '_'

def isName (text : List Char) : Bool := text.head?.any isNameStart && text.all isNameChar

/-- Whether a character names a parameter of its own. -/
def isSpecial (c : Char) : Bool := c ∈ ['*', '@', '#', '?', '$', '!', '-'] || c.isDigit

/-- What may be open while the end of a place is searched. -/
inductive Enclosure where
  /-- Braces of a parameter, in double quotes or not. -/
  | braces (quoted : Bool)
  | parentheses
  | singleQuotes
  | doubleQuotes
  | backquotes
deriving DecidableEq, Repr

def Enclosure.stop : Enclosure → Char
  | .braces _ => '\x7d'
  | .parentheses => ')'
  | .singleQuotes => '\''
  | .doubleQuotes => '"'
  | .backquotes => '`'

/-- The enclosure that a sign opens inside another one. -/
def Enclosure.opened? (outer : Enclosure) (sign : Char) : Option Enclosure :=
  match outer, sign with
  | .singleQuotes, _ | .backquotes, _ => none
  | _, '`' => some .backquotes
  | .doubleQuotes, _ => none
  | _, '"' => some .doubleQuotes
  | .braces true, _ => none
  | _, '\'' => some .singleQuotes
  | .parentheses, '(' => some .parentheses
  | _, _ => none

/-- The enclosure that a sign behind a `$` opens inside another one. -/
def Enclosure.openedByDollar? (outer : Enclosure) (sign : Char) : Option Enclosure :=
  match outer, sign with
  | .singleQuotes, _ | .backquotes, _ => none
  | _, '(' => some .parentheses
  | .doubleQuotes, '\x7b' | .braces true, '\x7b' => some (.braces true)
  | _, '\x7b' => some (.braces false)
  | _, _ => none

/-- What stands up to the end of all enclosures that are open, and what is behind that. -/
def splitEnclosed (inner : Enclosure) (outer : List Enclosure) :
    List Char → Option (List Char × List Char)
  | [] => none
  | [c] => if c = inner.stop ∧ outer = [] then some ([], []) else none
  | c :: d :: rest =>
    let keep (signs : List Char) (found : Option (List Char × List Char)) :=
      found.map fun (inside, after) => (signs ++ inside, after)
    if c = '\\' ∧ inner ≠ .singleQuotes then keep [c, d] (splitEnclosed inner outer rest)
    else if c = inner.stop then
      match outer with
      | [] => some ([], d :: rest)
      | next :: more => keep [c] (splitEnclosed next more (d :: rest))
    else match c, inner.openedByDollar? d with
      | '$', some opened => keep [c, d] (splitEnclosed opened (inner :: outer) rest)
      | _, _ =>
        match inner.opened? c with
        | some opened => keep [c] (splitEnclosed opened (inner :: outer) (d :: rest))
        | none => keep [c] (splitEnclosed inner outer (d :: rest))

/-- What stands before a character, and what is behind it. -/
def splitBefore (stop : Char) (text : List Char) : Option (List Char × List Char) :=
  match text.dropWhile (· != stop) with
  | _ :: after => some (text.takeWhile (· != stop), after)
  | [] => none

/-- What is taken of a parameter, given what follows its name between braces. -/
def Use.ofText : List Char → Use
  | [] => .value
  | ':' :: '-' :: argument => .fallback .replaces true argument
  | ':' :: '=' :: argument => .fallback .becomes true argument
  | ':' :: '?' :: argument => .fallback .demands true argument
  | ':' :: '+' :: argument => .fallback .covers true argument
  | '-' :: argument => .fallback .replaces false argument
  | '=' :: argument => .fallback .becomes false argument
  | '?' :: argument => .fallback .demands false argument
  | '+' :: argument => .fallback .covers false argument
  | '%' :: '%' :: pattern => .cut true true pattern
  | '%' :: pattern => .cut true false pattern
  | '#' :: '#' :: pattern => .cut false true pattern
  | '#' :: pattern => .cut false false pattern
  | _ => .unknown

/-- The name of a parameter that a text starts with, and the rest. -/
def splitName (text : List Char) : List Char × List Char :=
  match text with
  | c :: rest =>
    if isNameStart c then (text.takeWhile isNameChar, text.dropWhile isNameChar)
    else if c.isDigit then (text.takeWhile Char.isDigit, text.dropWhile Char.isDigit)
    else if isSpecial c then ([c], rest)
    else ([], text)
  | [] => ([], [])

def braced (inside : List Char) (quoted : Bool) : Fragment :=
  match inside with
  | '#' :: c :: rest =>
    match splitName (c :: rest) with
    | ([], _) => .parameter ['#'] (.ofText (c :: rest)) quoted
    | (name, []) => .parameter name .length quoted
    | (_, _ :: _) => .parameter ['#'] (.ofText (c :: rest)) quoted
  | _ =>
    match splitName inside with
    | ([], _) => .parameter inside .unknown quoted
    | (name, rest) => .parameter name (.ofText rest) quoted

/-- The fragment that starts at a `$`, given what is behind that, and the rest. -/
def scanDollar (quoted : Bool) : List Char → Option (Fragment × List Char)
  | '(' :: '(' :: rest => do
    let (inside, after) ← splitEnclosed .parentheses [.parentheses] rest
    return (.arithmetic inside.dropLast quoted, after)
  | '(' :: rest => do
    let (inside, after) ← splitEnclosed .parentheses [] rest
    return (.output inside quoted, after)
  | '\x7b' :: rest => do
    let (inside, after) ← splitEnclosed (.braces quoted) [] rest
    return (braced inside quoted, after)
  | c :: rest =>
    if isNameStart c then
      some (.parameter (c :: rest.takeWhile isNameChar) .value quoted, rest.dropWhile isNameChar)
    else if isSpecial c then some (.parameter [c] .value quoted, rest)
    else some (.text ['$'] quoted, c :: rest)
  | [] => some (.text ['$'] quoted, [])

/-- The script between backquotes: in it a backslash quotes a `$`, a backquote and itself, and in
double quotes also a double quote. -/
def unquoteScript (quoted : Bool) : List Char → List Char
  | [] => []
  | [c] => [c]
  | c :: d :: rest =>
    if c = '\\' ∧ (d ∈ ['$', '`', '\\'] ∨ quoted ∧ d = '"') then d :: unquoteScript quoted rest
    else c :: unquoteScript quoted (d :: rest)

/-- Puts a fragment in front of a word that was scanned. -/
def prependTo (fragment : Fragment) (scanned : Option (Word × List Char)) :
    Option (Word × List Char) :=
  scanned.map fun (word, rest) =>
    match fragment, word with
    | .text a false, .text b false :: more => (.text (a ++ b) false :: more, rest)
    | _, _ => (fragment :: word, rest)

structure Reading where
  /-- The word ends at a delimiter; else it is the whole text. -/
  delimited : Bool
  /-- Quotes mean something. -/
  quotes : Bool

/-- The characters that a backslash quotes between double quotes. -/
def Reading.escapable (reading : Reading) : List Char :=
  ['$', '`', '\\'] ++ (if reading.quotes then ['"'] else []) ++
    (if reading.quotes && !reading.delimited then ['\x7d'] else [])

/-- Whether all parameters are what stands between double quotes. In that case the quotes make no
field of their own. -/
def startsWithAll (text : List Char) : Bool :=
  match text with
  | '$' :: '@' :: '"' :: _ | '$' :: '\x7b' :: '@' :: '\x7d' :: '"' :: _ => true
  | _ => false

/-- Scans a word of at most `fuel` fragments and quotes; `quoted` tells whether double quotes are
open. A quote that is never closed has no word. -/
def scanWithin (reading : Reading) (quoted : Bool) : Nat → List Char → Option (Word × List Char)
  | 0, text => some ([], text)
  | fuel + 1, text =>
    match text with
    | [] => if quoted && reading.delimited then none else some ([], [])
    | '\\' :: '\n' :: rest => scanWithin reading quoted fuel rest
    | '\\' :: c :: rest =>
      if quoted && !reading.escapable.contains c then
        prependTo (.text ['\\', c] true) (scanWithin reading quoted fuel rest)
      else prependTo (.text [c] true) (scanWithin reading quoted fuel rest)
    | '$' :: rest => do
      let (fragment, rest) ← scanDollar quoted rest
      prependTo fragment (scanWithin reading quoted fuel rest)
    | '`' :: rest => do
      let (script, rest) ← splitEnclosed .backquotes [] rest
      prependTo (.output (unquoteScript quoted script) quoted) (scanWithin reading quoted fuel rest)
    | c :: rest =>
      if c = '"' ∧ reading.quotes then
        if quoted then scanWithin reading false fuel rest
        else if startsWithAll rest then scanWithin reading true fuel rest
        else prependTo (.text [] true) (scanWithin reading true fuel rest)
      else if c = '\'' ∧ reading.quotes ∧ !quoted then do
        let (inside, rest) ← splitBefore '\'' rest
        prependTo (.text inside true) (scanWithin reading quoted fuel rest)
      else if reading.delimited && !quoted && isDelimiter c then some ([], text)
      else prependTo (.text [c] quoted) (scanWithin reading quoted fuel rest)

def scanWord (text : List Char) : Option (Word × List Char) :=
  scanWithin ⟨true, true⟩ false (text.length + 1) text

def Word.ofArgument (quoted : Bool) (text : List Char) : Word :=
  ((scanWithin ⟨false, true⟩ quoted (text.length + 1) text).map (·.1)).getD []

/-- The word that a text without quotes of its own is, such as a document or an expression. -/
def Word.ofDocument (text : List Char) : Word :=
  ((scanWithin ⟨false, false⟩ true (text.length + 1) text).map (·.1)).getD []

end TitleBar.Shell
