import TitleBar.Toml.Entries
import TitleBar.Toml.Quoted

/-! # Lines of TOML

A document is a sequence of expressions: values under keys, headers of tables, and headers of
tables of an array. Each ends with its line; only arrays, inline tables and some strings run over
several.
-/

namespace TitleBar.Toml

inductive Expression where
  | value (path : List String) (key : String) (value : Toml)
  | table (path : List String) (key : String)
  | element (path : List String) (key : String)

def isBlankChar (c : Char) : Bool := c == ' ' || c == '\t'

def skipBlanks (text : List Char) : List Char := text.dropWhile isBlankChar

/-- The text without leading blanks, line ends and comments; `none` when a comment holds a control
character. -/
def skipSpace? (comment : Bool) : List Char → Option (List Char)
  | [] => some []
  | '\n' :: rest => skipSpace? false rest
  | '\r' :: '\n' :: rest => skipSpace? false rest
  | c :: rest =>
    if comment then
      if isPlain c then skipSpace? true rest else none
    else if c = '#' then skipSpace? true rest
    else if isBlankChar c then skipSpace? false rest
    else some (c :: rest)

/-- What follows the end of the line that a text starts with, which may hold a comment. -/
def lineEnd? (comment : Bool) : List Char → Option (List Char)
  | [] => some []
  | '\n' :: rest => some rest
  | '\r' :: '\n' :: rest => some rest
  | c :: rest =>
    if comment then
      if isPlain c then lineEnd? true rest else none
    else if c = '#' then lineEnd? true rest
    else if isBlankChar c then lineEnd? false rest
    else none

/-- Whether a character may stand in a key without quotes. -/
def isBareChar (c : Char) : Bool := c.isAlphanum || c == '_' || c == '-'

/-- Reads a key without dots. -/
def key? (text : List Char) : Option (String × List Char) :=
  match text with
  | '"' :: rest => (basic? rest).map fun (key, after) => (String.ofList key, after)
  | '\'' :: rest => (literal? rest).map fun (key, after) => (String.ofList key, after)
  | _ =>
    match text.takeWhile isBareChar with
    | [] => none
    | key => some (String.ofList key, text.dropWhile isBareChar)

/-- Reads at most `fuel` keys with dots between them: the path that leads to the last one, the last
one, and what follows the blanks behind it. -/
def path? : Nat → List Char → Option (List String × String × List Char)
  | 0, _ => none
  | fuel + 1, text => do
    let (key, rest) ← key? text
    match skipBlanks rest with
    | '.' :: after =>
      let (path, last, rest) ← path? fuel (skipBlanks after)
      return (key :: path, last, rest)
    | rest => return ([], key, rest)

/-- How many keys a dotted key or a header may have. -/
def maxKeys : Nat := 80

/-- Reads at most `fuel` elements of an array and its closing bracket. -/
def elements? (item? : List Char → Option (Toml × List Char)) :
    Nat → List Char → Option (List Toml × List Char)
  | 0, _ => none
  | fuel + 1, text => do
    match ← skipSpace? false text with
    | ']' :: rest => return ([], rest)
    | text =>
      let (item, rest) ← item? text
      match ← skipSpace? false rest with
      | ',' :: rest =>
        let (items, rest) ← elements? item? fuel rest
        return (item :: items, rest)
      | ']' :: rest => return ([item], rest)
      | _ => none

/-- Reads at most `fuel` entries of an inline table and its closing brace, after those in
`entries`. Line ends and comments may stand around its equals signs. -/
def inlineEntries? (item? : List Char → Option (Toml × List Char)) :
    Nat → Entries → List Char → Option (Entries × List Char)
  | 0, _, _ => none
  | fuel + 1, entries, text => do
    match ← skipSpace? false text with
    | '}' :: rest => return (entries, rest)
    | text =>
      let (path, key, rest) ← path? maxKeys text
      let '=' :: rest ← skipSpace? false rest | none
      let (value, rest) ← item? (← skipSpace? false rest)
      let entries ← addDotted key value path entries
      match ← skipSpace? false rest with
      | ',' :: rest => inlineEntries? item? fuel entries rest
      | '}' :: rest => return (entries, rest)
      | _ => none

/-- Reads an inline table behind its opening brace. -/
def inlineTable? (item? : List Char → Option (Toml × List Char)) (text : List Char) :
    Option (Toml × List Char) :=
  (inlineEntries? item? (text.length + 1) [] text).map fun (entries, rest) =>
    (.table .inline entries, rest)

/-- Reads a value that holds no others. -/
def leaf? (text : List Char) : Option (Toml × List Char) :=
  match text with
  | '"' :: _ | '\'' :: _ => (string? text).map fun (text, rest) => (.string (String.ofList text), rest)
  | _ =>
    let (word, rest) := splitScalar text
    (scalar? word).map fun value => (value, rest)

/-- Reads a value, in which arrays and tables are nested at most `depth` deep. -/
def value? : Nat → List Char → Option (Toml × List Char)
  | 0, text => leaf? text
  | depth + 1, text =>
    match text with
    | '[' :: rest => do
      let (items, rest) ← elements? (value? depth) text.length rest
      return (.array false items, rest)
    | '{' :: rest => inlineTable? (value? depth) rest
    | _ => leaf? text

/-- How deep arrays and inline tables may be nested. -/
def maxNesting : Nat := 80

/-- Reads an expression; it starts with no blank. -/
def expression? (text : List Char) : Option (Expression × List Char) :=
  match text with
  | '[' :: '[' :: rest => do
    let (path, key, rest) ← path? maxKeys (skipBlanks rest)
    match rest with
    | ']' :: ']' :: rest => return (.element path key, rest)
    | _ => none
  | '[' :: rest => do
    let (path, key, rest) ← path? maxKeys (skipBlanks rest)
    match rest with
    | ']' :: rest => return (.table path key, rest)
    | _ => none
  | _ => do
    let (path, key, rest) ← path? maxKeys text
    match rest with
    | '=' :: rest =>
      let (value, rest) ← value? maxNesting (skipBlanks rest)
      return (.value path key value, rest)
    | _ => none

/-- Reads at most `fuel` expressions, each of which ends with its line. -/
def expressions? : Nat → List Char → Option (List Expression)
  | 0, _ => none
  | fuel + 1, text => do
    match ← skipSpace? false text with
    | [] => return []
    | text =>
      let (expression, rest) ← expression? text
      return expression :: (← expressions? fuel (← lineEnd? false rest))

end TitleBar.Toml
