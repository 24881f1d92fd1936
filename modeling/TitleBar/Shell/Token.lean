import TitleBar.Shell.Word
import TitleBar.Text.Blank

/-! # Tokens of the shell

Words, operators and redirections. Blanks separate tokens, and a `#` that starts a token starts a
comment. The text of a document stands below the line that asks for it.
-/

namespace TitleBar.Shell

inductive RedirectKind where
  /-- The target is read. -/
  | reads
  /-- The target is written from its start. -/
  | writes
  /-- The target is written from its end. -/
  | appends
  /-- The target is the number of another channel, or a sign that the channel is closed. -/
  | joins
  /-- The target itself is read. -/
  | quotes
deriving DecidableEq, Repr

inductive Token where
  | word (word : Word)
  /-- One of `;`, `;;`, `&`, `&&`, `|`, `||`, `(`, `)` and the end of a line. -/
  | operator (text : String)
  /-- A redirection of a channel; its target is the next word. -/
  | redirect (channel : Nat) (kind : RedirectKind)
  /-- A text that is no token, and all that is behind it. -/
  | malformed
deriving DecidableEq, Repr

/-- The kind and the usual channel of a redirection that starts with a sign, and the rest. -/
def scanSign : List Char → Option (RedirectKind × Nat × List Char)
  | '>' :: '&' :: rest => some (.joins, 1, rest)
  | '<' :: '&' :: rest => some (.joins, 0, rest)
  | '>' :: '>' :: rest => some (.appends, 1, rest)
  | '>' :: '|' :: rest | '>' :: rest => some (.writes, 1, rest)
  | '<' :: '<' :: _ => none
  | '<' :: '>' :: rest | '<' :: rest => some (.reads, 0, rest)
  | _ => none

/-- The text with which a word is written, quotes taken away, and whether there were any. -/
def Word.spelling (word : Word) : List Char × Bool :=
  let pieces := word.map fun fragment =>
    match fragment with
    | .text text quoted => (text, quoted)
    | .parameter name .. => ('$' :: name, false)
    | .arithmetic .. | .output .. => ([], false)
  ((pieces.map (·.1)).flatten, pieces.any (·.2))

/-- The lines of a document, up to one that is the mark, and what is behind that. Tabs at the start
of lines do not count when `indented` holds. -/
def splitDocument (indented : Bool) (mark : List Char) :
    List (List Char) → List Char × List (List Char)
  | [] => ([], [])
  | line :: lines =>
    let line := if indented then line.dropWhile (· == '\t') else line
    if line = mark then ([], lines)
    else if lines.isEmpty then (line, [])
    else
      let (document, rest) := splitDocument indented mark lines
      (line ++ '\n' :: document, rest)

/-- The document that a text asks for behind `<<`, and the rest of the text without it. -/
def scanDocument (text : List Char) : Option (Word × List Char) := do
  let (indented, text) := match text with
    | '-' :: rest => (true, rest)
    | rest => (false, rest)
  let (word, rest) ← scanWord (text.dropWhile fun c => c == ' ' || c == '\t')
  if word.isEmpty then none
  let (mark, quoted) := word.spelling
  let (document, below) := splitDocument indented mark
    (Text.splitAt (· == '\n') ((rest.dropWhile (· != '\n')).drop 1))
  let content := if quoted then [.text document true] else Word.ofDocument document
  return (content, rest.takeWhile (· != '\n') ++ '\n' :: List.intercalate ['\n'] below)

def scanTokensWithin : Nat → List Char → List Token
  | 0, _ => []
  | fuel + 1, text =>
    let operator (sign : String) (rest : List Char) : List Token :=
      .operator sign :: scanTokensWithin fuel rest
    let redirection (channel? : Option Nat) (text : List Char) : List Token :=
      match text with
      | '<' :: '<' :: rest =>
        match scanDocument rest with
        | some (content, rest) =>
          .redirect (channel?.getD 0) .quotes :: .word content :: scanTokensWithin fuel rest
        | none => [.malformed]
      | _ =>
        match scanSign text with
        | some (kind, channel, rest) =>
          .redirect (channel?.getD channel) kind :: scanTokensWithin fuel rest
        | none => [.malformed]
    match text with
    | [] => []
    | ' ' :: rest | '\t' :: rest | '\\' :: '\n' :: rest => scanTokensWithin fuel rest
    | '#' :: rest => scanTokensWithin fuel (rest.dropWhile (· != '\n'))
    | '\n' :: rest => operator "\n" rest
    | ';' :: ';' :: rest => operator ";;" rest
    | ';' :: rest => operator ";" rest
    | '&' :: '&' :: rest => operator "&&" rest
    | '&' :: rest => operator "&" rest
    | '|' :: '|' :: rest => operator "||" rest
    | '|' :: rest => operator "|" rest
    | '(' :: rest => operator "(" rest
    | ')' :: rest => operator ")" rest
    | c :: rest =>
      if c = '<' ∨ c = '>' then redirection none text
      else match c.isDigit, rest with
        | true, '<' :: _ | true, '>' :: _ => redirection (some (c.toNat - 48)) rest
        | _, _ =>
          match scanWord text with
          | some (word, rest) => .word word :: scanTokensWithin fuel rest
          | none => [.malformed]

def scanTokens (script : List Char) : List Token :=
  scanTokensWithin (2 * script.length + 2) script

/-- The reserved word that a token may be. -/
def Token.bare? : Token → Option String
  | .word pieces => pieces.bare?
  | _ => none

end TitleBar.Shell
