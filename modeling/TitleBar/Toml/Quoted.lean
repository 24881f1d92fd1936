import TitleBar.Toml.Scalar

/-! # TOML strings

Basic strings know escapes, literal strings do not, and either kind may run over several lines. All
functions read what stands behind the opening quotes, and give the text and what follows the
closing ones.
-/

namespace TitleBar.Toml

/-- The text of a string that was read, and what follows it. -/
abbrev Quoted := Option (List Char × List Char)

/-- Whether a character may stand in a string or a comment as it is. -/
def isPlain (c : Char) : Bool := c == '\t' || (0x20 ≤ c.toNat && c.toNat != 0x7f)

/-- Puts a character in front of the text that was read. -/
def push (c : Char) (quoted : Quoted) : Quoted := quoted.map fun (text, rest) => (c :: text, rest)

/-- The character whose code point is written in hexadecimal digits. -/
def character? (digits : List Char) : Option Char := do
  let code := ofDigits 16 (← digits.mapM (digit? 16))
  if h : code.isValidChar then some (Char.ofNatAux code h) else none

/-- The character that a letter behind a backslash stands for. -/
def escape? : Char → Option Char
  | 'b' => some '\x08'
  | 't' => some '\t'
  | 'e' => some '\x1b'
  | 'n' => some '\n'
  | 'f' => some '\x0c'
  | 'r' => some '\r'
  | '"' => some '"'
  | '\\' => some '\\'
  | _ => none

def basic? : List Char → Quoted
  | [] => none
  | '"' :: rest => some ([], rest)
  | '\\' :: 'x' :: a :: b :: rest => do push (← character? [a, b]) (basic? rest)
  | '\\' :: 'u' :: a :: b :: c :: d :: rest => do push (← character? [a, b, c, d]) (basic? rest)
  | '\\' :: 'U' :: a :: b :: c :: d :: e :: f :: g :: h :: rest => do
    push (← character? [a, b, c, d, e, f, g, h]) (basic? rest)
  | '\\' :: c :: rest => do push (← escape? c) (basic? rest)
  | c :: rest => if isPlain c then push c (basic? rest) else none

def literal? : List Char → Quoted
  | [] => none
  | '\'' :: rest => some ([], rest)
  | c :: rest => if isPlain c then push c (literal? rest) else none

/-- Where a reader of a string of several lines stands. -/
inductive Gap where
  /-- In the text. -/
  | none
  /-- Behind a backslash and blanks; the line has to end. -/
  | begun
  /-- Behind a backslash and the end of its line; white space is skipped. -/
  | ended
deriving DecidableEq, Repr

/-- Reads a basic string of several lines. Up to two quotes may stand right before the closing
ones. -/
def basicLines? (gap : Gap) : List Char → Quoted
  | [] => Option.none
  | '\r' :: '\n' :: rest =>
    match gap with
    | .none => push '\r' (push '\n' (basicLines? .none rest))
    | _ => basicLines? .ended rest
  | '\n' :: rest =>
    match gap with
    | .none => push '\n' (basicLines? .none rest)
    | _ => basicLines? .ended rest
  | ' ' :: rest => if gap = .none then push ' ' (basicLines? gap rest) else basicLines? gap rest
  | '\t' :: rest => if gap = .none then push '\t' (basicLines? gap rest) else basicLines? gap rest
  | '"' :: '"' :: '"' :: '"' :: '"' :: rest =>
    if gap = .begun then Option.none else some (['"', '"'], rest)
  | '"' :: '"' :: '"' :: '"' :: rest => if gap = .begun then Option.none else some (['"'], rest)
  | '"' :: '"' :: '"' :: rest => if gap = .begun then Option.none else some ([], rest)
  | '\\' :: 'x' :: a :: b :: rest =>
    if gap = .begun then Option.none
    else do push (← character? [a, b]) (basicLines? .none rest)
  | '\\' :: 'u' :: a :: b :: c :: d :: rest =>
    if gap = .begun then Option.none
    else do push (← character? [a, b, c, d]) (basicLines? .none rest)
  | '\\' :: 'U' :: a :: b :: c :: d :: e :: f :: g :: h :: rest =>
    if gap = .begun then Option.none
    else do push (← character? [a, b, c, d, e, f, g, h]) (basicLines? .none rest)
  | '\\' :: c :: rest =>
    if gap = .begun then Option.none
    else if c = ' ' ∨ c = '\t' ∨ c = '\r' then basicLines? .begun (c :: rest)
    else if c = '\n' then basicLines? .ended rest
    else do push (← escape? c) (basicLines? .none rest)
  | c :: rest =>
    if gap = .begun ∨ !isPlain c then Option.none else push c (basicLines? .none rest)

/-- Reads a literal string of several lines. -/
def literalLines? : List Char → Quoted
  | [] => Option.none
  | '\r' :: '\n' :: rest => push '\r' (push '\n' (literalLines? rest))
  | '\'' :: '\'' :: '\'' :: '\'' :: '\'' :: rest => some (['\'', '\''], rest)
  | '\'' :: '\'' :: '\'' :: '\'' :: rest => some (['\''], rest)
  | '\'' :: '\'' :: '\'' :: rest => some ([], rest)
  | c :: rest => if isPlain c || c == '\n' then push c (literalLines? rest) else Option.none

/-- The text without a line end at its start. -/
def skipLineEnd : List Char → List Char
  | '\n' :: rest => rest
  | '\r' :: '\n' :: rest => rest
  | text => text

/-- Reads a string of either kind and length; `none` if none stands there or it is broken. -/
def string? : List Char → Quoted
  | '"' :: '"' :: '"' :: rest => basicLines? .none (skipLineEnd rest)
  | '\'' :: '\'' :: '\'' :: rest => literalLines? (skipLineEnd rest)
  | '"' :: rest => basic? rest
  | '\'' :: rest => literal? rest
  | _ => Option.none

end TitleBar.Toml
