import TitleBar.Shell.Token

/-! # Programs of the shell

Commands, and the ways to combine them.
-/

namespace TitleBar.Shell

structure Redirect where
  channel : Nat
  kind : RedirectKind
  target : Word
deriving DecidableEq, Repr

inductive Program where
  | nothing
  /-- A command: assignments, then the name of the command and its arguments. -/
  | simple (assignments : List (String × Word)) (words : List Word) (redirects : List Redirect)
  /-- The second program reads what the first one writes. -/
  | pipe (first second : Program)
  /-- Succeeds when the program fails. -/
  | negation (program : Program)
  /-- The second program runs when the first one succeeds. -/
  | both (first second : Program)
  /-- The second program runs when the first one fails. -/
  | either (first second : Program)
  | sequence (first second : Program)
  /-- Runs while the shell goes on. -/
  | background (program : Program)
  | choice (test yes no : Program)
  /-- Runs the body as long as the test has the wanted outcome. -/
  | repetition (wanted : Bool) (test body : Program)
  /-- Runs the body for each field of some words. -/
  | each (name : String) (words : List Word) (body : Program)
  /-- Runs the first branch of which a pattern matches the word. -/
  | selection (word : Word) (branches : List (List Word × Program))
  /-- Runs in a shell of its own. -/
  | inner (program : Program)
  | redirected (program : Program) (redirects : List Redirect)
  /-- Makes the body a function. -/
  | definition (name : String) (body : Program)
  /-- Text that is no program. -/
  | malformed
deriving Repr

/-- A reader takes a value off the front of a list of tokens. -/
abbrev Reader (α : Type) := List Token → Option (α × List Token)

def skipLines (tokens : List Token) : List Token :=
  tokens.dropWhile (· == .operator "\n")

def expectWord (text : String) (tokens : List Token) : Option (List Token) :=
  match tokens with
  | token :: rest => if token.bare? = some text then some rest else none
  | [] => none

def readRedirects : Reader (List Redirect)
  | .redirect channel kind :: .word target :: rest => do
    let (more, rest) ← readRedirects rest
    return (⟨channel, kind, target⟩ :: more, rest)
  | .redirect .. :: _ => none
  | tokens => some ([], tokens)

def assignment? : Word → Option (String × Word)
  | .text text false :: more =>
    let name := text.takeWhile isNameChar
    match text.dropWhile isNameChar with
    | '=' :: value =>
      if name.isEmpty || name.head?.any Char.isDigit then none
      else some (String.ofList name, .text value false :: more)
    | _ => none
  | _ => none

def readWords : Reader (List Word × List Redirect)
  | .word word :: rest => do
    let ((words, redirects), rest) ← readWords rest
    return ((word :: words, redirects), rest)
  | .redirect channel kind :: .word target :: rest => do
    let ((words, redirects), rest) ← readWords rest
    return ((words, ⟨channel, kind, target⟩ :: redirects), rest)
  | .redirect .. :: _ => none
  | tokens => some (([], []), tokens)

/-- A command of words. Assignments stand in front of its name. -/
def simpleOf : List Word → List Redirect → Program
  | [], redirects => .simple [] [] redirects
  | word :: words, redirects =>
    match assignment? word with
    | none => .simple [] (word :: words) redirects
    | some pair =>
      match simpleOf words redirects with
      | .simple assignments words redirects => .simple (pair :: assignments) words redirects
      | other => other

/-- Takes the patterns of a branch up to the parenthesis behind them. -/
def readPatterns : Reader (List Word)
  | .word word :: .operator ")" :: rest => some ([word], rest)
  | .word word :: .operator "|" :: rest => do
    let (words, rest) ← readPatterns rest
    return (word :: words, rest)
  | _ => none

/-- The words that end a list of commands. -/
def closers : List String := ["then", "elif", "else", "fi", "do", "done", "esac", "\x7d"]

/-- Whether a list of commands ends before a token. -/
def isCloser (token : Token) : Bool :=
  match token with
  | .operator sign => sign = ")" || sign = ";;"
  | .word word => word.bare?.any (closers.contains ·)
  | .redirect .. | .malformed => false

/-- Takes a value only if it holds a command. -/
def filled (read : Option (Program × List Token)) : Option (Program × List Token) :=
  match read with
  | some (.nothing, _) => none
  | other => other

mutual
/-- Takes a list of commands, with at most `fuel` levels below it. -/
def readList : Nat → Reader Program
  | 0, _ => none
  | fuel + 1, tokens =>
    match tokens with
    | [] => some (.nothing, [])
    | .operator "\n" :: rest => readList fuel rest
    | token :: _ =>
      if isCloser token then some (.nothing, tokens)
      else do
        let (first, rest) ← readChain fuel tokens
        let (first, rest) ← match rest with
          | .operator ";" :: rest | .operator "\n" :: rest => pure (first, rest)
          | .operator "&" :: rest => pure (.background first, rest)
          | rest => return (first, rest)
        let (more, rest) ← readList fuel rest
        return (.sequence first more, rest)

def readLine : Nat → Reader Program
  | 0, _ => none
  | fuel + 1, tokens => do
    let (first, rest) ← readChain fuel tokens
    let (first, rest) ← match rest with
      | [] => return (first, [])
      | .operator "\n" :: rest => return (first, rest)
      | .operator ";" :: rest => pure (first, rest)
      | .operator "&" :: rest => pure (.background first, rest)
      | _ => none
    match rest with
    | [] => return (first, [])
    | .operator "\n" :: rest => return (first, rest)
    | rest => do
      let (more, rest) ← readLine fuel rest
      return (.sequence first more, rest)

/-- Takes pipelines that are joined by `&&` and `||`. -/
def readChain : Nat → Reader Program
  | 0, _ => none
  | fuel + 1, tokens => do
    let (first, rest) ← readPipeline fuel tokens
    readLinks fuel first rest

/-- Takes the further pipelines of a chain; each belongs to all that is in front of it. -/
def readLinks : Nat → Program → Reader Program
  | 0, _, _ => none
  | fuel + 1, first, tokens =>
    match tokens with
    | .operator "&&" :: rest => do
      let (second, rest) ← readPipeline fuel (skipLines rest)
      readLinks fuel (.both first second) rest
    | .operator "||" :: rest => do
      let (second, rest) ← readPipeline fuel (skipLines rest)
      readLinks fuel (.either first second) rest
    | _ => some (first, tokens)

/-- Takes commands that are joined by `|`. -/
def readPipeline : Nat → Reader Program
  | 0, _ => none
  | fuel + 1, tokens =>
    match expectWord "!" tokens with
    | some rest => do
      let (program, rest) ← readPipe fuel rest
      return (.negation program, rest)
    | none => readPipe fuel tokens

/-- Takes commands that are joined by `|`, without a sign of negation in front. -/
def readPipe : Nat → Reader Program
  | 0, _ => none
  | fuel + 1, tokens => do
    let (first, rest) ← readCommand fuel tokens
    match rest with
    | .operator "|" :: rest => do
      let (second, rest) ← readPipe fuel (skipLines rest)
      return (.pipe first second, rest)
    | rest => return (first, rest)

def readCommand : Nat → Reader Program
  | 0, _ => none
  | fuel + 1, tokens =>
    match tokens with
    | .operator "(" :: rest => do
      let (program, rest) ← filled (readList fuel rest)
      match rest with
      | .operator ")" :: rest => do
        let (redirects, rest) ← readRedirects rest
        return (.redirected (.inner program) redirects, rest)
      | _ => none
    | .word [.text name false] :: .operator "(" :: .operator ")" :: rest => do
      if !isName name then none
      let (body, rest) ← readCommand fuel (skipLines rest)
      return (.definition (String.ofList name) body, rest)
    | token :: rest =>
      match token.bare? with
      | some "if" => do
        let (program, rest) ← readChoice fuel rest
        let (redirects, rest) ← readRedirects rest
        return (.redirected program redirects, rest)
      | some "while" => readRepetition fuel true rest
      | some "until" => readRepetition fuel false rest
      | some "for" => readEach fuel rest
      | some "case" => readSelection fuel rest
      | some "\x7b" => do
        let (program, rest) ← filled (readList fuel rest)
        let rest ← expectWord "\x7d" rest
        let (redirects, rest) ← readRedirects rest
        return (.redirected program redirects, rest)
      | _ => do
        if isCloser token || token.bare? = some "!" then none
        let ((words, redirects), rest) ← readWords tokens
        if words.isEmpty && redirects.isEmpty then none
        return (simpleOf words redirects, rest)
    | [] => none

/-- Takes what follows `if`, up to `fi`. -/
def readChoice : Nat → Reader Program
  | 0, _ => none
  | fuel + 1, tokens => do
    let (test, rest) ← filled (readList fuel tokens)
    let rest ← expectWord "then" rest
    let (yes, rest) ← filled (readList fuel rest)
    match expectWord "elif" rest, expectWord "else" rest with
    | some rest, _ => do
      let (no, rest) ← readChoice fuel rest
      return (.choice test yes no, rest)
    | none, some rest => do
      let (no, rest) ← filled (readList fuel rest)
      let rest ← expectWord "fi" rest
      return (.choice test yes no, rest)
    | none, none => do
      let rest ← expectWord "fi" rest
      return (.choice test yes .nothing, rest)

/-- Takes a body between `do` and `done`, and the redirections behind it. -/
def readBody : Nat → Reader (Program × List Redirect)
  | 0, _ => none
  | fuel + 1, tokens => do
    let rest ← expectWord "do" tokens
    let (body, rest) ← filled (readList fuel rest)
    let rest ← expectWord "done" rest
    let (redirects, rest) ← readRedirects rest
    return ((body, redirects), rest)

/-- Takes what follows `while` or `until`. -/
def readRepetition : Nat → Bool → Reader Program
  | 0, _, _ => none
  | fuel + 1, wanted, tokens => do
    let (test, rest) ← filled (readList fuel tokens)
    let ((body, redirects), rest) ← readBody fuel rest
    return (.redirected (.repetition wanted test body) redirects, rest)

/-- Takes what follows `for`. Without a list of words it runs over the parameters. -/
def readEach : Nat → Reader Program
  | 0, _ => none
  | fuel + 1, tokens => do
    let name :: rest := tokens | none
    let name ← name.bare?
    let rest := skipLines rest
    let (words, rest) ← match expectWord "in" rest with
      | some rest => do
        let ((words, _), rest) ← readWords rest
        pure (words, rest)
      | none => pure ([[.parameter ['@'] .value true]], rest)
    let rest := match rest with
      | .operator ";" :: rest => skipLines rest
      | rest => skipLines rest
    let ((body, redirects), rest) ← readBody fuel rest
    return (.redirected (.each name words body) redirects, rest)

/-- Takes what follows `case`. -/
def readSelection : Nat → Reader Program
  | 0, _ => none
  | fuel + 1, tokens => do
    let .word word :: rest := tokens | none
    let rest ← expectWord "in" (skipLines rest)
    let (branches, rest) ← readBranches fuel (skipLines rest)
    let (redirects, rest) ← readRedirects rest
    return (.redirected (.selection word branches) redirects, rest)

/-- Takes branches up to `esac`. -/
def readBranches : Nat → Reader (List (List Word × Program))
  | 0, _ => none
  | fuel + 1, tokens =>
    match expectWord "esac" tokens with
    | some rest => some ([], rest)
    | none => do
      let tokens := match tokens with
        | .operator "(" :: rest => rest
        | tokens => tokens
      let (patterns, rest) ← readPatterns tokens
      let (program, rest) ← readList fuel rest
      match rest with
      | .operator ";;" :: rest => do
        let (more, rest) ← readBranches fuel (skipLines rest)
        return ((patterns, program) :: more, rest)
      | rest => do
        let rest ← expectWord "esac" rest
        return ([(patterns, program)], rest)
end

/-- The commands of the lines of a script, at most `fuel` of them. A line that is malformed does not
keep those in front of it from being commands. -/
def readLines : Nat → List Token → Program
  | 0, _ => .nothing
  | fuel + 1, tokens =>
    match skipLines tokens with
    | [] => .nothing
    | tokens =>
      match readLine (8 * tokens.length + 8) tokens with
      | some (program, rest) => .sequence program (readLines fuel rest)
      | none => .malformed

def Program.ofScript (script : List Char) : Program :=
  let tokens := scanTokens script
  readLines (tokens.length + 1) tokens

end TitleBar.Shell
