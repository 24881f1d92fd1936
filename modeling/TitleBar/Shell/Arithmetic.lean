import TitleBar.Shell.Word
import TitleBar.Text.Blank

/-! # Arithmetic of the shell

Expressions of 64-bit integers with signs. A name stands for a variable, and expressions can assign
to variables. Reading an expression and evaluating it are separate steps, since a part that decides
nothing is read but not evaluated.
-/

namespace TitleBar.Shell

/-- The value of a digit in bases up to sixteen. -/
def digit? (c : Char) : Option Nat :=
  if c.isDigit then some (c.toNat - 48)
  else if 'a' ≤ c ∧ c ≤ 'f' then some (c.toNat - 87)
  else if 'A' ≤ c ∧ c ≤ 'F' then some (c.toNat - 55)
  else none

def numeral (base : Nat) (digits : List Char) : Nat :=
  digits.foldl (fun n c => base * n + (digit? c).getD 0) 0

/-- The base of a numeral and its digits: `0x` stands in front of hexadecimal ones and `0` in front
of octal ones. The rest of the text follows them. -/
def splitNumeral (text : List Char) : Nat × List Char × List Char :=
  let split (base : Nat) (text : List Char) : Nat × List Char × List Char :=
    let fits := fun c => (digit? c).any (· < base)
    (base, text.takeWhile fits, text.dropWhile fits)
  match text with
  | '0' :: x :: c :: rest =>
    if (x = 'x' ∨ x = 'X') ∧ (digit? c).isSome then split 16 (c :: rest) else split 8 text
  | '0' :: _ => split 8 text
  | _ => split 10 text

/-- The integer that a text is, with the sign that it may have; an empty text is zero. -/
def integer? (text : String) : Option Int :=
  let whole (text : List Char) : Option Int :=
    match splitNumeral text with
    | (base, digit :: digits, []) => some (numeral base (digit :: digits))
    | _ => none
  match Text.trim text.toList with
  | [] => some 0
  | '-' :: digits => (whole digits).map (-·)
  | '+' :: digits => whole digits
  | digits => whole digits

/-- The integer that a text is in decimal digits, with the sign that it may have. -/
def decimal? (text : String) : Option Int :=
  let whole (digits : List Char) : Option Int :=
    if digits.isEmpty || !digits.all Char.isDigit then none else some (numeral 10 digits)
  match Text.trim text.toList with
  | '-' :: digits => (whole digits).map (-·)
  | '+' :: digits => whole digits
  | digits => whole digits

/-- An integer within 64 bits. -/
def wrapped (n : Int) : Int := n.bmod 0x10000000000000000

/-- The truth of a condition as a number. -/
def truth (holds : Bool) : Int := if holds then 1 else 0

inductive Operation where
  | bitOr | bitXor | bitAnd
  | equals | differs
  | less | greater | atMost | atLeast
  | shiftLeft | shiftRight
  | add | subtract
  | multiply | divide | remainder
deriving DecidableEq, Repr

namespace Operation

/-- The operations with the way they are written and their levels; operations of a higher level come
first. A sign that starts with another one stands in front of it. -/
def signs : List (List Char × Nat × Operation) := [
  (['<', '<'], 6, shiftLeft), (['>', '>'], 6, shiftRight),
  (['<', '='], 5, atMost), (['>', '='], 5, atLeast), (['=', '='], 4, equals),
  (['!', '='], 4, differs), (['<'], 5, less), (['>'], 5, greater),
  (['|'], 1, bitOr), (['^'], 2, bitXor), (['&'], 3, bitAnd),
  (['+'], 7, add), (['-'], 7, subtract),
  (['*'], 8, multiply), (['/'], 8, divide), (['%'], 8, remainder)]

def levels : Nat := 9

def bits (n : Int) : BitVec 64 := BitVec.ofInt 64 n

/-- The result; nothing can be divided by zero. -/
def result? (operation : Operation) (a b : Int) : Option Int :=
  match operation with
  | .bitXor => some (bits a ^^^ bits b).toInt
  | .bitOr => some (bits a ||| bits b).toInt
  | .bitAnd => some (bits a &&& bits b).toInt
  | .equals => some (truth (a == b))
  | .differs => some (truth (a != b))
  | .less => some (truth (a < b))
  | .greater => some (truth (b < a))
  | .atMost => some (truth (a ≤ b))
  | .atLeast => some (truth (b ≤ a))
  | .shiftLeft => some (bits a <<< (b.toNat % 64)).toInt
  | .shiftRight => some ((bits a).sshiftRight (b.toNat % 64)).toInt
  | .add => some (wrapped (a + b))
  | .subtract => some (wrapped (a - b))
  | .multiply => some (wrapped (a * b))
  | .divide => if b = 0 then none else some (wrapped (a.tdiv b))
  | .remainder => if b = 0 then none else some (a.tmod b)

end Operation

inductive Expression where
  | number (n : Int)
  | variable (name : String)
  | opposite (a : Expression)
  /-- The number with all bits turned. -/
  | complement (a : Expression)
  /-- Whether a number is zero. -/
  | isZero (a : Expression)
  | binary (operation : Operation) (a b : Expression)
  | both (a b : Expression)
  | either (a b : Expression)
  | choice (test yes no : Expression)
  /-- Assigns to a variable, after an operation on its old value if one is given. -/
  | assign (name : String) (operation? : Option Operation) (a : Expression)
deriving Repr

/-- The operation that a text starts with at a level, and the rest. -/
def operation? (level : Nat) (text : List Char) : Option (Operation × List Char) :=
  match Operation.signs.findSome? fun (sign, entry) =>
      (Text.strip? sign text).map fun rest => (entry, rest) with
  | some ((found, operation), rest) =>
    let sign? := rest.head?
    let longer := sign? = some '=' || (operation = .bitAnd && sign? = some '&') ||
      (operation = .bitOr && sign? = some '|')
    if found = level && !longer then some (operation, rest) else none
  | none => none

/-- The operation of an assignment that a text starts with, and the rest. -/
def assigning? (text : List Char) : Option (Option Operation × List Char) :=
  match text with
  | '=' :: '=' :: _ => none
  | '=' :: rest => some (none, rest)
  | _ =>
    let combined := [Operation.shiftLeft, .shiftRight, .bitOr, .bitXor, .bitAnd, .add, .subtract,
      .multiply, .divide, .remainder]
    Operation.signs.findSome? fun (sign, _, operation) =>
      if combined.contains operation then
        (Text.strip? (sign ++ ['=']) text).map fun rest => (some operation, rest)
      else none

mutual
/-- Reads an assignment or a choice, with at most `fuel` levels below it. -/
def readExpression : Nat → List Char → Option (Expression × List Char)
  | 0, _ => none
  | fuel + 1, text => do
    let text := Text.trimStart text
    let name := text.takeWhile isNameChar
    match assigning? (Text.trimStart (text.dropWhile isNameChar)) with
    | some (operation?, rest) =>
      if isName name then
        let (value, rest) ← readExpression fuel rest
        return (.assign (String.ofList name) operation? value, rest)
      else none
    | none =>
      let (test, rest) ← readEither fuel text
      match Text.trimStart rest with
      | '?' :: rest => do
        let (yes, rest) ← readExpression fuel rest
        let ':' :: rest := Text.trimStart rest | none
        let (no, rest) ← readExpression fuel rest
        return (.choice test yes no, rest)
      | _ => return (test, rest)

def readEither : Nat → List Char → Option (Expression × List Char)
  | 0, _ => none
  | fuel + 1, text => do
    let (first, rest) ← readBoth fuel text
    match Text.trimStart rest with
    | '|' :: '|' :: rest => do
      let (second, rest) ← readEither fuel rest
      return (.either first second, rest)
    | _ => return (first, rest)

def readBoth : Nat → List Char → Option (Expression × List Char)
  | 0, _ => none
  | fuel + 1, text => do
    let (first, rest) ← readLevel fuel 1 text
    match Text.trimStart rest with
    | '&' :: '&' :: rest => do
      let (second, rest) ← readBoth fuel rest
      return (.both first second, rest)
    | _ => return (first, rest)

def readLevel : Nat → Nat → List Char → Option (Expression × List Char)
  | 0, _, _ => none
  | fuel + 1, level, text => do
    if level < Operation.levels then
      let (first, rest) ← readLevel fuel (level + 1) text
      readFurther fuel level first rest
    else readOperand fuel (Text.trimStart text)

def readFurther : Nat → Nat → Expression → List Char → Option (Expression × List Char)
  | 0, _, _, _ => none
  | fuel + 1, level, first, text =>
    match operation? level (Text.trimStart text) with
    | none => some (first, text)
    | some (operation, rest) => do
      let (second, rest) ← readLevel fuel (level + 1) rest
      readFurther fuel level (.binary operation first second) rest

def readOperand : Nat → List Char → Option (Expression × List Char)
  | 0, _ => none
  | fuel + 1, text =>
    let signed (build : Expression → Expression) (rest : List Char) :
        Option (Expression × List Char) := do
      let (operand, rest) ← readOperand fuel (Text.trimStart rest)
      return (build operand, rest)
    match text with
    | '-' :: rest => signed .opposite rest
    | '+' :: rest => signed id rest
    | '!' :: rest => signed .isZero rest
    | '~' :: rest => signed .complement rest
    | '(' :: rest => do
      let (inside, rest) ← readExpression fuel rest
      let ')' :: rest := Text.trimStart rest | none
      return (inside, rest)
    | c :: _ =>
      if c.isDigit then
        let (base, digits, rest) := splitNumeral text
        if rest.head?.any isNameChar then none
        else some (.number (wrapped (numeral base digits)), rest)
      else if isNameStart c then
        some (.variable (String.ofList (text.takeWhile isNameChar)), text.dropWhile isNameChar)
      else none
    | [] => none
end

/-- The expression that a text is; an empty one is zero. -/
def Expression.ofText? (text : List Char) : Option Expression := do
  if (Text.trim text).isEmpty then return .number 0
  let (expression, rest) ← readExpression (16 * text.length + 16) text
  if (Text.trim rest).isEmpty then return expression else none

/-- The value of an expression, in any setting that has variables. Nothing comes of a division by
zero. -/
def Expression.evaluate {m : Type → Type} [Monad m] (value : String → m Int)
    (assign : String → Int → m Unit) (refuse : m Int) : Expression → m Int
  | .number n => pure n
  | .variable name => value name
  | .opposite a => do
    let n ← a.evaluate value assign refuse
    return wrapped (-n)
  | .complement a => do
    let n ← a.evaluate value assign refuse
    return -n - 1
  | .isZero a => do
    let n ← a.evaluate value assign refuse
    return truth (n == 0)
  | .binary operation a b => do
    let n ← a.evaluate value assign refuse
    let m ← b.evaluate value assign refuse
    match operation.result? n m with
    | some result => return result
    | none => refuse
  | .both a b => do
    let n ← a.evaluate value assign refuse
    if n = 0 then return 0
    let m ← b.evaluate value assign refuse
    return truth (m != 0)
  | .either a b => do
    let n ← a.evaluate value assign refuse
    if n ≠ 0 then return 1
    let m ← b.evaluate value assign refuse
    return truth (m != 0)
  | .choice test yes no => do
    let n ← test.evaluate value assign refuse
    if n ≠ 0 then yes.evaluate value assign refuse else no.evaluate value assign refuse
  | .assign name operation? a => do
    let n ← a.evaluate value assign refuse
    let result ← match operation? with
      | none => pure n
      | some operation => do
        let old ← value name
        match operation.result? old n with
        | some result => pure result
        | none => refuse
    assign name result
    return result

end TitleBar.Shell
