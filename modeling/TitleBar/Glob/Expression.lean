import TitleBar.Glob
import TitleBar.Text.Blank

/-! # Wildcard patterns as regular expressions

A pattern is compiled by rewriting its text: what means something in a regular expression is escaped,
and then the escaped wildcards are replaced, first `\*` by `.*` and after that `\?` by `.`. The result
is anchored at both ends. The library of regular expressions itself is a parameter. It ignores case, and
its `.` takes newlines as well.
-/

namespace TitleBar

namespace Text

/-- Replaces a text that starts with `first` wherever it occurs, from the left to the right. -/
def replaceAll (first : Char) (others new : List Char) (text : List Char) : List Char :=
  match text with
  | [] => []
  | c :: rest =>
    match _found : strip? (first :: others) (c :: rest) with
    | some after => new ++ replaceAll first others new after
    | none => c :: replaceAll first others new rest
termination_by text.length
decreasing_by
  · have whole := congrArg List.length (strip?_eq_some_iff.1 _found)
    simp only [List.length_append, List.length_cons] at whole ⊢
    omega
  · exact Nat.lt_succ_self _

end Text

namespace Glob

open Text

/-- A library of regular expressions. -/
structure Engine where
  /-- Whether a character has to be escaped to stand for itself. -/
  isMeta : Char → Bool
  /-- Compiles an expression to a test of texts, unless that fails. -/
  compile? : List Char → Option (List Char → Bool)

namespace Engine

/-- A character as it has to be written to stand for itself. -/
def escaped (engine : Engine) (c : Char) : List Char := if engine.isMeta c then ['\\', c] else [c]

def escape (engine : Engine) (text : List Char) : List Char := text.flatMap engine.escaped

/-- An expression for the whole of a text. -/
def anchored (expression : List Char) : List Char := '^' :: (expression ++ ['$'])

def translate (engine : Engine) (pattern : List Char) : List Char :=
  replaceAll '\\' ['?'] ['.'] (replaceAll '\\' ['*'] ['.', '*'] (engine.escape pattern))

end Engine

/-- The compiled form of a pattern. The empty pattern has none, nor has one that does not compile. -/
def regex? (engine : Engine) (glob : Glob) : Option (List Char → Bool) :=
  if glob.isEmpty then none
  else engine.compile? (Engine.anchored (engine.translate glob.source.toList))

/-- Whether the compiled form of a pattern matches a text. -/
def isMatchBy (engine : Engine) (glob : Glob) (text : String) : Bool :=
  glob.isEmpty || (glob.regex? engine).any fun regex => regex text.toList

/-- What an expression takes one character by. -/
inductive Atom where
  | literal (c : Char)
  /-- `.` -/
  | any
deriving DecidableEq, Repr

/-- An atom, perhaps with a `*` behind it. -/
structure Factor where
  atom : Atom
  repeated : Bool
deriving DecidableEq, Repr

/-- Whether an atom takes a character. Case is ignored. -/
def Atom.takes : Atom → Char → Bool
  | literal c, d => sameFolded c d
  | any, _ => true

def Atom.spelling (engine : Engine) : Atom → List Char
  | literal c => engine.escaped c
  | any => ['.']

def Factor.spelling (engine : Engine) (factor : Factor) : List Char :=
  factor.atom.spelling engine ++ if factor.repeated then ['*'] else []

/-- Whether the whole of a text can be split among factors in a row. -/
inductive Accepts : List Factor → List Char → Prop
  | nil : Accepts [] []
  | once {atom : Atom} {factors : List Factor} {c : Char} {text : List Char} (takes : atom.takes c)
    (rest : Accepts factors text) : Accepts (⟨atom, false⟩ :: factors) (c :: text)
  | repeated {atom : Atom} {factors : List Factor} {run text : List Char}
    (takes : ∀ c ∈ run, atom.takes c) (rest : Accepts factors text) :
    Accepts (⟨atom, true⟩ :: factors) (run ++ text)

/-- What a library promises: the characters that are written otherwise in a pattern can be escaped, and
what it compiles from factors in a row accepts what these accept. -/
structure Engine.Lawful (engine : Engine) : Prop where
  backslash : engine.isMeta '\\'
  star : engine.isMeta '*'
  mark : engine.isMeta '?'
  accepts {factors : List Factor} {regex : List Char → Bool}
    (compiled : engine.compile? (anchored (factors.flatMap (Factor.spelling engine))) = some regex)
    (text : List Char) : regex text ↔ Accepts factors text

end Glob

end TitleBar
