import TitleBar.Glob
import TitleBar.Tag

/-! # Predicates

A predicate asks about one tag: whether it is available, written `tag`, or whether its value
matches a pattern, written `tag =~ pattern`. Rules and info blocks are shown only when all of their
predicates hold.
-/

namespace TitleBar

open Text

/-- A tag and the pattern that its value has to match; the empty pattern asks only that the tag is
available. -/
structure Predicate where
  tag : String
  glob : Glob
deriving DecidableEq, Repr, Inhabited

namespace Predicate

/-- Why a text is no predicate; `text` is the trimmed text. -/
structure Malformed where
  text : String
deriving DecidableEq, Repr

def Malformed.message (error : Malformed) : String :=
  "Predicate '" ++ error.text ++ "' is not of the form 'tag' or 'tag =~ pattern'."

/-- Splits the identifier and, if one follows at once, the argument list off a text; `none` when the
text starts with no identifier. An argument list runs to the first closing parenthesis. -/
def splitTag? (text : List Char) : Option (List Char × List Char) :=
  match Tag.hyphenated text with
  | [] => none
  | name =>
    match text.drop name.length with
    | '(' :: inside =>
      match inside.dropWhile (· != ')') with
      | ')' :: rest => some (name ++ '(' :: inside.takeWhile (· != ')') ++ [')'], rest)
      | _ => some (name, '(' :: inside)
    | rest => some (name, rest)

/-- Reads the two parts of a trimmed predicate. A pattern holds no newline; white space around it
does not belong to it. -/
def parts? (text : List Char) : Option (List Char × List Char) :=
  match splitTag? text with
  | none => none
  | some (tag, rest) =>
    match trimStart rest with
    | [] => some (tag, [])
    | '=' :: '~' :: after =>
      let pattern := trimStart after
      if pattern.contains '\n' then none else some (tag, trimEnd pattern)
    | _ => none

def ofString? (text : String) : Except Malformed Predicate :=
  let trimmed := trim text.toList
  match parts? trimmed with
  | some (tag, pattern) => .ok ⟨String.ofList tag, ⟨String.ofList pattern⟩⟩
  | none => .error ⟨String.ofList trimmed⟩

def pattern (predicate : Predicate) : String := predicate.glob.source

/-- Writes a predicate in the form that `ofString?` reads. -/
def toString (predicate : Predicate) : String :=
  if predicate.glob.isEmpty then predicate.tag
  else predicate.tag ++ " =~ " ++ predicate.glob.source

instance : ToString Predicate := ⟨toString⟩

/-- Reads the predicates of a list; blank entries are skipped, and the first malformed one is the
error. -/
def listOf? (texts : List String) : Except Malformed (List Predicate) :=
  ((texts.map fun text => trim text.toList).filter (!·.isEmpty)).mapM fun text =>
    ofString? (String.ofList text)

/-- Reads predicates written in one text and separated by semicolons. -/
def joinedOf? (text : String) : Except Malformed (List Predicate) :=
  listOf? ((splitAt (· == ';') text.toList).map String.ofList)

end Predicate

end TitleBar
