import TitleBar.Toml.Line

/-! # TOML documents

A document is the table that its expressions build one after the other. A document that breaks the
grammar, or that defines something twice, has no meaning at all.
-/

namespace TitleBar.Toml

structure Draft where
  entries : Entries
  /-- The path of the last header. -/
  header : List String

def Draft.add? (draft : Draft) : Expression → Option Draft
  | .value path key value => do
    return { draft with entries := ← underHeader (addDotted key value path) draft.header draft.entries }
  | .table path key => do
    return ⟨← underHeader (openTable key) path draft.entries, path ++ [key]⟩
  | .element path key => do
    return ⟨← underHeader (addTable key) path draft.entries, path ++ [key]⟩

/-- The text without a byte order mark. -/
def skipMark : List Char → List Char
  | '\ufeff' :: rest => rest
  | text => text

def ofString? (text : String) : Option Entries := do
  let text := skipMark text.toList
  let expressions ← expressions? (text.length + 1) text
  let draft ← expressions.foldlM Draft.add? ⟨[], []⟩
  return draft.entries

end TitleBar.Toml
