import TitleBar.Text.Blank

/-! # Paths

Paths as POSIX reads them. A path is kept as it was written; what it means is its list of parts,
in which repeated separators and parts `.` behind the first one leave no trace. Two paths are
equivalent when they have the same parts.
-/

namespace TitleBar

open Text

/-- A path, as it was written. -/
structure Path where
  text : String
deriving DecidableEq, Repr, Inhabited

namespace Path

inductive Part where
  /-- The leading separator. -/
  | root
  /-- A leading `.`. -/
  | here
  /-- `..`. -/
  | up
  /-- Any other name. -/
  | name (text : String)
deriving DecidableEq, Repr

/-- The meaning of a piece of a path; `.` is dropped, and so is an empty piece. -/
def Part.ofPiece? (piece : List Char) : Option Part :=
  if piece = [] ∨ piece = ['.'] then none
  else if piece = ['.', '.'] then some .up
  else some (.name (String.ofList piece))

def parts (path : Path) : List Part :=
  match path.text.toList with
  | '/' :: rest => .root :: (splitAt (· == '/') rest).filterMap Part.ofPiece?
  | text =>
    match splitAt (· == '/') text with
    | ['.'] :: pieces => .here :: pieces.filterMap Part.ofPiece?
    | pieces => pieces.filterMap Part.ofPiece?

def Part.text : Part → String
  | .root => "/"
  | .here => "."
  | .up => ".."
  | .name text => text

def ofParts : List Part → Path
  | .root :: rest => ⟨"/" ++ String.intercalate "/" (rest.map Part.text)⟩
  | parts => ⟨String.intercalate "/" (parts.map Part.text)⟩

/-- Whether the path starts at the root. -/
def isAbsolute (path : Path) : Bool := path.text.toList.head? == some '/'

/-- The path of `other` as seen from `path`; an absolute one stays as it is. -/
def join (path : Path) (other : String) : Path :=
  let tail := other.toList
  if tail.head? = some '/' then ⟨other⟩
  else if path.text.isEmpty ∨ path.text.toList.getLast? = some '/' then ⟨path.text ++ other⟩
  else ⟨path.text ++ "/" ++ other⟩

/-- A text without the pieces at its end that are empty or `.`, and without the separators between
them; a separator at the very start and a piece `.` there stay. -/
def trimmed (text : List Char) : List Char :=
  go text.length text
where
  /-- Drops one piece at a time. -/
  go : Nat → List Char → List Char
    | 0, text => text
    | fuel + 1, text =>
      match text.reverse with
      | '/' :: c :: rest => go fuel ((c :: rest).reverse)
      | '.' :: '/' :: c :: rest => go fuel (('/' :: c :: rest).reverse)
      | ['.', '/'] => ['/']
      | _ => text

/-- The path without its last part; `none` for a path that ends in no part to drop, which are the
root and the empty path. The text that is left is the text that was written. -/
def parent? (path : Path) : Option Path :=
  match path.parts.getLast? with
  | none | some .root => none
  | some _ =>
    let text := trimmed path.text.toList
    let kept := (text.reverse.dropWhile (· != '/')).reverse
    some ⟨String.ofList (trimmed kept)⟩

/-- The name of the last part, unless that is a separator, `.` or `..`. -/
def fileName? (path : Path) : Option String :=
  match path.parts.getLast? with
  | some (.name text) => some text
  | _ => none

/-- A file name split at its last dot. A name that starts with its only dot, and a name without
one, have no extension. -/
def splitExtension (name : String) : String × Option String :=
  let reversed := name.toList.reverse
  let after := (reversed.takeWhile (· != '.')).reverse
  match reversed.dropWhile (· != '.') with
  | '.' :: before@(_ :: _) => (String.ofList before.reverse, some (String.ofList after))
  | _ => (name, none)

/-- The file name without its extension. -/
def fileStem? (path : Path) : Option String := path.fileName?.map fun name => (splitExtension name).1

def extension? (path : Path) : Option String :=
  path.fileName?.bind fun name => (splitExtension name).2

/-- The path and the paths above it, the path itself first. -/
def ancestors (path : Path) : List Path :=
  go path.parts.length path
where
  /-- At most `fuel` steps up. -/
  go : Nat → Path → List Path
    | 0, path => [path]
    | fuel + 1, path =>
      match path.parent? with
      | some above => path :: go fuel above
      | none => [path]

/-- Equality of paths up to the way they are written. -/
def equivalent (a b : Path) : Bool := a.parts == b.parts

instance : ToString Path := ⟨Path.text⟩

end Path

end TitleBar
