/-! # Classes of characters

The classes that patterns, regular expressions and translations know by a name. They hold ASCII
characters alone, as in the plainest locale.
-/

namespace TitleBar.Shell

def charClasses : List (String × List (Char × Char)) := [
  ("alpha", [('A', 'Z'), ('a', 'z')]),
  ("digit", [('0', '9')]),
  ("alnum", [('0', '9'), ('A', 'Z'), ('a', 'z')]),
  ("upper", [('A', 'Z')]),
  ("lower", [('a', 'z')]),
  ("space", [('\t', '\r'), (' ', ' ')]),
  ("blank", [('\t', '\t'), (' ', ' ')]),
  ("punct", [('!', '/'), (':', '@'), ('[', '`'), ('\x7b', '~')]),
  ("print", [(' ', '~')]),
  ("graph", [('!', '~')]),
  ("cntrl", [('\x00', '\x1f'), ('\x7f', '\x7f')]),
  ("xdigit", [('0', '9'), ('A', 'F'), ('a', 'f')])]

def inCharRanges (ranges : List (Char × Char)) (c : Char) : Bool :=
  ranges.any fun (low, high) => low ≤ c && c ≤ high

def charsOf (ranges : List (Char × Char)) : List Char :=
  ranges.flatMap fun (low, high) =>
    (List.range (high.toNat + 1 - low.toNat)).map fun i => Char.ofNat (low.toNat + i)

def isWordChar (c : Char) : Bool := c.isAlphanum || c == '_'

end TitleBar.Shell
