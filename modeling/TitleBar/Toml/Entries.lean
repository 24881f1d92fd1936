import TitleBar.Toml

/-! # Building tables

A document defines each table once. A header leads to a table through tables that earlier headers
or dotted keys have begun, and through the last element of an array of tables; a dotted key leads
through tables that have no header of their own and through the last element of an array of tables,
and ends in a table that dotted keys have begun. What is written between braces or brackets is
closed to both.
-/

namespace TitleBar.Toml

/-- Changes the value under a key, or adds one, keeping the order of the keys. -/
def alter (key : String) (change : Option Toml → Option Toml) : Entries → Option Entries
  | [] => (change none).map fun value => [(key, value)]
  | (k, value) :: rest =>
    if k = key then (change (some value)).map fun value => (k, value) :: rest
    else (alter key change rest).map ((k, value) :: ·)

def alterLast (change : Entries → Option Entries) : List Toml → Option (List Toml)
  | [] => none
  | [.table origin entries] => (change entries).map fun entries => [.table origin entries]
  | item :: rest => (alterLast change rest).map (item :: ·)

/-- Changes the entries of the table that the path of a header leads to. -/
def underHeader (change : Entries → Option Entries) : List String → Entries → Option Entries
  | [], entries => change entries
  | key :: path, entries =>
    alter key (fun
      | none => (underHeader change path []).map (.table .implied)
      | some (.table .inline _) => none
      | some (.table origin below) => (underHeader change path below).map (.table origin)
      | some (.array true items) => (alterLast (underHeader change path) items).map (.array true)
      | some _ => none) entries

/-- Opens the table of a header. A table that only longer headers have begun may be opened. -/
def openTable (key : String) : Entries → Option Entries :=
  alter key fun
    | none => some (.table .header [])
    | some (.table .implied entries) => some (.table .header entries)
    | some _ => none

def addTable (key : String) : Entries → Option Entries :=
  alter key fun
    | none => some (.array true [.table .header []])
    | some (.array true items) => some (.array true (items ++ [.table .header []]))
    | some _ => none

def addValue (key : String) (value : Toml) : Entries → Option Entries :=
  alter key fun
    | none => some value
    | some _ => none

/-- Adds the value of a key, which is dotted if `path` leads to it. -/
def addDotted (key : String) (value : Toml) : List String → Entries → Option Entries
  | [], entries => addValue key value entries
  | first :: path, entries =>
    alter first (fun
      | none => (addDotted key value path []).map (.table .dotted)
      | some (.table .dotted below) => (addDotted key value path below).map (.table .dotted)
      | some (.table .implied below) =>
        if path = [] then none else (addDotted key value path below).map (.table .implied)
      | some (.array true items) =>
        if path = [] then none
        else (alterLast (addDotted key value path) items).map (.array true)
      | some _ => none) entries

end TitleBar.Toml
