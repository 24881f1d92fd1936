import TitleBar.Data
import TitleBar.Text.JsonString

/-! # The title bar as JSON

The indented form that other programs read. Fields stand in a fixed order and are always there; an
absent part is `null`.
-/

namespace TitleBar

/-- A JSON value, as far as a title bar needs it. -/
inductive JsonTree where
  | null
  | boolean (value : Bool)
  | string (text : String)
  | list (items : List JsonTree)
  | object (fields : List (String × JsonTree))

namespace JsonTree

/-- A line end and the indentation of a level. -/
def newline (level : Nat) : String := "\n" ++ String.ofList (List.replicate (2 * level) ' ')

mutual
def writeAt (level : Nat) : JsonTree → String
  | .null => "null"
  | .boolean value => if value then "true" else "false"
  | .string text => Text.jsonString text
  | .list [] => "[]"
  | .list (item :: rest) =>
    "[" ++ newline (level + 1) ++ writeAt (level + 1) item ++ writeItems (level + 1) rest ++
      newline level ++ "]"
  | .object [] => "\x7b\x7d"
  | .object (field :: rest) =>
    "\x7b" ++ newline (level + 1) ++ writeField (level + 1) field ++ writeFields (level + 1) rest ++
      newline level ++ "\x7d"

def writeItems (level : Nat) : List JsonTree → String
  | [] => ""
  | item :: rest => "," ++ newline level ++ writeAt level item ++ writeItems level rest

def writeField (level : Nat) : String × JsonTree → String
  | (name, value) => Text.jsonString name ++ ": " ++ writeAt level value

def writeFields (level : Nat) : List (String × JsonTree) → String
  | [] => ""
  | field :: rest => "," ++ newline level ++ writeField level field ++ writeFields level rest
end

def write (tree : JsonTree) : String := tree.writeAt 0

def ofOption {α : Type} (tree : α → JsonTree) : Option α → JsonTree
  | some a => tree a
  | none => .null

end JsonTree

def Color.json (color : Color) : JsonTree := .string color.toString

def BlockData.json (block : BlockData) : JsonTree :=
  .object [
    ("text", .string block.text),
    ("alt-text", .ofOption .string block.altText),
    ("foreground", .ofOption Color.json block.foreground),
    ("background", .ofOption Color.json block.background)]

def TitleBarData.json (data : TitleBarData) : JsonTree :=
  .object [
    ("title", .ofOption .string data.title),
    ("foreground", .ofOption Color.json data.foreground),
    ("background", .ofOption Color.json data.background),
    ("search-box", .ofOption .boolean data.searchBox),
    ("blocks", .ofOption (fun blocks => .list (blocks.map BlockData.json)) data.blocks)]

end TitleBar
