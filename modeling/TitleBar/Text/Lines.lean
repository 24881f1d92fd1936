import TitleBar.Text.Blank

/-! # Lines

A line ends at a newline; a carriage return right before that belongs to the end of the line. What
follows the last newline is a line of its own unless it is empty.
-/

namespace TitleBar.Text

/-- The text of a line that a newline ended. -/
def dropReturn (line : List Char) : List Char :=
  if line.getLast? = some '\r' then line.dropLast else line

def lines (text : List Char) : List (List Char) :=
  let pieces := splitAt (· == '\n') text
  let ended := pieces.dropLast.map dropReturn
  match pieces.getLast? with
  | none | some [] => ended
  | some rest => ended ++ [rest]

end TitleBar.Text
