import TitleBar.Data
import TitleBar.Text.Styled

/-! # The title bar in a terminal

A title bar on one line, the title first and its blocks behind it, and further lines for what the
line does not show.
-/

namespace TitleBar

open Text

/-- The style of a text with the given colors. A background alone comes with the text color that
reads best on it. -/
def paint (foreground background : Option Color) : Style :=
  { Style.none with
    background := background.map .exact
    foreground := (foreground.or (background.map Color.contrastingText)).map .exact }

def BlockData.chip (palette : Palette) (block : BlockData) : String :=
  match palette with
  | .plain => "[" ++ String.ofList (trim (" " ++ block.text ++ " ").toList) ++ "]"
  | _ => (paint block.foreground block.background).apply palette (" " ++ block.text ++ " ")

namespace TitleBarData

def shownBlocks (data : TitleBarData) : List BlockData := data.blocks.getD []

def line (palette : Palette) (data : TitleBarData) : String :=
  let title := data.title.getD ""
  let shown := match palette with
    | .plain => title
    | _ =>
      { paint data.foreground data.background with bold := true }.apply palette (" " ++ title ++ " ")
  String.join (shown :: data.shownBlocks.map fun block => " " ++ block.chip palette)

/-- A further line: a name and what is said under it. -/
def detail (palette : Palette) (name content : String) : String :=
  "  " ++ (Style.colored .blue).apply palette (padRight 12 name) ++ " " ++ content

def describeColor (palette : Palette) : Option Color → String
  | some color => color.toString
  | none => Style.faint.apply palette "-"

/-- The further lines: the colors, the search box if it is set, and the blocks with a tooltip. -/
def details (palette : Palette) (data : TitleBarData) : List String :=
  [detail palette "foreground" (describeColor palette data.foreground),
    detail palette "background" (describeColor palette data.background)] ++
  (data.searchBox.map fun value =>
    detail palette "search-box" (if value then "true" else "false")).toList ++
  data.shownBlocks.filterMap fun block => block.altText.map fun alt =>
    detail palette "block" (block.text ++ " (" ++ Style.faint.apply palette alt ++ ")")

end TitleBarData

end TitleBar
