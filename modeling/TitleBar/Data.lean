import TitleBar.Color

/-! # The title bar

What a host shows: a caption with its colors, whether there is a search box, and info blocks.
-/

namespace TitleBar

structure BlockData where
  text : String
  altText : Option String
  foreground : Option Color
  background : Option Color
deriving DecidableEq, Repr, Inhabited

/-- The title bar. A part that is absent is left to the host. -/
structure TitleBarData where
  title : Option String
  foreground : Option Color
  background : Option Color
  searchBox : Option Bool
  blocks : Option (List BlockData)
deriving DecidableEq, Repr, Inhabited

end TitleBar
