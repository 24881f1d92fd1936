import TitleBar.Color
import TitleBar.Text.Blank

/-! # Styled texts

Texts with the escape sequences of a terminal. A style is a list of codes, set in front of the text
and reset behind it; a reset inside the text is followed by the codes again. How a color is written
depends on how many colors the terminal has.
-/

namespace TitleBar

inductive Palette where
  /-- No styles at all. -/
  | plain
  /-- The sixteen named colors. -/
  | named
  /-- Every color. -/
  | full
deriving DecidableEq, Repr

inductive Ink where
  /-- A named color, by its place among the eight dark and the eight bright ones. -/
  | named (place : Fin 16)
  | exact (color : Color)
deriving DecidableEq, Repr

namespace Ink

def red : Ink := .named 1

def green : Ink := .named 2

def yellow : Ink := .named 3

def blue : Ink := .named 4

def cyan : Ink := .named 6

/-- The named colors as terminals commonly show them. -/
def shown : List (Nat × Nat × Nat) := [
  (0, 0, 0), (205, 0, 0), (0, 205, 0), (205, 205, 0), (0, 0, 238), (205, 0, 205), (0, 205, 205),
  (229, 229, 229), (127, 127, 127), (255, 0, 0), (0, 255, 0), (255, 255, 0), (92, 92, 255),
  (255, 0, 255), (0, 255, 255), (255, 255, 255)]

/-- The square of the difference of two channels. -/
def squared (a b : Nat) : Nat := (max a b - min a b) * (max a b - min a b)

/-- The squared distance of a color from channels. -/
def distance (color : Color) (channels : Nat × Nat × Nat) : Nat :=
  squared color.red.toNat channels.1 + squared color.green.toNat channels.2.1 +
    squared color.blue.toNat channels.2.2

/-- The place of the smallest number of a list, the first one of several. -/
def leastPlace : List Nat → Nat
  | [] => 0
  | n :: rest => if rest.all (n ≤ ·) then 0 else leastPlace rest + 1

def nearest (color : Color) : Nat := leastPlace (shown.map (distance color))

/-- The code of the named color at a place; `base` is the code of the first dark one. -/
def placeCode (base place : Nat) : String :=
  if place < 8 then toString (base + place) else toString (base + 60 + (place - 8))

/-- The codes of a color; `base` is the code of the first dark named color. -/
def codes (palette : Palette) (base : Nat) : Ink → String
  | .named place => placeCode base place
  | .exact color =>
    match palette with
    | .full =>
      toString (base + 8) ++ ";2;" ++ toString color.red.toNat ++ ";" ++
        toString color.green.toNat ++ ";" ++ toString color.blue.toNat
    | _ => placeCode base (nearest color)

end Ink

structure Style where
  bold : Bool
  dim : Bool
  background : Option Ink
  foreground : Option Ink
deriving DecidableEq, Repr

namespace Style

def none : Style := ⟨false, false, Option.none, Option.none⟩

def strong : Style := { none with bold := true }

def faint : Style := { none with dim := true }

def colored (ink : Ink) : Style := { none with foreground := some ink }

/-- The codes of a style, in the order in which they are written. -/
def codes (palette : Palette) (style : Style) : List String :=
  (if style.bold then ["1"] else []) ++ (if style.dim then ["2"] else []) ++
    (style.background.map (Ink.codes palette 40)).toList ++
    (style.foreground.map (Ink.codes palette 30)).toList

/-- The sequence that ends every style. -/
def reset : List Char := ['\x1b', '[', '0', 'm']

/-- The text with `again` behind every reset in it. -/
def restyle (again : List Char) : List Char → List Char
  | '\x1b' :: '[' :: '0' :: 'm' :: rest => reset ++ again ++ restyle again rest
  | c :: rest => c :: restyle again rest
  | [] => []

def apply (style : Style) (palette : Palette) (text : String) : String :=
  match palette, style.codes palette with
  | .plain, _ | _, [] => text
  | _, codes =>
    let set := ['\x1b', '['] ++ (String.intercalate ";" codes).toList ++ ['m']
    String.ofList (set ++ restyle set text.toList ++ reset)

end Style

def padRight (width : Nat) (text : String) : String :=
  text ++ String.ofList (List.replicate (width - text.length) ' ')

end TitleBar
