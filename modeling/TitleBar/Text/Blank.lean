/-! # White space

The White_Space property of Unicode, and the operations on text that are defined by it: trimming,
words, and stepping over a run of white space. All of them work on lists of characters, because
every reader of this library consumes its text from the front.
-/

namespace TitleBar.Text

/-- The White_Space property. -/
def isBlank (c : Char) : Bool :=
  (0x09 ≤ c.toNat && c.toNat ≤ 0x0d) || c.toNat == 0x20 || c.toNat == 0x85 || c.toNat == 0xa0 ||
  c.toNat == 0x1680 || (0x2000 ≤ c.toNat && c.toNat ≤ 0x200a) || c.toNat == 0x2028 ||
  c.toNat == 0x2029 || c.toNat == 0x202f || c.toNat == 0x205f || c.toNat == 0x3000

def trimStart (text : List Char) : List Char := text.dropWhile isBlank

def trimEnd (text : List Char) : List Char := (text.reverse.dropWhile isBlank).reverse

/-- The text without white space at either end. -/
def trim (text : List Char) : List Char := trimEnd (trimStart text)

/-- The pieces between the characters that satisfy `cut`; there is one more piece than cuts. -/
def splitAt (cut : Char → Bool) : List Char → List (List Char)
  | [] => [[]]
  | c :: rest =>
    if cut c then [] :: splitAt cut rest
    else match splitAt cut rest with
      | [] => [[c]]
      | piece :: pieces => (c :: piece) :: pieces

/-- The runs of characters other than white space. -/
def words (text : List Char) : List (List Char) :=
  (splitAt isBlank text).filter (!·.isEmpty)

/-- What follows `lead` in a text that starts with it. -/
def strip? : List Char → List Char → Option (List Char)
  | [], text => some text
  | _ :: _, [] => none
  | l :: lead, c :: text => if l = c then strip? lead text else none

/-- What precedes `tail` in a text that ends with it. -/
def stripEnd? (tail text : List Char) : Option (List Char) :=
  (strip? tail.reverse text.reverse).map List.reverse

theorem trimStart_length_le (text : List Char) : (trimStart text).length ≤ text.length :=
  (List.dropWhile_sublist isBlank).length_le

theorem strip?_eq_some_iff {lead text rest : List Char} :
    strip? lead text = some rest ↔ text = lead ++ rest := by
  induction lead generalizing text with
  | nil => simp [strip?, eq_comm]
  | cons l lead ih =>
    cases text with
    | nil => simp [strip?]
    | cons c text =>
      by_cases same : l = c
      · simp [strip?, same, ih]
      · simp [strip?, same, Ne.symm same]

/-- Text between the given marks, as a text. -/
def join (mark : List Char) : List (List Char) → List Char
  | [] => []
  | [piece] => piece
  | piece :: pieces => piece ++ mark ++ join mark pieces

end TitleBar.Text
