import TitleBar.Proofs.Template.Chunks
import TitleBar.Proofs.Template.Nesting

/-! # Leaping over constructs

A search that meets a construct goes through its bodies with their braces on its stack. It could as
well look for the end of each body on its own and go on behind the construct, which is where reading
goes on, too. Whether the first character of a text continues a word matters only to an `i`; behind a
construct there is none that could continue the construct's last word.
-/

namespace TitleBar.Template

open Text

/-! ## Words that go on -/

section Words

variable {text : List Char} (other : text.head? ≠ some 'i') (glued glued' : Bool)

include other

theorem scanOpening?_of_head : scanOpening? glued text = scanOpening? glued' text := by
  unfold scanOpening?
  split <;> simp_all

theorem closing?_of_head (stack : List Brace) :
    closing? stack glued text = closing? stack glued' text := by
  rcases stack with _ | ⟨brace, outer⟩
  · rw [closing?_nil, closing?_nil]
  rcases text with _ | ⟨c, rest⟩
  · rw [closing?_cons_nil, closing?_cons_nil]
  by_cases special : c = '\\' ∨ c = '{' ∨ c = '}'
  · rw [closing?.eq_def, closing?.eq_def (brace :: outer) glued']
    rcases special with rfl | rfl | rfl
    · rcases rest with _ | ⟨d, rest⟩ <;> rfl
    · rfl
    · rfl
  · simp only [not_or] at special
    obtain ⟨noEscape, noOpening, noClosing⟩ := special
    rw [closing?_cons noEscape noOpening noClosing, closing?_cons noEscape noOpening noClosing,
      scanOpening?_of_head other glued glued']

theorem piece?_of_head (mode : Mode) : piece? mode glued text = piece? mode glued' text := by
  unfold piece?
  split
  · rfl
  · rfl
  · rfl
  · rw [scanOpening?_of_head other glued glued']

theorem parse_of_head (mode : Mode) : parse mode glued text = parse mode glued' text := by
  rw [parse_eq_piece?, parse_eq_piece?, piece?_of_head other glued glued']

end Words

/-! ## Ends of constructs -/

/-- A search finds the end of its innermost body on its own, and then goes on. -/
theorem closing?_cons_eq_close? (brace next : Brace) (outer : List Brace) (text : List Char) :
    closing? (brace :: next :: outer) false text =
      (close? brace text).bind fun closed => closing? (next :: outer) false closed.rest := by
  rcases found : close? brace text with _ | closed
  · rw [Option.bind_none, Option.eq_none_iff_forall_ne_some]
    intro rest ends
    have parts : closing? ([brace] ++ next :: outer) false text = some rest := ends
    obtain ⟨middle, inner, -⟩ := closing?_append parts
    rw [close?, inner] at found
    contradiction
  · exact closing?_of_reaches (Search.reaches_of_close? found)

/-- A search that leaps over a construct comes to the same end. -/
theorem closing?_leap (opening : Opening) (brace : Brace) (outer : List Brace) (after : List Char) :
    closing? (opening.brace?.toList ++ brace :: outer) false after =
      closing? (brace :: outer) false (cutConstruct opening after).rest := by
  have body (piece : Closed → Piece) :
      closing? (.literal :: brace :: outer) false after =
        closing? (brace :: outer) false (cutBody opening piece after).rest := by
    rw [closing?_cons_eq_close?, cutBody]
    rcases close? .literal after with _ | closed
    · exact (closing?_cons_nil ..).symm
    · rfl
  cases opening with
  | enclosing | dollar | value => rfl
  | joined | present | absent => exact body _
  | branch tag =>
    rw [cutConstruct]
    rcases first : close? .structural after with _ | yes
    · rw [closing?_cons_nil, Option.eq_none_iff_forall_ne_some]
      intro rest ends
      have parts : closing? ([] ++ .first :: brace :: outer) false after = some rest := ends
      obtain ⟨middle, inner⟩ := exists_closing?_of_first parts
      rw [List.nil_append] at inner
      rw [close?, inner] at first
      contradiction
    · have leads : closing? (.first :: brace :: outer) false after = _ :=
        closing?_of_reaches (Search.reaches_of_close?_first first)
      change closing? (.first :: brace :: outer) false after = _
      simp only [leads, Search.behindFirst, cutElse]
      rcases scanElse? yes.rest with _ | inside
      · rfl
      · change closing? (.structural :: brace :: outer) false inside = _
        rw [closing?_cons_eq_close?]
        rcases second : close? .structural inside with _ | no
        · simp only [second, Option.bind_none, closing?_cons_nil]
        · simp only [second, Option.bind_some]

/-- A construct that leaves a brace open ends behind its closing brace, or with the text. -/
theorem cutConstruct_ends (opening : Opening) (after : List Char) :
    (cutConstruct opening after).rest = [] ∨
      '}' :: (cutConstruct opening after).rest <:+ after ∨
      opening.brace? = none ∧ (cutConstruct opening after).rest = after := by
  have ends {brace : Brace} {text : List Char} {closed : Closed}
      (found : close? brace text = some closed) : '}' :: closed.rest <:+ text := by
    rw [(close?_eq_some_iff.1 found).1]
    exact List.suffix_append ..
  have body (piece : Closed → Piece) :
      (cutBody opening piece after).rest = [] ∨ '}' :: (cutBody opening piece after).rest <:+ after := by
    rw [cutBody]
    rcases found : close? .literal after with _ | closed
    · exact .inl rfl
    · exact .inr (ends found)
  cases opening with
  | enclosing | dollar | value => exact .inr (.inr ⟨rfl, rfl⟩)
  | joined | present | absent => exact (body _).imp_right .inl
  | branch tag =>
    rw [cutConstruct]
    rcases first : close? .structural after with _ | yes
    · exact .inl rfl
    · have behind : yes.rest <:+ after := (List.suffix_cons '}' yes.rest).trans (ends first)
      simp only [cutElse]
      rcases other : scanElse? yes.rest with _ | inside
      · exact .inr (.inl (ends first))
      · simp only
        rcases second : close? .structural inside with _ | no
        · exact .inl rfl
        · exact .inr (.inl (((ends second).trans (scanElse?_suffix other)).trans behind))

end TitleBar.Template

namespace TitleBar.Tag

/-- No word character follows an identifier that is read up to its end. -/
theorem scanTail_stops (text : List Char) : ∀ c ∈ (scanTail text).2.head?, isWord c = false := by
  induction text with
  | nil => simp [scanTail]
  | cons c rest ih =>
    unfold scanTail
    split
    · exact ih
    · rename_i noWord
      split
      · split
        · split
          · exact ih
          · simpa using noWord
        · simpa using noWord
      · simpa using noWord

end TitleBar.Tag

namespace TitleBar.Template

/-- Behind a tag stands no `i`, unless the tag ends with a parenthesis. -/
theorem scanTag?_ends {text tag after : List Char} (found : scanTag? text = some (tag, after)) :
    after.head? ≠ some 'i' ∨ ')' :: after <:+ text := by
  have whole := scanTag?_eq_some found
  rcases text with _ | ⟨c, text⟩
  · contradiction
  by_cases letter : Tag.isLetter c
  · have stops := Tag.scanTail_stops (c :: text)
    rw [scanTag?, Tag.scan, if_pos letter] at found
    split at found
    · contradiction
    · rename_i name rest _ scanned
      rw [scanned] at stops
      rcases listed : scanArguments rest with ⟨list, behind⟩
      have same := scanArguments_append rest
      have cases := scanArguments_cases rest
      rw [listed] at found same cases
      obtain ⟨rfl, rfl⟩ := Prod.mk.inj (Option.some.inj found)
      rcases cases with bare | ⟨inside, -, -, arguments⟩
      · left
        intro first
        have bare : list = [] := bare
        rw [bare] at same
        have word := stops 'i' (same ▸ first)
        contradiction
      · right
        have arguments : list = '(' :: (inside ++ [')']) := arguments
        rw [arguments] at whole
        exact ⟨name ++ '(' :: inside, by simpa using whole⟩
  · rw [scanTag?, Tag.scan, if_neg letter] at found
    contradiction

end TitleBar.Template
