import TitleBar.Text.Blank
import Mathlib.Data.List.TakeWhile
import Mathlib.Tactic.Common

/-! # Trimming and pieces of texts

White space around a text is trimmed off, whatever the text holds inside. Texts that are joined with a
mark are got back by splitting at it, as long as none of them holds the mark; the words of two texts
with white space between them are those of the one and those of the other.
-/

namespace TitleBar.Text

section Trimming

theorem trimStart_of_solid {c : Char} (solid : isBlank c = false) (text : List Char) :
    trimStart (c :: text) = c :: text :=
  List.dropWhile_cons_of_neg (by simp [solid])

theorem trimStart_of_blank {front : List Char} (blank : ∀ c ∈ front, isBlank c)
    (text : List Char) : trimStart (front ++ text) = trimStart text :=
  List.dropWhile_append_of_pos blank

/-- White space, and then the text without it. -/
theorem exists_blank_append_trimStart (text : List Char) :
    ∃ front, (∀ c ∈ front, isBlank c) ∧ text = front ++ trimStart text :=
  ⟨text.takeWhile isBlank, fun _ => List.mem_takeWhile_imp, List.takeWhile_append_dropWhile.symm⟩

theorem trimEnd_of_solid {c : Char} (solid : isBlank c = false) (text : List Char) :
    trimEnd (text ++ [c]) = text ++ [c] := by
  rw [trimEnd, List.reverse_concat, List.dropWhile_cons_of_neg (by simp [solid]), ← List.reverse_concat,
    List.reverse_reverse]

theorem trimEnd_of_blank {back : List Char} (blank : ∀ c ∈ back, isBlank c) (text : List Char) :
    trimEnd (text ++ back) = trimEnd text := by
  rw [trimEnd, List.reverse_append,
    List.dropWhile_append_of_pos fun c member => blank c (List.mem_reverse.1 member)]
  rfl

theorem trimStart_eq_nil {text : List Char} (blank : ∀ c ∈ text, isBlank c) : trimStart text = [] :=
  List.dropWhile_eq_nil_iff.2 blank

/-- What is trimmed at its start is empty or starts with something else than white space. -/
theorem trimStart_cases (text : List Char) :
    trimStart text = [] ∨ ∃ c rest, trimStart text = c :: rest ∧ isBlank c = false := by
  rcases left : trimStart text with _ | ⟨c, rest⟩
  · exact .inl rfl
  · have first := List.head?_dropWhile_not isBlank text
    rw [← trimStart, left] at first
    exact .inr ⟨c, rest, rfl, by simpa using first⟩

theorem trimStart_trimStart (text : List Char) : trimStart (trimStart text) = trimStart text := by
  rcases trimStart_cases text with none | ⟨c, rest, left, solid⟩
  · rw [none]
    rfl
  · rw [left, trimStart_of_solid solid]

/-- White space around a text does not matter to what is left of it. -/
theorem trim_around {front back : List Char} (before : ∀ c ∈ front, isBlank c)
    (behind : ∀ c ∈ back, isBlank c) (text : List Char) : trim (front ++ text ++ back) = trim text := by
  rw [trim, trim, List.append_assoc, trimStart_of_blank before]
  obtain ⟨gap, blank, whole⟩ := exists_blank_append_trimStart text
  rw [whole, List.append_assoc, trimStart_of_blank blank, trimStart_of_blank blank, trimStart_trimStart]
  rcases trimStart_cases text with none | ⟨c, rest, left, solid⟩
  · rw [none, List.nil_append, trimStart_eq_nil behind]
  · rw [left, List.cons_append, trimStart_of_solid solid, ← List.cons_append, trimEnd_of_blank behind]

/-- Whether there is no white space at either end of a text. -/
def Trimmed (text : List Char) : Prop :=
  (∀ c ∈ text.head?, isBlank c = false) ∧ ∀ c ∈ text.getLast?, isBlank c = false

instance (text : List Char) : Decidable (Trimmed text) :=
  @instDecidableAnd _ _ (Option.decidableForallMem text.head?) (Option.decidableForallMem text.getLast?)

theorem Trimmed.trim {text : List Char} (trimmed : Trimmed text) : Text.trim text = text := by
  have start : trimStart text = text := by
    rcases text with _ | ⟨c, rest⟩
    · rfl
    · exact trimStart_of_solid (trimmed.1 c rfl) rest
  rw [Text.trim, start]
  rcases List.eq_nil_or_concat text with rfl | ⟨rest, c, rfl⟩
  · rfl
  · rw [List.concat_eq_append] at trimmed ⊢
    exact trimEnd_of_solid (trimmed.2 c List.getLast?_concat) rest

theorem trimmed_of_solid {text : List Char} (solid : ∀ c ∈ text, isBlank c = false) :
    Trimmed text := by
  constructor
  · intro c first
    exact solid c (List.mem_of_mem_head? first)
  · intro c last
    exact solid c (List.mem_of_mem_getLast? last)

theorem trimmed_trim (text : List Char) : Trimmed (trim text) := by
  rw [trim]
  rcases trimStart_cases text with none | ⟨c, rest, left, solid⟩
  · rw [none]
    exact ⟨nofun, nofun⟩
  · obtain ⟨back, blank, whole⟩ := exists_blank_append_trimStart (c :: rest).reverse
    rcases trimStart_cases (c :: rest).reverse with none | ⟨d, body, ends, solidEnd⟩
    · rw [none, List.append_nil] at whole
      have member : c ∈ back := whole ▸ List.mem_reverse.2 List.mem_cons_self
      exact absurd (blank c member) (by simp [solid])
    · have kept : trimEnd (c :: rest) = body.reverse ++ [d] := by
        rw [trimEnd, ← trimStart, ends, List.reverse_cons]
      have front : c :: rest = body.reverse ++ [d] ++ back.reverse := by
        rw [ends] at whole
        simpa using congrArg List.reverse whole
      rw [left, kept]
      constructor
      · intro e first
        have same : (c :: rest).head? = some e := by
          rw [front, List.head?_append, first, Option.some_or]
        exact Option.some.inj same ▸ solid
      · intro e last
        rw [List.getLast?_concat] at last
        exact Option.some.inj last ▸ solidEnd

theorem mem_of_mem_trim {c : Char} {text : List Char} (member : c ∈ trim text) : c ∈ text := by
  have left : c ∈ (trimStart text).reverse.dropWhile isBlank := List.mem_reverse.1 member
  have kept : c ∈ trimStart text := List.mem_reverse.1 ((List.dropWhile_sublist _).mem left)
  exact (List.dropWhile_sublist _).mem kept

/-- Nothing but white space is trimmed off. -/
theorem count_trim {c : Char} (solid : isBlank c = false) (text : List Char) :
    (trim text).count c = text.count c := by
  have dropped (text : List Char) : (text.dropWhile isBlank).count c = text.count c := by
    have absent : c ∉ text.takeWhile isBlank := by
      intro member
      simpa [solid] using List.mem_takeWhile_imp member
    conv_rhs => rw [← List.takeWhile_append_dropWhile (p := isBlank) (l := text)]
    rw [List.count_append, List.count_eq_zero_of_not_mem absent, Nat.zero_add]
  rw [trim, trimEnd, List.count_reverse, dropped, List.count_reverse, trimStart, dropped]

theorem trim_eq_nil_iff {text : List Char} : trim text = [] ↔ ∀ c ∈ text, isBlank c := by
  constructor
  · intro nothing c member
    by_contra solid
    have kept := count_trim (Bool.eq_false_iff.2 solid) text
    rw [nothing, List.count_nil] at kept
    exact List.count_eq_zero.1 kept.symm member
  · intro blank
    rw [trim, trimStart_eq_nil blank]
    rfl

theorem trimmed_nil : Trimmed [] := by
  constructor <;> simp

/-- White space inside of a text is not at its ends. -/
theorem Trimmed.append {first second : List Char} (trimmed : Trimmed first) (some : first ≠ [])
    (trimmed' : Trimmed second) (some' : second ≠ []) (middle : List Char) :
    Trimmed (first ++ (middle ++ second)) := by
  constructor
  · obtain ⟨c, first, rfl⟩ := List.exists_cons_of_ne_nil some
    exact trimmed.1
  · obtain ⟨second, c, rfl⟩ := List.eq_nil_or_concat second |>.resolve_left some'
    simpa using trimmed'.2

theorem Trimmed.append_cons {first second : List Char} {c : Char} (trimmed : Trimmed first)
    (solid : isBlank c = false) (trimmed' : Trimmed second) : Trimmed (first ++ c :: second) := by
  constructor
  · rcases first with _ | ⟨d, first⟩
    · simpa using solid
    · exact trimmed.1
  · rcases List.eq_nil_or_concat second with rfl | ⟨second, d, rfl⟩
    · simpa using solid
    · rw [List.concat_eq_append] at trimmed' ⊢
      rw [← List.cons_append, ← List.append_assoc, List.getLast?_concat]
      rw [Trimmed, List.getLast?_concat] at trimmed'
      exact trimmed'.2

theorem Trimmed.eq_nil_of_blank {text back : List Char} (trimmed : Trimmed (text ++ back))
    (blank : ∀ c ∈ back, isBlank c) : back = [] := by
  rcases List.eq_nil_or_concat back with rfl | ⟨front, c, rfl⟩
  · rfl
  · rw [List.concat_eq_append] at trimmed blank
    have solid := trimmed.2 c (by simp)
    simp [blank c (by simp)] at solid

/-- White space around a text without white space is trimmed off. -/
theorem trim_of_blank {front text back : List Char} (before : ∀ c ∈ front, isBlank c)
    (solid : ∀ c ∈ text, isBlank c = false) (behind : ∀ c ∈ back, isBlank c) :
    trim (front ++ text ++ back) = text :=
  (trim_around before behind text).trans (trimmed_of_solid solid).trim

end Trimming

section Splitting

variable {cut : Char → Bool}

/-- The text in front of a mark, and what follows from the mark on. -/
theorem span_of_not_mem {mark : Char} {text : List Char} (absent : mark ∉ text) (rest : List Char) :
    (text ++ mark :: rest).takeWhile (· != mark) = text ∧
      (text ++ mark :: rest).dropWhile (· != mark) = mark :: rest := by
  have outside : ∀ c ∈ text, (c != mark) = true := by
    intro c member
    rw [bne_iff_ne]
    rintro rfl
    exact absent member
  constructor
  · rw [List.takeWhile_append_of_pos outside, List.takeWhile_cons_of_neg (by simp), List.append_nil]
  · rw [List.dropWhile_append_of_pos outside, List.dropWhile_cons_of_neg (by simp)]

theorem uncut_of_not_mem {mark : Char} {text : List Char} (absent : mark ∉ text) :
    ∀ c ∈ text, (c == mark) = false := by
  intro c member
  rw [beq_eq_false_iff_ne]
  rintro rfl
  exact absent member

theorem splitAt_cons_of_cut {c : Char} (cuts : cut c) (rest : List Char) :
    splitAt cut (c :: rest) = [] :: splitAt cut rest := by
  rw [splitAt, if_pos cuts]

/-- The first piece of a text is a prefix of it, and the others stand in it. -/
theorem splitAt_eq_cons (cut : Char → Bool) (text : List Char) : ∃ first more,
    splitAt cut text = first :: more ∧ first <+: text ∧ ∀ piece ∈ more, piece <:+: text := by
  induction text with
  | nil => exact ⟨[], [], rfl, List.nil_prefix, by simp⟩
  | cons c rest ih =>
    obtain ⟨first, more, whole, front, inside⟩ := ih
    have later : rest <:+: c :: rest := (List.suffix_cons c rest).isInfix
    rw [splitAt, whole]
    by_cases cuts : cut c
    · rw [if_pos cuts]
      refine ⟨[], first :: more, rfl, List.nil_prefix, ?_⟩
      intro piece member
      rcases List.mem_cons.1 member with rfl | member
      · exact front.isInfix.trans later
      · exact (inside piece member).trans later
    · rw [if_neg cuts]
      refine ⟨c :: first, more, rfl, (List.prefix_cons_inj c).2 front, ?_⟩
      intro piece member
      exact (inside piece member).trans later

theorem infix_of_mem_splitAt {text piece : List Char} (member : piece ∈ splitAt cut text) :
    piece <:+: text := by
  obtain ⟨first, more, whole, front, inside⟩ := splitAt_eq_cons cut text
  rw [whole] at member
  rcases List.mem_cons.1 member with rfl | member
  · exact front.isInfix
  · exact inside piece member

theorem splitAt_ne_nil (cut : Char → Bool) (text : List Char) : splitAt cut text ≠ [] := by
  obtain ⟨first, more, whole, -⟩ := splitAt_eq_cons cut text
  rw [whole]
  exact List.cons_ne_nil first more

theorem splitAt_of_uncut {piece : List Char} (uncut : ∀ c ∈ piece, cut c = false) :
    splitAt cut piece = [piece] := by
  induction piece with
  | nil => rfl
  | cons c piece ih =>
    obtain ⟨plain, others⟩ := List.forall_mem_cons.1 uncut
    rw [splitAt, if_neg (by simp [plain]), ih others]

theorem uncut_of_mem_splitAt {text piece : List Char} (member : piece ∈ splitAt cut text) :
    ∀ c ∈ piece, cut c = false := by
  induction text generalizing piece with
  | nil =>
    obtain rfl := List.mem_singleton.1 member
    exact List.forall_mem_nil _
  | cons c rest ih =>
    obtain ⟨first, more, whole, -⟩ := splitAt_eq_cons cut rest
    rw [whole] at ih
    rw [splitAt, whole] at member
    by_cases cuts : cut c
    · rw [if_pos cuts] at member
      rcases List.mem_cons.1 member with rfl | member
      · exact List.forall_mem_nil _
      · exact ih member
    · rw [if_neg cuts] at member
      rcases List.mem_cons.1 member with rfl | member
      · exact List.forall_mem_cons.2 ⟨Bool.eq_false_iff.2 cuts, ih List.mem_cons_self⟩
      · exact ih (List.mem_cons_of_mem first member)

theorem splitAt_append_cons (first : List Char) {mark : Char} (cuts : cut mark) (second : List Char) :
    splitAt cut (first ++ mark :: second) = splitAt cut first ++ splitAt cut second := by
  induction first with
  | nil => exact splitAt_cons_of_cut cuts second
  | cons c first ih =>
    rw [List.cons_append, splitAt, ih, splitAt]
    split
    · rfl
    · obtain ⟨piece, pieces, split⟩ := List.exists_cons_of_ne_nil (splitAt_ne_nil cut first)
      rw [split]
      rfl

theorem join_cons_cons (mark : Char) (piece next : List Char) (pieces : List (List Char)) :
    join [mark] (piece :: next :: pieces) = piece ++ mark :: join [mark] (next :: pieces) := by
  simp [join]

theorem forall_mem_join {mark : Char} {pieces : List (List Char)} {holds : Char → Prop}
    (ofMark : holds mark) (ofPieces : ∀ piece ∈ pieces, ∀ c ∈ piece, holds c) :
    ∀ c ∈ join [mark] pieces, holds c := by
  induction pieces with
  | nil => exact List.forall_mem_nil _
  | cons piece pieces ih =>
    obtain ⟨first, others⟩ := List.forall_mem_cons.1 ofPieces
    rcases pieces with _ | ⟨next, pieces⟩
    · exact first
    · rw [join_cons_cons, List.forall_mem_append, List.forall_mem_cons]
      exact ⟨first, ofMark, ih others⟩

/-- Splitting undoes joining. -/
theorem splitAt_join {mark : Char} (cuts : cut mark) {pieces : List (List Char)} (some : pieces ≠ [])
    (uncut : ∀ piece ∈ pieces, ∀ c ∈ piece, cut c = false) :
    splitAt cut (join [mark] pieces) = pieces := by
  induction pieces with
  | nil => exact absurd rfl some
  | cons piece pieces ih =>
    obtain ⟨first, others⟩ := List.forall_mem_cons.1 uncut
    rcases pieces with _ | ⟨next, pieces⟩
    · exact splitAt_of_uncut first
    · rw [join_cons_cons, splitAt_append_cons piece cuts, splitAt_of_uncut first, List.singleton_append,
        ih (List.cons_ne_nil _ _) others]

/-- Joining undoes splitting. -/
theorem join_splitAt (mark : Char) (text : List Char) :
    join [mark] (splitAt (· == mark) text) = text := by
  induction text with
  | nil => rfl
  | cons c rest ih =>
    obtain ⟨first, more, whole, -⟩ := splitAt_eq_cons (· == mark) rest
    rw [whole] at ih
    by_cases same : c = mark
    · subst same
      rw [splitAt_cons_of_cut (by simp), whole, join_cons_cons, ih, List.nil_append]
    · rw [splitAt, if_neg (by simpa using same), whole]
      rcases more with _ | ⟨next, more⟩
      · exact congrArg (c :: ·) ih
      · rw [join_cons_cons] at ih ⊢
        exact congrArg (c :: ·) ih

/-- The words of a text are found on either side of white space. -/
theorem words_append_cons (first : List Char) {gap : Char} (blank : isBlank gap)
    (second : List Char) : words (first ++ gap :: second) = words first ++ words second := by
  rw [words, splitAt_append_cons first blank, List.filter_append]
  rfl

theorem words_of_solid {word : List Char} (some : word ≠ []) (solid : ∀ c ∈ word, isBlank c = false) :
    words word = [word] := by
  simp [words, splitAt_of_uncut solid, some]

/-- The words of texts that are written behind each other with blanks between them. -/
theorem words_join (texts : List (List Char)) : words (join [' '] texts) = texts.flatMap words := by
  induction texts with
  | nil => rfl
  | cons text texts ih =>
    rcases texts with _ | ⟨next, texts⟩
    · exact (List.append_nil _).symm
    · rw [join_cons_cons, words_append_cons text (by decide), ih, ← List.flatMap_cons]

theorem solid_of_mem_words {text word : List Char} (member : word ∈ words text) :
    ∀ c ∈ word, isBlank c = false :=
  uncut_of_mem_splitAt (List.mem_filter.1 member).1

/-- Texts are their own words if none of them holds white space, and only then. -/
theorem flatMap_words_eq_self_iff {texts : List (List Char)} (some : ∀ text ∈ texts, text ≠ []) :
    texts.flatMap words = texts ↔ ∀ text ∈ texts, ∀ c ∈ text, isBlank c = false := by
  constructor
  · intro same text member
    rw [← same, List.mem_flatMap] at member
    obtain ⟨_, -, word⟩ := member
    exact solid_of_mem_words word
  · intro solid
    induction texts with
    | nil => rfl
    | cons text texts ih =>
      rw [List.forall_mem_cons] at some solid
      rw [List.flatMap_cons, words_of_solid some.1 solid.1, ih some.2 solid.2, List.singleton_append]

end Splitting

end TitleBar.Text
