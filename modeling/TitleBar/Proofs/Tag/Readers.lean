import TitleBar.Proofs.Predicate.Written
import TitleBar.Resolver

/-! # One identifier for all readers

A template scans a tag character by character, a resolver looks for the identifier that the text of a
tag starts with, and a predicate cuts its tag off the text behind it. All of them find the longest
identifier that stands there. A template wants a letter in front, so it passes over the identifiers that
start with a digit, and over no others.
-/

namespace TitleBar

namespace Tag

/-! ## The longest identifier -/

/-- The longest identifier that a text starts with. -/
structure Longest (name text : List Char) : Prop where
  hyphenated : Hyphenated name
  starts : name <+: text
  longest : ∀ other, Hyphenated other → other <+: text → other <+: name

theorem exists_hyphenated_eq_cons {c : Char} (word : isWord c) (rest : List Char) :
    ∃ more, hyphenated (c :: rest) = c :: more := by
  rcases hyphenated_cases (c :: rest) with none | ⟨behind, found, whole⟩
  · exact absurd none (hyphenated_ne_nil word rest)
  · obtain ⟨d, more, first, -⟩ := found.exists_cons
    rw [first, List.cons_append] at whole
    obtain rfl := (List.cons.inj whole).1
    exact ⟨more, first⟩

/-- What is found in a text goes at least as far as any identifier that the text starts with. -/
theorem Hyphenated.prefix_hyphenated {name : List Char} (hyphenated : Hyphenated name)
    (rest : List Char) : name <+: Tag.hyphenated (name ++ rest) := by
  -- Each way to write an identifier is a step of the search, which does not end before the last one.
  induction hyphenated with
  | @last c word =>
    obtain ⟨more, found⟩ := exists_hyphenated_eq_cons word rest
    exact ⟨more, found.symm⟩
  | @word c behind word more ih =>
    obtain ⟨n, behind, rfl, next⟩ := more.exists_cons
    rw [List.cons_append, List.cons_append, hyphenated_of_word word next]
    exact List.cons_prefix_cons.2 ⟨rfl, ih⟩
  | @hyphen c behind word more ih =>
    have goesOn : Tag.hyphenated (behind ++ rest) ≠ [] := by
      obtain ⟨n, behind, rfl, next⟩ := more.exists_cons
      exact hyphenated_ne_nil next (behind ++ rest)
    rw [List.cons_append, List.cons_append, hyphenated_of_hyphen word, if_neg goesOn]
    exact List.cons_prefix_cons.2 ⟨rfl, List.cons_prefix_cons.2 ⟨rfl, ih⟩⟩

theorem longest_hyphenated {text : List Char} (found : hyphenated text ≠ []) :
    Longest (hyphenated text) text := by
  rcases hyphenated_cases text with none | ⟨rest, named, whole⟩
  · exact absurd none found
  · refine ⟨named, ⟨rest, whole.symm⟩, ?_⟩
    rintro other rival ⟨behind, rfl⟩
    exact rival.prefix_hyphenated behind

/-- A resolver reads the longest identifier, and nothing where there is none. -/
theorem base?_eq_some_iff {text name : String} :
    base? text = some name ↔ Longest name.toList text.toList := by
  constructor
  · intro read
    rw [base?] at read
    split at read
    · contradiction
    · rename_i found
      obtain rfl := Option.some.inj read
      rw [String.toList_ofList]
      exact longest_hyphenated found
  · intro longest
    obtain ⟨behind, whole⟩ := longest.starts
    have reached := longest.hyphenated.prefix_hyphenated behind
    rw [whole] at reached
    have found : hyphenated text.toList ≠ [] := by
      obtain ⟨c, rest, named, -⟩ := longest.hyphenated.exists_cons
      intro none
      rw [none, named, List.prefix_nil] at reached
      contradiction
    -- What is found is itself an identifier in front of the text, so neither goes further.
    obtain ⟨named, starts, -⟩ := longest_hyphenated found
    have same := reached.eq_of_length_le (longest.longest _ named starts).length_le
    rw [base?]
    split
    · contradiction
    · rw [← same, String.ofList_toList]

/-! ## Scanning -/

/-- What a template scans starts with a letter, and is then what a resolver looks for. -/
theorem scan_cases (text : List Char) :
    ((scan text).1 = [] ∧ ∀ c ∈ text.head?, isLetter c = false) ∨
      ((scan text).1 = hyphenated text ∧ ∃ c ∈ (scan text).1.head?, isLetter c) := by
  rcases text with _ | ⟨c, rest⟩
  · left
    simp [scan]
  by_cases letter : isLetter c
  · right
    obtain ⟨name, after, scanned, -, first⟩ := scan_of_letter letter rest
    constructor
    · rw [(hyphenated_of_word_head (isWord_of_isLetter letter) rest).1, scan, if_pos letter]
    · rw [scanned]
      exact ⟨c, first, letter⟩
  · left
    rw [scan, if_neg letter]
    simpa using letter

theorem longest_scan {text : List Char} (found : (scan text).1 ≠ []) :
    Longest (scan text).1 text := by
  rcases scan_cases text with ⟨none, -⟩ | ⟨same, -⟩
  · exact absurd none found
  · rw [same] at found ⊢
    exact longest_hyphenated found

theorem base?_of_scan {text : List Char} (found : (scan text).1 ≠ []) :
    base? (String.ofList text) = some (String.ofList (scan text).1) := by
  rw [base?_eq_some_iff, String.toList_ofList, String.toList_ofList]
  exact longest_scan found

theorem take_scan (text : List Char) : text.take (scan text).1.length = (scan text).1 :=
  (List.prefix_iff_eq_take.1 ⟨_, scan_append text⟩).symm

/-- Where a template scans nothing, a resolver reads nothing either, or an identifier that starts with a
digit. -/
theorem scan_eq_nil_iff {text : List Char} :
    (scan text).1 = [] ↔
      ∀ name ∈ base? (String.ofList text), ∃ c ∈ name.toList.head?, c.isDigit := by
  constructor
  · intro none name read
    rcases scan_cases text with ⟨-, noLetter⟩ | ⟨-, c, first, -⟩
    · have longest := base?_eq_some_iff.1 read
      rw [String.toList_ofList] at longest
      obtain ⟨c, rest, named, word⟩ := longest.hyphenated.exists_cons
      obtain ⟨behind, rfl⟩ := longest.starts
      rw [named] at noLetter ⊢
      rw [isWord_iff, noLetter c rfl] at word
      exact ⟨c, rfl, word.resolve_left Bool.false_ne_true⟩
    · rw [none] at first
      contradiction
  · intro digits
    rcases scan_cases text with ⟨none, -⟩ | ⟨-, c, first, letter⟩
    · exact none
    · by_contra found
      obtain ⟨d, starts, digit⟩ := digits _ (base?_of_scan found)
      rw [String.toList_ofList] at starts
      obtain rfl := Option.some.inj (first.symm.trans starts)
      rw [(not_blank_of_isLetter letter).2] at digit
      contradiction

/-! ## Arguments -/

/-- What may stand behind the identifier of a tag: a list of arguments, or nothing. The first closing
parenthesis ends a list. -/
def ArgumentList (text : List Char) : Prop :=
  text = [] ∨ ∃ list, ')' ∉ list ∧ text = '(' :: (list ++ [')'])

theorem ArgumentList.ends {text : List Char} (listed : ArgumentList text) : Ends text := by
  rcases listed with rfl | ⟨list, -, rfl⟩
  · exact ends_nil
  · exact ends_cons (by decide) _

end Tag

namespace Template

theorem scanTag?_eq_none_iff {text : List Char} :
    scanTag? text = none ↔ (Tag.scan text).1 = [] := by
  rw [scanTag?]
  split
  · rename_i scanned
    simp [scanned]
  · rename_i some scanned
    simpa [scanned] using some

theorem argumentList_scanArguments (text : List Char) :
    Tag.ArgumentList (scanArguments text).1 := by
  rcases scanArguments_cases text with none | ⟨list, -, unclosed, called⟩
  · exact .inl none
  · exact .inr ⟨list, unclosed, called⟩

/-- A resolver finds in a tag the identifier that was scanned for it. -/
theorem base?_of_scanTag? {text tag rest : List Char} (found : scanTag? text = some (tag, rest)) :
    Tag.base? (String.ofList tag) = some (String.ofList (Tag.scan text).1) := by
  have some : (Tag.scan text).1 ≠ [] := by
    rw [Ne, ← scanTag?_eq_none_iff, found]
    exact nofun
  have named := (Tag.longest_scan some).hyphenated
  rw [scanTag?] at found
  split at found
  · contradiction
  · rename_i name after _ scanned
    obtain ⟨rfl, -⟩ := Prod.mk.inj (Option.some.inj found)
    rw [scanned] at named ⊢
    exact Tag.base?_append named (argumentList_scanArguments after).ends

end Template

namespace Predicate

/-- The tag of a predicate is an identifier up to its argument list. -/
theorem Names.span {tag : List Char} (names : Names tag) :
    Tag.Hyphenated (tag.takeWhile (· != '(')) ∧ Tag.ArgumentList (tag.dropWhile (· != '(')) := by
  have unopened {name : List Char} (hyphenated : Tag.Hyphenated name) : '(' ∉ name := by
    intro member
    exact absurd (hyphenated.isWord_or _ member) (by decide)
  cases names with
  | bare hyphenated =>
    have outside : ∀ c ∈ tag, (c != '(') = true := by
      intro c member
      rw [bne_iff_ne]
      rintro rfl
      exact unopened hyphenated member
    rw [List.takeWhile_eq_self_iff.2 outside, List.dropWhile_eq_nil_iff.2 outside]
    exact ⟨hyphenated, .inl rfl⟩
  | @call name list hyphenated unclosed =>
    obtain ⟨front, back⟩ := Text.span_of_not_mem (unopened hyphenated) (list ++ [')'])
    rw [front, back]
    exact ⟨hyphenated, .inr ⟨list, unclosed, rfl⟩⟩

theorem Names.base?_ofList {tag : List Char} (names : Names tag) :
    Tag.base? (String.ofList tag) = some (String.ofList (tag.takeWhile (· != '('))) := by
  obtain ⟨hyphenated, listed⟩ := names.span
  have read := Tag.base?_append hyphenated listed.ends
  rwa [List.takeWhile_append_dropWhile] at read

end Predicate

/-- A resolver reads the longest identifier that a text starts with. A template scans the same one if
it starts with a letter, and none if it does not, so a resolver claims the tag that a template found
anywhere in a text exactly if it lists the identifier scanned there. The tag of a predicate is read up
to its argument list. -/
theorem Tag.readers_agree :
    (∀ text name, base? text = some name ↔ Longest name.toList text.toList) ∧
    (∀ text n, (scan text).1.length = n →
      (0 < n → base? (String.ofList text) = some (String.ofList (text.take n))) ∧
      (n = 0 ↔ ∀ name ∈ base? (String.ofList text), ∃ c ∈ name.toList.head?, c.isDigit)) ∧
    (∀ (text : List Char) (start : ℕ),
      (Template.scanTag? (text.drop start) = none ↔ (scan (text.drop start)).1 = []) ∧
      ∀ tag rest, Template.scanTag? (text.drop start) = some (tag, rest) → ∀ resolver : Resolver,
        resolver.applicable (String.ofList tag) ↔
          String.ofList (scan (text.drop start)).1 ∈ resolver.tags) ∧
    ∀ text predicate, Predicate.ofString? text = .ok predicate →
      base? predicate.tag = some (String.ofList (predicate.tag.toList.takeWhile (· != '('))) ∧
      ArgumentList (predicate.tag.toList.dropWhile (· != '(')) := by
  refine ⟨fun text name => base?_eq_some_iff, ?_, ?_, ?_⟩
  · rintro text n rfl
    rw [take_scan, List.length_pos_iff, List.length_eq_zero_iff]
    exact ⟨base?_of_scan, scan_eq_nil_iff⟩
  · intro text start
    refine ⟨Template.scanTag?_eq_none_iff, fun tag rest found resolver => ?_⟩
    exact Resolver.applicable_iff (Template.base?_of_scanTag? found)
  · intro text predicate read
    have names := (Predicate.readable_of_ofString? read).names
    have found := names.base?_ofList
    rw [String.ofList_toList] at found
    exact ⟨found, names.span.2⟩

/-- An identifier ends before a doubled hyphen and before a list of arguments, whatever that holds. -/
theorem Tag.readers_agree_call :
    (scan "p4--view".toList).1.length = 2 ∧ base? "p4--view" = some "p4" ∧
      Template.scanTag? ("$p4-view(1, 2)-x".toList.drop 1) =
        some ("p4-view(1, 2)".toList, ['-', 'x']) ∧
      (∀ resolver : Resolver, resolver.applicable "p4-view(1, 2)" ↔ "p4-view" ∈ resolver.tags) ∧
      Predicate.ofString? " 7-zip(a(b)=~x" = .ok ⟨"7-zip(a(b)", ⟨"x"⟩⟩ ∧
      base? "7-zip(a(b)" = some "7-zip" := by
  obtain ⟨-, scanned, claimed, written⟩ := readers_agree
  have length : (scan "p4--view".toList).1.length = 2 := by decide
  have found : Template.scanTag? ("$p4-view(1, 2)-x".toList.drop 1) =
      some ("p4-view(1, 2)".toList, ['-', 'x']) := by decide
  have read : Predicate.ofString? " 7-zip(a(b)=~x" = .ok ⟨"7-zip(a(b)", ⟨"x"⟩⟩ := by decide +kernel
  exact ⟨length, (scanned _ 2 length).1 (by decide), found, (claimed _ 1).2 _ _ found, read,
    (written _ _ read).1⟩

end TitleBar
