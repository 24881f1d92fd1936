import TitleBar.Predicate
import TitleBar.Proofs.Tag.Identifier
import TitleBar.Proofs.Text.Pieces

/-! # Predicates as they are written

A predicate is written as a tag, or as a tag and a pattern with `=~` between them. The reader takes
exactly the texts of this grammar, and it reads every predicate that it ever made back from the form in
which it is shown; so it does with lists of them, and with predicates between semicolons.
-/

namespace TitleBar.Predicate

open Text

/-- The tag of a predicate: an identifier, perhaps with something in parentheses right behind it. The
first closing parenthesis ends it. -/
inductive Names : List Char → Prop
  | bare {name : List Char} (hyphenated : Tag.Hyphenated name) : Names name
  | call {name list : List Char} (hyphenated : Tag.Hyphenated name) (unclosed : ')' ∉ list) :
    Names (name ++ '(' :: (list ++ [')']))

/-- A text without white space around it, with the tag and the pattern that are written in it. -/
inductive Written : List Char → List Char → List Char → Prop
  | presence {tag : List Char} (names : Names tag) : Written tag tag []
  | matching {tag before after pattern : List Char} (names : Names tag)
    (front : ∀ c ∈ before, isBlank c) (back : ∀ c ∈ after, isBlank c) (line : '\n' ∉ pattern) :
    Written (tag ++ (before ++ '=' :: '~' :: (after ++ pattern))) tag (trim pattern)

/-! ## Tags -/

/-- Whether a tag cannot go on with a text. -/
def Stops (rest : List Char) : Prop := Tag.Ends rest ∧ rest.head? ≠ some '('

theorem stops_cons {c : Char} (solid : Tag.isWord c = false ∧ c ≠ '-' ∧ c ≠ '(') (rest : List Char) :
    Stops (c :: rest) :=
  ⟨Tag.ends_cons ⟨solid.1, solid.2.1⟩ rest, fun same => solid.2.2 (Option.some.inj same)⟩

theorem stops_of_isBlank {c : Char} (blank : isBlank c) (rest : List Char) : Stops (c :: rest) := by
  apply stops_cons
  refine ⟨?_, ?_, ?_⟩
  · by_contra word
    have solid := (Tag.solid_of_isWord_or (.inl (by simpa using word))).1
    simp [solid] at blank
  · rintro rfl
    contradiction
  · rintro rfl
    contradiction

/-- Nothing of what may follow a tag continues it. -/
theorem stops_matching {before : List Char} (front : ∀ c ∈ before, isBlank c) (rest : List Char) :
    Stops (before ++ '=' :: rest) := by
  rcases before with _ | ⟨c, before⟩
  · exact stops_cons (by decide) rest
  · exact stops_of_isBlank (front c List.mem_cons_self) _

/-- A tag is split off a text that does not go on with it. -/
theorem splitTag?_of_names {tag rest : List Char} (names : Names tag) (stops : Stops rest) :
    splitTag? (tag ++ rest) = some (tag, rest) := by
  cases names with
  | bare hyphenated =>
    have found := Tag.hyphenated_append hyphenated stops.1
    obtain ⟨c, behind, rfl, -⟩ := hyphenated.exists_cons
    rw [splitTag?, found]
    simp only [List.drop_left]
    split
    · exact absurd rfl stops.2
    · rfl
  | @call name list hyphenated unclosed =>
    obtain ⟨listed, behind⟩ := span_of_not_mem unclosed rest
    have whole : name ++ '(' :: (list ++ [')']) ++ rest = name ++ '(' :: (list ++ ')' :: rest) := by
      simp
    have found : Tag.hyphenated (name ++ '(' :: (list ++ ')' :: rest)) = name :=
      Tag.hyphenated_append hyphenated (Tag.ends_cons (by decide) _)
    obtain ⟨c, front, rfl, -⟩ := hyphenated.exists_cons
    rw [whole, splitTag?, found]
    simp [behind, listed]

/-- What is split off a text is a tag. -/
theorem splitTag?_eq_some {text tag rest : List Char} (found : splitTag? text = some (tag, rest)) :
    Names tag ∧ text = tag ++ rest := by
  rcases Tag.hyphenated_cases text with none | ⟨behind, hyphenated, whole⟩
  · rw [splitTag?, none] at found
    simp at found
  · rw [splitTag?] at found
    generalize Tag.hyphenated text = name at found hyphenated whole
    subst whole
    obtain ⟨c, front, rfl, -⟩ := hyphenated.exists_cons
    simp only [List.drop_left] at found
    split at found
    · rename_i inside
      have listed := List.takeWhile_append_dropWhile (p := (· != ')')) (l := inside)
      split at found
      · rename_i after closed
        obtain ⟨rfl, rfl⟩ := Prod.mk.inj (Option.some.inj found)
        rw [closed] at listed
        constructor
        · have unclosed : ')' ∉ inside.takeWhile (· != ')') := by
            intro member
            have := List.mem_takeWhile_imp member
            simp at this
          simpa using Names.call hyphenated unclosed
        · simpa using listed.symm
      · obtain ⟨rfl, rfl⟩ := Prod.mk.inj (Option.some.inj found)
        exact ⟨.bare hyphenated, rfl⟩
    · obtain ⟨rfl, rfl⟩ := Prod.mk.inj (Option.some.inj found)
      exact ⟨.bare hyphenated, rfl⟩

/-- There is no white space at either end of a tag. -/
theorem Names.trimmed {tag : List Char} (names : Names tag) : Trimmed tag := by
  cases names with
  | bare hyphenated =>
    apply trimmed_of_solid
    intro c member
    exact (Tag.solid_of_isWord_or (hyphenated.isWord_or c member)).1
  | @call name list hyphenated =>
    obtain ⟨c, rest, rfl, word⟩ := hyphenated.exists_cons
    constructor
    · intro d first
      obtain rfl := Option.some.inj first
      exact (Tag.solid_of_isWord_or (.inl word)).1
    · intro d last
      have whole : c :: rest ++ '(' :: (list ++ [')']) = (c :: rest ++ '(' :: list) ++ [')'] := by simp
      rw [whole, List.getLast?_concat] at last
      obtain rfl := Option.some.inj last
      decide

/-! ## Reading and writing -/

theorem parts?_of_written {text tag pattern : List Char} (written : Written text tag pattern) :
    parts? text = some (tag, pattern) := by
  cases written with
  | presence names =>
    have split : splitTag? (text ++ []) = some (text, []) :=
      splitTag?_of_names names ⟨Tag.ends_nil, by simp⟩
    rw [List.append_nil] at split
    rw [parts?, split]
    rfl
  | @matching _ before after pattern names front back line =>
    have solid : isBlank '=' = false := by decide
    have free : '\n' ∉ trimStart pattern := fun member => line ((List.dropWhile_sublist _).mem member)
    rw [parts?, splitTag?_of_names names (stops_matching front _)]
    simp only [trimStart_of_blank front, trimStart_of_solid solid, trimStart_of_blank back]
    simp [free, trim]

theorem written_of_parts? {text tag pattern : List Char} (trimmed : Trimmed text)
    (found : parts? text = some (tag, pattern)) : Written text tag pattern := by
  rw [parts?] at found
  split at found
  · contradiction
  · rename_i name rest split
    obtain ⟨names, rfl⟩ := splitTag?_eq_some split
    obtain ⟨before, front, whole⟩ := exists_blank_append_trimStart rest
    split at found
    · rename_i none
      obtain ⟨rfl, rfl⟩ := Prod.mk.inj (Option.some.inj found)
      rw [none, List.append_nil] at whole
      subst whole
      rw [trimmed.eq_nil_of_blank front, List.append_nil]
      exact .presence names
    · rename_i behind marked
      simp only at found
      split at found
      · contradiction
      · rename_i line
        obtain ⟨rfl, rfl⟩ := Prod.mk.inj (Option.some.inj found)
        obtain ⟨after, back, gap⟩ := exists_blank_append_trimStart behind
        have free : '\n' ∉ trimStart behind := by simpa using line
        have pattern : trimEnd (trimStart behind) = trim (trimStart behind) := by
          rw [trim, trimStart_trimStart]
        rw [whole, marked, pattern]
        nth_rewrite 1 [gap]
        exact .matching names front back free
    · contradiction

/-- The texts of the grammar are read, with the tag and the pattern that are written in them. -/
theorem ofString?_eq_ok_iff {text : String} {predicate : Predicate} :
    ofString? text = .ok predicate ↔
      Written (trim text.toList) predicate.tag.toList predicate.pattern.toList := by
  rw [ofString?, pattern]
  constructor
  · intro read
    split at read
    · rename_i tag glob found
      obtain rfl := Except.ok.inj read
      simpa using written_of_parts? (trimmed_trim _) found
    · contradiction
  · intro written
    rw [parts?_of_written written]
    simp

/-- A text has one tag and one pattern. -/
theorem Written.unique {text tag pattern tag' pattern' : List Char} (written : Written text tag pattern)
    (other : Written text tag' pattern') : tag = tag' ∧ pattern = pattern' := by
  have same := (parts?_of_written written).symm.trans (parts?_of_written other)
  exact Prod.mk.inj (Option.some.inj same)

theorem Written.parts {text tag pattern : List Char} (written : Written text tag pattern) :
    Names tag ∧ Trimmed pattern ∧ '\n' ∉ pattern := by
  cases written with
  | presence names => exact ⟨names, trimmed_nil, by simp⟩
  | matching names _ _ line =>
    exact ⟨names, trimmed_trim _, fun member => line (mem_of_mem_trim member)⟩

/-- Whether a predicate can be written down. -/
structure Readable (predicate : Predicate) : Prop where
  names : Names predicate.tag.toList
  trimmed : Trimmed predicate.pattern.toList
  line : '\n' ∉ predicate.pattern.toList

theorem readable_of_ofString? {text : String} {predicate : Predicate}
    (read : ofString? text = .ok predicate) : Readable predicate := by
  obtain ⟨names, trimmed, line⟩ := (ofString?_eq_ok_iff.1 read).parts
  exact ⟨names, trimmed, line⟩

theorem Names.ne_nil {tag : List Char} (names : Names tag) : tag ≠ [] := by
  cases names with
  | bare hyphenated =>
    obtain ⟨c, rest, rfl, -⟩ := hyphenated.exists_cons
    simp
  | call => simp

section Showing

variable {predicate : Predicate} (readable : Readable predicate)

include readable

/-- A readable predicate is shown as a text of the grammar. -/
theorem Readable.written :
    Trimmed predicate.toString.toList ∧
      Written predicate.toString.toList predicate.tag.toList predicate.pattern.toList := by
  obtain ⟨names, trimmed, line⟩ := readable
  by_cases bare : predicate.pattern.toList = []
  · have shown : predicate.toString = predicate.tag := by
      rw [Predicate.toString, Glob.isEmpty]
      simp_all [pattern]
    rw [shown, bare]
    exact ⟨names.trimmed, .presence names⟩
  · have shown : predicate.toString.toList =
        predicate.tag.toList ++ ([' '] ++ '=' :: '~' :: ([' '] ++ predicate.pattern.toList)) := by
      rw [Predicate.toString, Glob.isEmpty]
      simp_all [pattern]
    have gap : ∀ c ∈ [' '], isBlank c := List.forall_mem_singleton.2 (by decide)
    have written := Written.matching names gap gap line
    rw [trimmed.trim, ← shown] at written
    refine ⟨?_, written⟩
    rw [shown]
    exact names.trimmed.append names.ne_nil trimmed bare [' ', '=', '~', ' ']

/-- A readable predicate is read back from the form in which it is shown. -/
theorem Readable.ofString?_toString : ofString? predicate.toString = .ok predicate := by
  obtain ⟨trimmed, written⟩ := readable.written
  rw [ofString?_eq_ok_iff, trimmed.trim]
  exact written

theorem Readable.toString_ne_nil : predicate.toString.toList ≠ [] := by
  intro none
  have written := readable.written.2
  rw [none] at written
  have found := parts?_of_written written
  simp [parts?, splitTag?, Tag.hyphenated_nil] at found

end Showing

/-! ## Lists -/

theorem listOf?_of_blank {text : List Char} (blank : trim text = []) (texts : List String) :
    listOf? (String.ofList text :: texts) = listOf? texts := by
  simp [listOf?, blank]

theorem listOf?_of_readable {text : List Char} {predicate : Predicate} (readable : Readable predicate)
    (shown : trim text = predicate.toString.toList) {texts : List String} {rest : List Predicate}
    (read : listOf? texts = .ok rest) :
    listOf? (String.ofList text :: texts) = .ok (predicate :: rest) := by
  have some : (!(trim text).isEmpty) = true := by
    simpa [shown] using readable.toString_ne_nil
  rw [listOf?] at read ⊢
  rw [List.map_cons, String.toList_ofList, List.filter_cons, if_pos some, List.mapM_cons, shown,
    String.ofList_toList, readable.ofString?_toString, read]
  rfl

/-- Predicates in the parts of a text: a part shows one of them, perhaps with white space around it, or
holds nothing but white space. -/
inductive Spread : List Predicate → List (List Char) → Prop
  | nil : Spread [] []
  | blank {predicates : List Predicate} {part : List Char} {parts : List (List Char)}
    (blank : ∀ c ∈ part, isBlank c) (rest : Spread predicates parts) : Spread predicates (part :: parts)
  | shown {predicate : Predicate} {predicates : List Predicate} {before after : List Char}
    {parts : List (List Char)} (front : ∀ c ∈ before, isBlank c) (back : ∀ c ∈ after, isBlank c)
    (rest : Spread predicates parts) :
    Spread (predicate :: predicates) ((before ++ predicate.toString.toList ++ after) :: parts)

theorem listOf?_of_spread {predicates : List Predicate} {parts : List (List Char)}
    (spread : Spread predicates parts) (readable : ∀ predicate ∈ predicates, Readable predicate) :
    listOf? (parts.map String.ofList) = .ok predicates := by
  induction spread with
  | nil => rfl
  | blank blank _ ih =>
    have none := trim_around blank (List.forall_mem_nil _) []
    rw [List.append_nil, List.append_nil] at none
    rw [List.map_cons, listOf?_of_blank none]
    exact ih readable
  | shown front back _ ih =>
    obtain ⟨first, others⟩ := List.forall_mem_cons.1 readable
    rw [List.map_cons]
    apply listOf?_of_readable first
    · rw [trim_around front back, first.written.1.trim]
    · exact ih others

/-- No part holds a semicolon if no predicate does. -/
theorem Spread.uncut {predicates : List Predicate} {parts : List (List Char)}
    (spread : Spread predicates parts)
    (free : ∀ predicate ∈ predicates, ';' ∉ predicate.toString.toList) :
    ∀ part ∈ parts, ∀ c ∈ part, (c == ';') = false := by
  have solid {text : List Char} (blank : ∀ c ∈ text, isBlank c) : ';' ∉ text := by
    intro member
    exact absurd (blank _ member) (by decide)
  induction spread with
  | nil => simp
  | blank blank _ ih => exact List.forall_mem_cons.2 ⟨uncut_of_not_mem (solid blank), ih free⟩
  | shown front back _ ih =>
    obtain ⟨first, others⟩ := List.forall_mem_cons.1 free
    refine List.forall_mem_cons.2 ⟨uncut_of_not_mem ?_, ih others⟩
    simp only [List.mem_append, not_or]
    exact ⟨⟨solid front, first⟩, solid back⟩

theorem joinedOf?_of_spread {predicates : List Predicate} {parts : List (List Char)}
    (spread : Spread predicates parts) (readable : ∀ predicate ∈ predicates, Readable predicate)
    (free : ∀ predicate ∈ predicates, ';' ∉ predicate.toString.toList) :
    joinedOf? (String.ofList (join [';'] parts)) = .ok predicates := by
  rw [joinedOf?, String.toList_ofList]
  by_cases none : parts = []
  · subst none
    cases spread
    rfl
  · rw [splitAt_join (by decide) none (spread.uncut free)]
    exact listOf?_of_spread spread readable

theorem spread_map (predicates : List Predicate) :
    Spread predicates (predicates.map fun predicate => predicate.toString.toList) := by
  induction predicates with
  | nil => exact .nil
  | cons predicate predicates ih =>
    have spread : Spread (predicate :: predicates) (([] ++ predicate.toString.toList ++ []) :: _) :=
      .shown (List.forall_mem_nil _) (List.forall_mem_nil _) ih
    simpa using spread

theorem listOf?_map_toString {predicates : List Predicate}
    (readable : ∀ predicate ∈ predicates, Readable predicate) :
    listOf? (predicates.map Predicate.toString) = .ok predicates := by
  have read := listOf?_of_spread (spread_map predicates) readable
  rw [List.map_map] at read
  simpa [Function.comp_def] using read

/-- The reader takes exactly the texts of the grammar, each of which has one tag and one pattern. What it
reads it reads again from the form in which it is shown, alone, in a list, and between semicolons with
white space around it and blank parts in between, where none of the forms holds a semicolon itself. -/
theorem read_iff_written :
    (∀ text predicate, ofString? text = .ok predicate ↔
      Written (trim text.toList) predicate.tag.toList predicate.pattern.toList) ∧
    (∀ text, (∃ predicate, ofString? text = .ok predicate) ↔
      ∃! parts : List Char × List Char, Written (trim text.toList) parts.1 parts.2) ∧
    (∀ text predicate, ofString? text = .ok predicate →
      ofString? predicate.toString = .ok predicate) ∧
    ∀ predicates, (∀ predicate ∈ predicates, ∃ text, ofString? text = .ok predicate) →
      listOf? (predicates.map Predicate.toString) = .ok predicates ∧
      ((∀ predicate ∈ predicates, ';' ∉ predicate.toString.toList) →
        ∀ parts, Spread predicates parts →
          joinedOf? (String.ofList (join [';'] parts)) = .ok predicates) := by
  refine ⟨?_, ?_, ?_, ?_⟩
  · intro text predicate
    exact ofString?_eq_ok_iff
  · intro text
    constructor
    · rintro ⟨predicate, read⟩
      have written := ofString?_eq_ok_iff.1 read
      refine ⟨⟨_, _⟩, written, ?_⟩
      rintro ⟨tag, pattern⟩ other
      obtain ⟨rfl, rfl⟩ := Written.unique other written
      rfl
    · rintro ⟨⟨tag, pattern⟩, written, -⟩
      refine ⟨⟨String.ofList tag, ⟨String.ofList pattern⟩⟩, ofString?_eq_ok_iff.2 ?_⟩
      simpa [Predicate.pattern] using written
  · intro text predicate read
    exact (readable_of_ofString? read).ofString?_toString
  · intro predicates read
    have readable : ∀ predicate ∈ predicates, Readable predicate := by
      intro predicate member
      obtain ⟨text, read⟩ := read predicate member
      exact readable_of_ofString? read
    constructor
    · exact listOf?_map_toString readable
    · intro free parts spread
      exact joinedOf?_of_spread spread readable free

/-- Arguments may hold what separates a pattern, and a newline, and a pattern may hold blanks. -/
theorem read_iff_written_call :
    let call : Predicate := ⟨"a(=~\n)", ⟨"x y"⟩⟩
    let bare : Predicate := ⟨"p4-view", ⟨""⟩⟩
    ofString? " a(=~\n)\t=~\n x y" = .ok call ∧ ofString? "p4-view" = .ok bare ∧
      ofString? call.toString = .ok call ∧ listOf? ["a(=~\n) =~ x y", "p4-view"] = .ok [call, bare] ∧
      joinedOf? "\t;a(=~\n) =~ x y ;;p4-view" = .ok [call, bare] := by
  intro call bare
  have readCall : ofString? " a(=~\n)\t=~\n x y" = .ok call := by decide +kernel
  have readBare : ofString? "p4-view" = .ok bare := by decide +kernel
  obtain ⟨-, -, again, lists⟩ := read_iff_written
  have read : ∀ predicate ∈ [call, bare], ∃ text, ofString? text = .ok predicate := by
    intro predicate member
    rcases List.mem_cons.1 member with rfl | member
    · exact ⟨_, readCall⟩
    · exact ⟨_, List.mem_singleton.1 member ▸ readBare⟩
  have none : ∀ c ∈ [], isBlank c := List.forall_mem_nil _
  have gap : ∀ c ∈ [' '], isBlank c := List.forall_mem_singleton.2 (by decide)
  have tab : ∀ c ∈ ['\t'], isBlank c := List.forall_mem_singleton.2 (by decide)
  have last : Spread [bare] [[] ++ bare.toString.toList ++ []] := .shown none none .nil
  have spread : Spread [call, bare]
      [['\t'], [] ++ call.toString.toList ++ [' '], [], [] ++ bare.toString.toList ++ []] :=
    .blank tab (.shown none gap (.blank none last))
  have shown : [call, bare].map Predicate.toString = ["a(=~\n) =~ x y", "p4-view"] := by
    decide +kernel
  have text : String.ofList (join [';']
      [['\t'], [] ++ call.toString.toList ++ [' '], [], [] ++ bare.toString.toList ++ []]) =
        "\t;a(=~\n) =~ x y ;;p4-view" := by decide +kernel
  have free : ∀ predicate ∈ [call, bare], ';' ∉ predicate.toString.toList := by decide +kernel
  obtain ⟨listed, joined⟩ := lists [call, bare] read
  rw [shown] at listed
  have together := joined free _ spread
  rw [text] at together
  exact ⟨readCall, readBare, again _ _ readCall, listed, together⟩

end TitleBar.Predicate
