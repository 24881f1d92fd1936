import TitleBar.Proofs.Template.Token

/-! # Identifiers

The identifier at the front of a text is found in two ways: run by run, with a hyphen between two runs,
and character by character, with a look at what follows a hyphen. Behind a word character both find the
same, and it is an identifier.
-/

namespace TitleBar

namespace Tag

theorem hyphenated_nil : hyphenated [] = [] := by
  rw [hyphenated.eq_def, List.takeWhile_nil]

theorem hyphenated_of_no_word {c : Char} (other : isWord c = false) (rest : List Char) :
    hyphenated (c :: rest) = [] := by
  rw [hyphenated.eq_def, List.takeWhile_cons_of_neg (by simp [other])]

theorem hyphenated_of_ends {c : Char} (word : isWord c) {rest : List Char} (ends : Ends rest) :
    hyphenated (c :: rest) = [c] := by
  rw [hyphenated.eq_def, List.takeWhile_cons_of_pos word, List.dropWhile_cons_of_pos word]
  rcases rest with _ | ⟨d, rest⟩
  · rfl
  · obtain ⟨noWord, noHyphen⟩ := ends d rfl
    rw [List.takeWhile_cons_of_neg (by simp [noWord]), List.dropWhile_cons_of_neg (by simp [noWord])]
    simp [noHyphen]

theorem hyphenated_of_word {c n : Char} (word : isWord c) (next : isWord n) (rest : List Char) :
    hyphenated (c :: n :: rest) = c :: hyphenated (n :: rest) := by
  rw [hyphenated.eq_def, hyphenated.eq_def (n :: rest), List.takeWhile_cons_of_pos word,
    List.takeWhile_cons_of_pos next, List.dropWhile_cons_of_pos word, List.dropWhile_cons_of_pos next]
  generalize _h : List.dropWhile isWord rest = behind
  rcases behind with _ | ⟨d, behind⟩
  · rfl
  · by_cases hyphen : d = '-'
    · subst hyphen
      simp only
      cases hyphenated behind <;> rfl
    · simp [hyphen]

/-- A hyphen belongs to an identifier if another one follows it. -/
theorem hyphenated_of_hyphen {c : Char} (word : isWord c) (rest : List Char) :
    hyphenated (c :: '-' :: rest) =
      if hyphenated rest = [] then [c] else c :: '-' :: hyphenated rest := by
  have noWord : isWord '-' = false := by decide
  rw [hyphenated.eq_def, List.takeWhile_cons_of_pos word, List.takeWhile_cons_of_neg (by simp [noWord]),
    List.dropWhile_cons_of_pos word, List.dropWhile_cons_of_neg (by simp [noWord])]
  cases more : hyphenated rest <;> simp [more]

/-- A hyphen without an identifier behind it ends the one in front of it. -/
theorem scanTail_of_last_hyphen {rest : List Char} (stops : ∀ c ∈ rest.head?, isWord c = false) :
    scanTail ('-' :: rest) = ([], '-' :: rest) := by
  have noWord : isWord '-' = false := by decide
  rcases rest with _ | ⟨m, rest⟩
  · rfl
  · have other := stops m rfl
    rw [scanTail.eq_def]
    simp [noWord, other]

/-- Both ways to find an identifier agree behind a word character, and what they find is one. -/
theorem hyphenated_of_word_head {c : Char} (word : isWord c) (rest : List Char) :
    hyphenated (c :: rest) = (scanTail (c :: rest)).1 ∧ Hyphenated (hyphenated (c :: rest)) := by
  induction length : rest.length using Nat.strongRecOn generalizing c rest with
  | ind _ ih =>
    subst length
    rcases rest with _ | ⟨n, rest⟩
    · rw [hyphenated_of_ends word ends_nil, scanTail_of_word word (scanTail_of_ends ends_nil)]
      exact ⟨rfl, .last word⟩
    by_cases next : isWord n
    · obtain ⟨same, more⟩ := ih _ (Nat.lt_succ_self _) next rest rfl
      rw [hyphenated_of_word word next, scanTail_of_word word rfl, same]
      exact ⟨rfl, .word word (same ▸ more)⟩
    by_cases hyphen : n = '-'
    · subst hyphen
      rw [hyphenated_of_hyphen word, scanTail_of_word word rfl]
      by_cases inner : ∃ m ∈ rest.head?, isWord m
      · obtain ⟨m, first, wordNext⟩ := inner
        obtain ⟨rest, rfl⟩ := List.head?_eq_some_iff.1 first
        have shorter : rest.length < ('-' :: m :: rest).length := by
          simp only [List.length_cons]
          omega
        obtain ⟨same, more⟩ := ih _ shorter wordNext rest rfl
        rw [if_neg (hyphenated_ne_nil wordNext rest), scanTail_of_hyphen wordNext rfl, same]
        exact ⟨rfl, .hyphen word (same ▸ more)⟩
      · have stops : ∀ m ∈ rest.head?, isWord m = false := by simpa using inner
        have none : hyphenated rest = [] := by
          rcases rest with _ | ⟨m, rest⟩
          · exact hyphenated_nil
          · exact hyphenated_of_no_word (stops m rfl) rest
        rw [if_pos none, scanTail_of_last_hyphen stops]
        exact ⟨rfl, .last word⟩
    · have ends : Ends (n :: rest) := ends_cons ⟨by simpa using next, hyphen⟩ rest
      rw [hyphenated_of_ends word ends, scanTail_of_word word (scanTail_of_ends ends)]
      exact ⟨rfl, .last word⟩

/-- An identifier is found up to its end. -/
theorem hyphenated_append {name rest : List Char} (hyphenated : Hyphenated name) (ends : Ends rest) :
    Tag.hyphenated (name ++ rest) = name := by
  have scanned := scanTail_of_hyphenated hyphenated ends
  obtain ⟨c, behind, rfl, word⟩ := hyphenated.exists_cons
  rw [List.cons_append] at scanned ⊢
  rw [(hyphenated_of_word_head word _).1, scanned]

/-- What is found at the front of a text is an identifier. -/
theorem hyphenated_cases (text : List Char) :
    Tag.hyphenated text = [] ∨
      ∃ rest, Hyphenated (Tag.hyphenated text) ∧ text = Tag.hyphenated text ++ rest := by
  rcases text with _ | ⟨c, rest⟩
  · left
    exact hyphenated_nil
  by_cases word : isWord c
  · right
    obtain ⟨same, found⟩ := hyphenated_of_word_head word rest
    refine ⟨(scanTail (c :: rest)).2, found, ?_⟩
    rw [same, scanTail_append]
  · left
    exact hyphenated_of_no_word (by simpa using word) rest

theorem hyphenated_eq_nil_iff {text : List Char} :
    hyphenated text = [] ↔ ∀ c ∈ text.head?, isWord c = false := by
  rcases text with _ | ⟨c, rest⟩
  · simp [hyphenated_nil]
  · by_cases word : isWord c
    · simp [hyphenated_ne_nil word rest, word]
    · have other : isWord c = false := by simpa using word
      simp [hyphenated_of_no_word other rest, other]

theorem isWord_iff {c : Char} : isWord c ↔ isLetter c ∨ c.isDigit := by
  rw [isWord, Bool.or_eq_true]
  rfl

theorem isWord_of_isLetter {c : Char} (letter : isLetter c) : isWord c := isWord_iff.2 (.inl letter)

/-- What a template reads behind a letter is an identifier. -/
theorem scan_of_letter {c : Char} (letter : isLetter c) (rest : List Char) :
    ∃ name after, scan (c :: rest) = (name, after) ∧ Hyphenated name ∧ name.head? = some c := by
  obtain ⟨same, named⟩ := hyphenated_of_word_head (isWord_of_isLetter letter) rest
  rw [same] at named
  refine ⟨_, _, by rw [scan, if_pos letter], named, ?_⟩
  have whole := scanTail_append (c :: rest)
  obtain ⟨d, behind, found, -⟩ := named.exists_cons
  rw [found, List.cons_append] at whole
  rw [found, (List.cons.inj whole).1]
  rfl

/-- An identifier in front of a tag's text is read up to its end. -/
theorem base?_append {name rest : List Char} (hyphenated : Hyphenated name) (ends : Ends rest) :
    base? (String.ofList (name ++ rest)) = some (String.ofList name) := by
  obtain ⟨c, behind, named, -⟩ := hyphenated.exists_cons
  rw [base?, String.toList_ofList, hyphenated_append hyphenated ends, named]

/-- The identifier of a tag is found in its text. -/
theorem Token.base?_text (token : Token) :
    base? (String.ofList token.text) = some (String.ofList token.name) := by
  rw [Token.text]
  split
  · have read := base?_append token.hyphenated ends_nil
    rwa [List.append_nil] at read
  · exact base?_append token.hyphenated (ends_cons (by decide) _)

end Tag

namespace Template

/-- A list of arguments is read up to the first parenthesis, which has to close it. -/
theorem scanArguments_cases (text : List Char) :
    (scanArguments text).1 = [] ∨
      ∃ list, '(' ∉ list ∧ ')' ∉ list ∧ (scanArguments text).1 = '(' :: (list ++ [')']) := by
  unfold scanArguments
  split
  · rename_i rest
    split
    · right
      refine ⟨_, ?_, ?_, rfl⟩
      · intro member
        simpa using List.mem_takeWhile_imp member
      · intro member
        simpa using List.mem_takeWhile_imp member
    · exact .inl rfl
  · exact .inl rfl

/-- What is read as a tag is written like one. -/
theorem exists_token_of_scanTag? {text tag rest : List Char}
    (found : scanTag? text = some (tag, rest)) : ∃ token : Tag.Token, token.text = tag := by
  rcases text with _ | ⟨c, text⟩
  · contradiction
  by_cases letter : Tag.isLetter c
  · obtain ⟨name, after, scanned, named, first⟩ := Tag.scan_of_letter letter text
    obtain ⟨d, behind, rfl, -⟩ := named.exists_cons
    rw [scanTag?, scanned] at found
    obtain ⟨same, -⟩ := Prod.mk.inj (Option.some.inj found)
    replace same : d :: behind ++ (scanArguments after).1 = tag := same
    rcases scanArguments_cases after with bare | ⟨list, noOpening, noClosing, arguments⟩
    · have flat : ∀ inside ∈ (none : Option (List Char)), '(' ∉ inside ∧ ')' ∉ inside := by
        intro _ member
        cases member
      refine ⟨⟨d :: behind, none, named, ⟨c, first, letter⟩, flat⟩, ?_⟩
      rw [← same, bare, List.append_nil]
      rfl
    · have flat : ∀ inside ∈ some list, '(' ∉ inside ∧ ')' ∉ inside := by
        rintro _ ⟨⟩
        exact ⟨noOpening, noClosing⟩
      refine ⟨⟨d :: behind, some list, named, ⟨c, first, letter⟩, flat⟩, ?_⟩
      rw [← same, arguments]
      rfl
  · rw [scanTag?, Tag.scan, if_neg letter] at found
    contradiction

end Template

end TitleBar
