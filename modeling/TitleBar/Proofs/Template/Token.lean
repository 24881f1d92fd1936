import TitleBar.Proofs.Template.Lookahead

/-! # Tags as they are written

A tag is written as an identifier, perhaps with a list of arguments in parentheses. Wherever a template
expects a tag it reads exactly this, if nothing follows that would continue the identifier.
-/

namespace TitleBar

open Text

namespace Tag

/-- Runs of word characters with single hyphens between them. -/
inductive Hyphenated : List Char → Prop
  | last {c : Char} (word : isWord c) : Hyphenated [c]
  | word {c : Char} {rest : List Char} (word : isWord c) (more : Hyphenated rest) :
    Hyphenated (c :: rest)
  | hyphen {c : Char} {rest : List Char} (word : isWord c) (more : Hyphenated rest) :
    Hyphenated (c :: '-' :: rest)

/-- A tag as it is written in a template. -/
structure Token where
  /-- The identifier. -/
  name : List Char
  /-- What stands in the parentheses, if there are any. -/
  arguments : Option (List Char)
  hyphenated : Hyphenated name
  letter : ∃ c ∈ name.head?, isLetter c
  /-- Parentheses are not nested. -/
  flat : ∀ list ∈ arguments, '(' ∉ list ∧ ')' ∉ list

/-- The text of a tag. -/
def Token.text (token : Token) : List Char :=
  match token.arguments with
  | none => token.name
  | some list => token.name ++ '(' :: (list ++ [')'])

/-- Whether an identifier ends in front of a text. -/
def Ends (rest : List Char) : Prop := ∀ c ∈ rest.head?, isWord c = false ∧ c ≠ '-'

/-- Whether nothing in front of a text continues a tag. A list of arguments ends by itself. -/
def Token.EndsBefore (token : Token) (rest : List Char) : Prop :=
  token.arguments = none → Ends rest ∧ rest.head? ≠ some '('

theorem ends_nil : Ends [] := by
  intro c member
  simp at member

theorem ends_cons {c : Char} (stops : isWord c = false ∧ c ≠ '-') (rest : List Char) :
    Ends (c :: rest) := by
  intro _ same
  rwa [← Option.some.inj same]

theorem Token.endsBefore_cons (token : Token) {c : Char}
    (stops : isWord c = false ∧ c ≠ '-' ∧ c ≠ '(') (rest : List Char) :
    token.EndsBefore (c :: rest) :=
  fun _ => ⟨ends_cons ⟨stops.1, stops.2.1⟩ rest, fun same => stops.2.2 (Option.some.inj same)⟩

theorem Hyphenated.exists_cons {name : List Char} (hyphenated : Hyphenated name) :
    ∃ c rest, name = c :: rest ∧ isWord c := by
  cases hyphenated with
  | last word => exact ⟨_, _, rfl, word⟩
  | word word => exact ⟨_, _, rfl, word⟩
  | hyphen word => exact ⟨_, _, rfl, word⟩

theorem Hyphenated.isWord_or {name : List Char} (hyphenated : Hyphenated name) :
    ∀ c ∈ name, isWord c ∨ c = '-' := by
  induction hyphenated with
  | last word => simpa using .inl word
  | word word _ ih => exact List.forall_mem_cons.2 ⟨.inl word, ih⟩
  | hyphen word _ ih =>
    exact List.forall_mem_cons.2 ⟨.inl word, List.forall_mem_cons.2 ⟨.inr rfl, ih⟩⟩

/-- An identifier holds neither white space nor a parenthesis. -/
theorem solid_of_isWord_or {c : Char} (word : isWord c ∨ c = '-') : isBlank c = false ∧ c ≠ ')' := by
  rcases word with word | rfl
  · simp only [isWord, Bool.or_eq_true, Bool.and_eq_true, decide_eq_true_eq, Char.le_def,
      UInt32.le_iff_toNat_le] at word
    have bounds : 97 ≤ c.toNat ∧ c.toNat ≤ 122 ∨ 48 ≤ c.toNat ∧ c.toNat ≤ 57 := word
    refine ⟨?_, ?_⟩
    · simp [isBlank]
      omega
    · rintro rfl
      contradiction
  · decide

theorem hyphenated_ne_nil {c : Char} (word : isWord c) (rest : List Char) :
    hyphenated (c :: rest) ≠ [] := by
  rw [hyphenated.eq_def, List.takeWhile_cons_of_pos word]
  split
  · contradiction
  · split
    · simp_all
    · simp
  · simp_all

theorem scanTail_of_ends {rest : List Char} (ends : Ends rest) : scanTail rest = ([], rest) := by
  rcases rest with _ | ⟨c, rest⟩
  · rfl
  · obtain ⟨noWord, noHyphen⟩ := ends c rfl
    simp [scanTail, noWord, noHyphen]

theorem scanTail_of_word {c : Char} (word : isWord c) {rest name after : List Char}
    (scanned : scanTail rest = (name, after)) : scanTail (c :: rest) = (c :: name, after) := by
  simp [scanTail, word, scanned]

theorem scanTail_of_hyphen {n : Char} (word : isWord n) {rest name after : List Char}
    (scanned : scanTail (n :: rest) = (name, after)) :
    scanTail ('-' :: n :: rest) = ('-' :: name, after) := by
  have noWord : isWord '-' = false := by decide
  rw [scanTail.eq_def]
  simp [noWord, word, scanned]

/-- An identifier is read up to its end. -/
theorem scanTail_of_hyphenated {name rest : List Char} (hyphenated : Hyphenated name)
    (ends : Ends rest) : scanTail (name ++ rest) = (name, rest) := by
  induction hyphenated with
  | last word => exact scanTail_of_word word (scanTail_of_ends ends)
  | word word more ih => exact scanTail_of_word word ih
  | @hyphen c behind word more ih =>
    obtain ⟨n, behind, rfl, next⟩ := more.exists_cons
    exact scanTail_of_word word (scanTail_of_hyphen next ih)

/-- A tag starts with a letter. -/
theorem Token.exists_cons (token : Token) : ∃ c rest, token.text = c :: rest ∧ isLetter c := by
  obtain ⟨name, arguments, hyphenated, letter, flat⟩ := token
  obtain ⟨c, behind, rfl, -⟩ := hyphenated.exists_cons
  obtain ⟨_, same, letter⟩ := letter
  obtain rfl := Option.some.inj same
  rcases arguments with _ | list
  · exact ⟨c, behind, rfl, letter⟩
  · exact ⟨c, behind ++ '(' :: (list ++ [')']), rfl, letter⟩

theorem scan_of_hyphenated {name rest : List Char} (hyphenated : Hyphenated name)
    (letter : ∃ c ∈ name.head?, isLetter c) (ends : Ends rest) :
    scan (name ++ rest) = (name, rest) := by
  obtain ⟨c, behind, rfl, -⟩ := hyphenated.exists_cons
  obtain ⟨_, same, letter⟩ := letter
  obtain rfl := Option.some.inj same
  have tail := scanTail_of_hyphenated hyphenated ends
  rw [List.cons_append] at tail ⊢
  rw [scan, if_pos letter, tail]

/-- A letter is neither white space nor a digit. -/
theorem not_blank_of_isLetter {c : Char} (letter : isLetter c) :
    isBlank c = false ∧ c.isDigit = false := by
  simp only [isLetter, Bool.and_eq_true, decide_eq_true_eq, Char.le_def, UInt32.le_iff_toNat_le] at letter
  have bounds : 97 ≤ c.toNat ∧ c.toNat ≤ 122 := letter
  constructor
  · simp [isBlank]
    omega
  · simp [Char.isDigit, UInt32.le_iff_toNat_le]
    omega

end Tag

namespace Template

theorem scanArguments_of_head {rest : List Char} (noList : rest.head? ≠ some '(') :
    scanArguments rest = ([], rest) := by
  rcases rest with _ | ⟨c, rest⟩
  · rfl
  · have other : c ≠ '(' := fun same => noList (congrArg some same)
    simp [scanArguments, other]

/-- A list of arguments is read up to its closing parenthesis. -/
theorem scanArguments_of_flat {list : List Char} (flat : '(' ∉ list ∧ ')' ∉ list)
    (rest : List Char) :
    scanArguments ('(' :: (list ++ ')' :: rest)) = ('(' :: (list ++ [')']), rest) := by
  have outside : ∀ c ∈ list, (c != ')' && c != '(') = true := by
    intro c member
    have noOpening : c ≠ '(' := fun same => flat.1 (same ▸ member)
    have noClosing : c ≠ ')' := fun same => flat.2 (same ▸ member)
    simp [noOpening, noClosing]
  have left : (list ++ ')' :: rest).takeWhile (fun c => c != ')' && c != '(') = list := by
    rw [List.takeWhile_append_of_pos outside, List.takeWhile_cons_of_neg (by decide), List.append_nil]
  have behind : (list ++ ')' :: rest).dropWhile (fun c => c != ')' && c != '(') = ')' :: rest := by
    rw [List.dropWhile_append_of_pos outside, List.dropWhile_cons_of_neg (by decide)]
  simp only [scanArguments, left, behind]
  rfl

/-- A tag is an identifier and the list of arguments that follows it. -/
theorem scanTag?_of_hyphenated {name behind list after : List Char}
    (hyphenated : Tag.Hyphenated name) (letter : ∃ c ∈ name.head?, Tag.isLetter c)
    (ends : Tag.Ends behind) (listed : scanArguments behind = (list, after)) :
    scanTag? (name ++ behind) = some (name ++ list, after) := by
  have scanned := Tag.scan_of_hyphenated hyphenated letter ends
  obtain ⟨c, rest, rfl, -⟩ := hyphenated.exists_cons
  rw [scanTag?, scanned]
  simp only [listed]

/-- A tag is read as it is written if nothing follows that would continue it. -/
theorem scanTag?_token (token : Tag.Token) {rest : List Char}
    (ends : token.EndsBefore rest) :
    scanTag? (token.text ++ rest) = some (token.text, rest) := by
  obtain ⟨name, _ | list, hyphenated, letter, flat⟩ := token
  · obtain ⟨ends, noList⟩ := ends rfl
    have read := scanTag?_of_hyphenated hyphenated letter ends (scanArguments_of_head noList)
    rwa [List.append_nil] at read
  · have read := scanTag?_of_hyphenated hyphenated letter (Tag.ends_cons (by decide) _)
      (scanArguments_of_flat (flat list rfl) rest)
    have whole : name ++ '(' :: (list ++ [')']) ++ rest = name ++ '(' :: (list ++ ')' :: rest) := by
      simp
    rw [Tag.Token.text, whole, read]

theorem scanQuestion?_token (token : Tag.Token) (inside : List Char) :
    scanQuestion? (token.text ++ '{' :: inside) = some (.present token.text, inside) := by
  have ends : token.EndsBefore ('{' :: inside) := token.endsBefore_cons (by decide) inside
  simp only [scanQuestion?, scanTag?_token token ends]

/-- What a `$` opens is decided by what follows its tag. -/
theorem scanDollar_token (token : Tag.Token) {rest : List Char} (ends : token.EndsBefore rest) :
    scanDollar (token.text ++ rest) = dollarTag token.text rest := by
  have read := scanTag?_token token ends
  obtain ⟨c, behind, text, letter⟩ := token.exists_cons
  obtain ⟨noBlank, noDigit⟩ := Tag.not_blank_of_isLetter letter
  have noBrace : c ≠ '{' := by
    rintro rfl
    contradiction
  rw [text, List.cons_append] at read ⊢
  rw [scanDollar_cons noBrace, if_neg (by simp [noBlank, noDigit]), read]

end Template

end TitleBar
