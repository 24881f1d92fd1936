import TitleBar.Proofs.Tag.Identifier
import TitleBar.Proofs.Template.Branch
import TitleBar.Proofs.Template.Course
import TitleBar.Proofs.Template.Joined
import TitleBar.Proofs.Template.Limit

/-! # What a branch shows

A text is its pieces one behind the other, and so is what it shows. In a branch of an `if`, and in a block
of one, only constructs show something: quoted runs, substitutions, conditionals, further branches and
blocks. All other characters are there for the reader, with one exception: a `$` in front of something
that it does not substitute stands for itself there as it does in literal text.
-/

namespace TitleBar.Template

open Text

/-! ## Pieces one behind the other -/

theorem cutBody_suffix (opening : Opening) (piece : Closed → Piece) (after : List Char) :
    (cutBody opening piece after).rest <:+ after := by
  unfold cutBody
  split
  · rename_i closed found
    obtain ⟨whole, -⟩ := close?_eq_some_iff.1 found
    rw [whole]
    exact (List.suffix_cons '}' closed.rest).trans (List.suffix_append ..)
  · exact List.nil_suffix

theorem cutConstruct_suffix (opening : Opening) (after : List Char) :
    (cutConstruct opening after).rest <:+ after := by
  cases opening with
  | enclosing | dollar | value => exact List.suffix_refl after
  | joined | present | absent => exact cutBody_suffix ..
  | branch =>
    rw [cutConstruct]
    split
    · rename_i yes found
      obtain ⟨whole, -⟩ := close?_eq_some_iff.1 found
      have behind : yes.rest <:+ after := by
        rw [whole]
        exact (List.suffix_cons '}' yes.rest).trans (List.suffix_append ..)
      rw [cutElse]
      split
      · exact behind
      · rename_i other
        split
        · exact List.nil_suffix
        · rename_i no second
          obtain ⟨whole, -⟩ := close?_eq_some_iff.1 second
          rw [whole] at other
          exact ((List.suffix_cons '}' no.rest).trans (List.suffix_append ..)).trans
            ((scanElse?_suffix other).trans behind)
    · exact List.nil_suffix

/-- A piece holds at least one character. -/
theorem piece?_suffix {mode : Mode} {glued : Bool} {text : List Char} {cut : Cut}
    (found : piece? mode glued text = some cut) :
    ∃ c behind, text = c :: behind ∧ cut.rest <:+ behind := by
  unfold piece? at found
  split at found
  · contradiction
  · obtain rfl := Option.some.inj found
    exact ⟨_, _, rfl, List.suffix_refl []⟩
  · rename_i c rest
    obtain rfl := Option.some.inj found
    exact ⟨_, _, rfl, List.suffix_cons c rest⟩
  · rename_i c rest _ _
    refine ⟨c, rest, rfl, ?_⟩
    split at found
    · split at found
      · rename_i ends
        obtain rfl := Option.some.inj found
        exact quoteEnd?_suffix ends
      · obtain rfl := Option.some.inj found
        exact List.nil_suffix
    · split at found
      · split at found
        · rename_i closed ends
          obtain rfl := Option.some.inj found
          obtain ⟨whole, -⟩ := close?_eq_some_iff.1 ends
          rw [whole]
          exact (List.suffix_cons '}' closed.rest).trans (List.suffix_append ..)
        · obtain rfl := Option.some.inj found
          exact List.nil_suffix
      · split at found
        · obtain rfl := Option.some.inj found
          exact List.suffix_refl rest
        · rename_i opened
          obtain rfl := Option.some.inj found
          exact (cutConstruct_suffix ..).trans (scanOpening?_suffix opened)

theorem piece?_length_lt {mode : Mode} {glued : Bool} {text : List Char} {cut : Cut}
    (found : piece? mode glued text = some cut) : cut.rest.length < text.length := by
  obtain ⟨c, behind, rfl, suffix⟩ := piece?_suffix found
  exact Nat.lt_succ_of_le suffix.length_le

theorem piece?_eq_none {mode : Mode} {glued : Bool} {text : List Char}
    (found : piece? mode glued text = none) : text = [] := by
  unfold piece? at found
  split at found
  · rfl
  · contradiction
  · contradiction
  · -- A character that starts no construct is a piece as well.
    split at found
    · split at found <;> contradiction
    · split at found
      · split at found <;> contradiction
      · split at found <;> contradiction

/-- A piece with the characters that it is written with. -/
structure Chunk where
  /-- Whether the first of them continues a word. -/
  glued : Bool
  source : List Char
  piece : Piece
deriving DecidableEq, Repr

/-- The pieces of a text. -/
def chunks (mode : Mode) (glued : Bool) (text : List Char) : List Chunk :=
  match _found : piece? mode glued text with
  | none => []
  | some cut =>
    ⟨glued, text.take (text.length - cut.rest.length), cut.piece⟩ :: chunks mode cut.glued cut.rest
termination_by text.length
decreasing_by exact piece?_length_lt _found

theorem chunks_of_none {mode : Mode} {glued : Bool} {text : List Char}
    (found : piece? mode glued text = none) : chunks mode glued text = [] := by
  rw [chunks.eq_def]
  split
  · rfl
  · simp_all

theorem chunks_of_some {mode : Mode} {glued : Bool} {source rest : List Char} {piece : Piece}
    {glued' : Bool} (found : piece? mode glued (source ++ rest) = some ⟨piece, glued', rest⟩) :
    chunks mode glued (source ++ rest) = ⟨glued, source, piece⟩ :: chunks mode glued' rest := by
  rw [chunks.eq_def]
  split
  · simp_all
  · rename_i found'
    obtain rfl := Option.some.inj (found.symm.trans found')
    simp

/-- Texts are read piece by piece, up to their end. -/
theorem reading_induction (mode : Mode) {motive : Bool → List Char → Prop}
    (nil : ∀ glued, motive glued [])
    (piece : ∀ {glued source piece glued' rest}, source ≠ [] →
      piece? mode glued (source ++ rest) = some ⟨piece, glued', rest⟩ → motive glued' rest →
      motive glued (source ++ rest)) (glued : Bool) (text : List Char) : motive glued text := by
  induction length : text.length using Nat.strongRecOn generalizing glued text with
  | _ _ ih =>
    rcases found : piece? mode glued text with _ | ⟨first, glued', rest⟩
    · rw [piece?_eq_none found]
      exact nil glued
    · have shorter := piece?_length_lt found
      obtain ⟨c, behind, rfl, front, rfl⟩ := piece?_suffix found
      exact piece (List.cons_ne_nil c front) found (ih _ (length ▸ shorter) glued' rest rfl)

theorem flatMap_source (mode : Mode) (glued : Bool) (text : List Char) :
    (chunks mode glued text).flatMap Chunk.source = text := by
  induction glued, text using reading_induction mode with
  | nil glued => rw [chunks_of_none rfl, List.flatMap_nil]
  | piece _ found ih => rw [chunks_of_some found, List.flatMap_cons, ih]

/-! ## Constructs -/

/-- Whether a piece is a construct, be it closed or not. -/
def Piece.isConstruct : Piece → Bool
  | plain _ | escaped _ | backslash | dollar => false
  | _ => true

/-- Expansions one behind the other. -/
def inOrder : List Expansion → Expansion
  | [] => pure []
  | first :: others => do return (← first) ++ (← inOrder others)

section Showing

variable (ask : String → Trace String) (depth : Depth) (bound : List Char)

/-- What a text inside of a piece shows, one level deeper. -/
def within (mode : Mode) (text : List Char) : Expansion := do
  expandAt ask (← depth.descend) bound (parse mode false text)

/-- What a piece of a branch shows. -/
def Piece.shown : Piece → Expansion
  | enclosing => pure bound
  | dollar => pure ['$']
  | value tag => do return (← ask (String.ofList tag)).toList
  | joined list => do
    return shownJoined (← (words list).mapM fun tag => ask (String.ofList tag))
  | present tag body => do
    let value ← ask (String.ofList tag)
    if value = "" then pure [] else within ask depth value.toList (.literal false) body.text
  | absent tag body => do
    let value ← ask (String.ofList tag)
    if value = "" then within ask depth bound (.literal false) body.text else pure []
  | branch tag yes | unclosedElse tag yes => do
    let value ← ask (String.ofList tag)
    if value = "" then pure [] else within ask depth bound .structural yes.text
  | branches tag yes no => do
    let value ← ask (String.ofList tag)
    within ask depth bound .structural (if value = "" then no.text else yes.text)
  | quoted inside | unclosedQuote inside => within ask depth bound (.literal true) inside
  | block body | unclosedBlock body => within ask depth bound .structural body.text
  | plain _ | escaped _ | backslash | unclosed _ => pure []

theorem Body.tree_eq {body : Body} {mode : Mode} (read : body.mode = mode) :
    body.tree = parse mode false body.text := by
  rw [Body.tree, read]

/-- What a piece of a branch shows is told from what it holds. -/
theorem Piece.expansion_eq_shown {piece : Piece} (uniform : piece.Uniform) :
    piece.expansion ask depth bound .structural = piece.shown ask depth bound := by
  have same (value : String) : (value.isEmpty = true) = (value = "") := propext String.isEmpty_iff
  cases piece with
  | plain | escaped | backslash | unclosed | dollar => rfl
  | enclosing | value =>
    simp only [expansion, tree, expandAt, shown, pure_bind, List.append_nil]
  | joined =>
    simp only [expansion, tree, expandAt, shown, pure_bind, List.append_nil]
    rfl
  | present tag body | absent tag body | branch tag body | unclosedElse tag body =>
    simp only [expansion, tree, expandAt, shown, same, pure_bind, List.append_nil, bind_pure]
    rw [Body.tree_eq uniform]
    rfl
  | branches tag yes no =>
    simp only [expansion, tree, expandAt, shown, same, pure_bind, List.append_nil, bind_pure]
    rw [Body.tree_eq uniform.1, Body.tree_eq uniform.2]
    refine bind_congr fun value => bind_congr fun deeper => ?_
    split <;> rfl
  | quoted inside | unclosedQuote inside =>
    simp only [expansion, tree, expandAt, shown, pure_bind, List.append_nil, bind_pure]
    rfl
  | block body | unclosedBlock body =>
    simp only [expansion, tree, expandAt, shown, pure_bind, List.append_nil, bind_pure]
    rw [Body.tree_eq uniform]
    rfl

/-- Expansions that show nothing can be left out. -/
theorem inOrder_filter {chunks : List Chunk} {kept : Chunk → Bool} {shown : Chunk → Expansion}
    (silent : ∀ chunk ∈ chunks, kept chunk = false → shown chunk = pure []) :
    inOrder ((chunks.filter kept).map shown) = inOrder (chunks.map shown) := by
  induction chunks with
  | nil => rfl
  | cons chunk chunks ih =>
    obtain ⟨first, others⟩ := List.forall_mem_cons.1 silent
    rcases keeps : kept chunk with _ | _
    · rw [List.filter_cons_of_neg (by simp [keeps]), ih others, List.map_cons, inOrder, first keeps,
        pure_bind]
      simp only [List.nil_append, bind_pure]
    · rw [List.filter_cons_of_pos keeps, List.map_cons, List.map_cons, inOrder, inOrder, ih others]

/-- A text shows what its pieces show, one behind the other. -/
theorem expandAt_chunks (mode : Mode) (glued : Bool) (text : List Char) :
    expandAt ask depth bound (parse mode glued text) =
      inOrder ((chunks mode glued text).map fun chunk =>
        chunk.piece.expansion ask depth bound mode) := by
  induction glued, text using reading_induction mode with
  | nil glued => rw [parse_nil, chunks_of_none rfl, List.map_nil, inOrder, expandAt]
  | piece _ found ih =>
    rw [parse_eq_piece?, found, chunks_of_some found, List.map_cons, inOrder, ← ih]
    exact Piece.expandAt_tree ..

end Showing

/-! ## Where constructs start -/

/-- Whether a `$` in front of a text is replaced by something. -/
def Substitutes (rest : List Char) : Prop :=
  ∀ c ∈ rest.head?, isBlank c ∨ c.isDigit ∨ c = '{' ∨ Tag.isLetter c

/-- Whether the header of an `if` goes on like this behind its first letter: the parentheses hold
something that starts with an identifier, perhaps with white space around. -/
def OpensIf (rest : List Char) : Prop :=
  ∃ before inside between body, (∀ c ∈ before ++ between, isBlank c) ∧ ')' ∉ inside ∧
    (∃ c ∈ (trim inside).head?, Tag.isWord c) ∧
    rest = 'f' :: (before ++ '(' :: (inside ++ ')' :: (between ++ '{' :: body)))

/-- Whether a construct starts at a character of a branch, given what follows it, and whether it
continues a word. -/
def Starts (glued : Bool) (c : Char) (rest : List Char) : Prop :=
  c = '"' ∨ c = '{' ∨ (c = '$' ∧ Substitutes rest) ∨
    (c = '?' ∧ ∃ (token : Tag.Token) (inside : List Char), rest = token.text ++ '{' :: inside) ∨
    (c = 'i' ∧ glued = false ∧ OpensIf rest)

theorem scanTag?_cons_ne_none {c : Char} (rest : List Char) :
    scanTag? (c :: rest) ≠ none ↔ Tag.isLetter c := by
  by_cases letter : Tag.isLetter c
  · obtain ⟨name, after, scanned, named, -⟩ := Tag.scan_of_letter letter rest
    obtain ⟨d, behind, rfl, -⟩ := named.exists_cons
    simp [scanTag?, scanned, letter]
  · simp [scanTag?, Tag.scan, letter]

theorem dollarTag_ne_dollar (tag after : List Char) : (dollarTag tag after).1 ≠ .dollar := by
  unfold dollarTag
  split <;> simp

/-- A `$` stands for itself in front of what it does not substitute. -/
theorem scanDollar_eq_dollar_iff (rest : List Char) :
    (scanDollar rest).1 = .dollar ↔ ¬Substitutes rest := by
  rcases rest with _ | ⟨c, rest⟩
  · have read : scanDollar [] = (.enclosing, []) := rfl
    simp [read, Substitutes]
  by_cases brace : c = '{'
  · subst brace
    have read : scanDollar ('{' :: rest) = (.joined, rest) := rfl
    simp [read, Substitutes]
  rw [scanDollar_cons brace]
  have letters := scanTag?_cons_ne_none (c := c) rest
  by_cases blank : (isBlank c || c.isDigit) = true
  · rw [if_pos blank]
    have either : isBlank c ∨ c.isDigit := by simpa using blank
    simp [Substitutes, ← or_assoc, either]
  · rw [if_neg blank]
    have neither : isBlank c = false ∧ c.isDigit = false := by simpa using blank
    rcases found : scanTag? (c :: rest) with _ | ⟨tag, after⟩
    · have noLetter : Tag.isLetter c = false := by simpa [found] using letters
      simp [Substitutes, neither, brace, noLetter]
    · have letter : Tag.isLetter c := by simpa [found] using letters
      simp [Substitutes, letter, dollarTag_ne_dollar]

theorem scanDollar_of_not_substitutes {rest : List Char} (other : ¬Substitutes rest) :
    scanDollar rest = (.dollar, rest) := by
  have dollar := (scanDollar_eq_dollar_iff rest).2 other
  rcases rest with _ | ⟨c, rest⟩
  · contradiction
  by_cases brace : c = '{'
  · subst brace
    contradiction
  rw [scanDollar_cons brace] at dollar ⊢
  split at dollar
  · contradiction
  · rename_i noBlank
    rw [if_neg noBlank]
    split at dollar
    · rfl
    · exact absurd dollar (dollarTag_ne_dollar _ _)

theorem scanQuestion?_ne_none_iff (rest : List Char) : scanQuestion? rest ≠ none ↔
    ∃ (token : Tag.Token) (inside : List Char), rest = token.text ++ '{' :: inside := by
  constructor
  · intro opens
    obtain ⟨⟨opening, inside⟩, found⟩ := Option.ne_none_iff_exists'.1 opens
    unfold scanQuestion? at found
    split at found
    · rename_i tag inside tagged
      obtain ⟨token, rfl⟩ := exists_token_of_scanTag? tagged
      exact ⟨token, inside, (scanTag?_eq_some tagged).symm⟩
    · contradiction
  · rintro ⟨token, inside, rfl⟩
    rw [scanQuestion?_token]
    exact Option.some_ne_none _

theorem scanIf?_ne_none_iff (rest : List Char) : scanIf? rest ≠ none ↔ OpensIf rest := by
  constructor
  · intro opens
    obtain ⟨⟨opening, body⟩, found⟩ := Option.ne_none_iff_exists'.1 opens
    simp only [scanIf?, Option.bind_eq_bind, Option.bind_eq_some_iff] at found
    obtain ⟨afterWord, word, inside, opened, behind, closed, body, braced, final⟩ := found
    obtain ⟨before, front, header⟩ := exists_blank_append_trimStart afterWord
    obtain ⟨between, back, gap⟩ := exists_blank_append_trimStart behind
    rw [strip?_eq_some_iff.1 opened] at header
    rw [strip?_eq_some_iff.1 braced] at gap
    have list := List.takeWhile_append_dropWhile (p := (· != ')')) (l := inside)
    rw [strip?_eq_some_iff.1 closed, gap] at list
    refine ⟨before, inside.takeWhile (· != ')'), between, body, List.forall_mem_append.2 ⟨front, back⟩,
      ?_, ?_, ?_⟩
    · intro member
      simpa using List.mem_takeWhile_imp member
    · have named : Tag.hyphenated (trim (inside.takeWhile (· != ')'))) ≠ [] := by
        intro none
        rw [if_pos none] at final
        contradiction
      simpa [Tag.hyphenated_eq_nil_iff] using named
    · have whole : inside = inside.takeWhile (· != ')') ++ ')' :: (between ++ '{' :: body) := by
        simpa using list.symm
      rw [strip?_eq_some_iff.1 word, header]
      simp only [List.cons_append, List.nil_append]
      rw [← whole]
  · rintro ⟨before, inside, between, body, blank, unclosed, ⟨c, first, word⟩, rfl⟩
    obtain ⟨front, back⟩ := List.forall_mem_append.1 blank
    have named : Tag.hyphenated (trim inside) ≠ [] := by
      rw [Ne, Tag.hyphenated_eq_nil_iff]
      intro other
      rw [other c first] at word
      contradiction
    have parenthesis : isBlank '(' = false := by decide
    have brace : isBlank '{' = false := by decide
    obtain ⟨left, right⟩ := span_of_not_mem unclosed (between ++ '{' :: body)
    simp only [scanIf?, strip?, if_true, Option.bind_eq_bind, Option.bind_some,
      trimStart_of_blank front, trimStart_of_solid parenthesis, left, right, trimStart_of_blank back,
      trimStart_of_solid brace, if_neg named]
    exact Option.some_ne_none _

theorem isConstruct_cutBody {opening : Opening} {piece : Closed → Piece}
    (construct : ∀ closed, (piece closed).isConstruct) (after : List Char) :
    (cutBody opening piece after).piece.isConstruct := by
  unfold cutBody
  split
  · exact construct _
  · rfl

theorem isConstruct_cutConstruct {opening : Opening} (other : opening ≠ .dollar)
    (after : List Char) : (cutConstruct opening after).piece.isConstruct := by
  cases opening with
  | dollar => contradiction
  | enclosing | value => rfl
  | joined | present | absent => exact isConstruct_cutBody (fun _ => rfl) after
  | branch =>
    rw [cutConstruct]
    split
    · rw [cutElse]
      split
      · rfl
      · split <;> rfl
    · rfl

/-- A character of a branch that is no part of a construct, as it is written: alone, or with a backslash
in front of it. -/
def Piece.Bare (source : List Char) (piece : Piece) : Prop :=
  (∃ c, c ≠ '"' ∧ c ≠ '{' ∧ c ≠ '$' ∧ source = [c] ∧ piece = .plain c) ∨
    (∃ c, source = ['\\', c] ∧ piece = .escaped c) ∨ (source = ['\\'] ∧ piece = .backslash) ∨
    (source = ['$'] ∧ piece = .dollar)

theorem ne_dollar_of_scanQuestion? {rest after : List Char} {opening : Opening}
    (found : scanQuestion? rest = some (opening, after)) : opening ≠ .dollar := by
  unfold scanQuestion? at found
  split at found
  · obtain ⟨rfl, -⟩ := Prod.mk.inj (Option.some.inj found)
    nofun
  · contradiction

theorem ne_dollar_of_scanIf? {rest after : List Char} {opening : Opening}
    (found : scanIf? rest = some (opening, after)) : opening ≠ .dollar := by
  simp only [scanIf?, Option.bind_eq_bind, Option.bind_eq_some_iff] at found
  obtain ⟨_, -, _, -, _, -, _, -, final⟩ := found
  split at final
  · contradiction
  · obtain ⟨rfl, -⟩ := Prod.mk.inj (Option.some.inj final)
    intro same
    contradiction

/-- What starts at a character that is neither a backslash nor a quote nor a brace. -/
theorem starts_cases (glued : Bool) {c : Char} (text : List Char) (noQuote : c ≠ '"')
    (noBlock : c ≠ '{') :
    (¬Starts glued c text ∧ (scanOpening? glued (c :: text) = none ∧ c ≠ '$' ∨
        c = '$' ∧ scanOpening? glued (c :: text) = some (.dollar, text))) ∨
      (Starts glued c text ∧ ∃ opening after, opening ≠ .dollar ∧
        scanOpening? glued (c :: text) = some (opening, after)) := by
  by_cases dollar : c = '$'
  · subst dollar
    by_cases substitutes : Substitutes text
    · have opening : (scanDollar text).1 ≠ .dollar := by
        rw [Ne, scanDollar_eq_dollar_iff]
        exact not_not_intro substitutes
      exact .inr ⟨by simp [Starts, substitutes], _, _, opening, rfl⟩
    · have read := scanDollar_of_not_substitutes substitutes
      exact .inl ⟨by simp [Starts, substitutes], .inr ⟨rfl, congrArg some read⟩⟩
  by_cases question : c = '?'
  · subst question
    have opens := scanQuestion?_ne_none_iff text
    rcases found : scanQuestion? text with _ | ⟨opening, after⟩
    · rw [found] at opens
      have nothing := opens.not.1 (not_not_intro rfl)
      exact .inl ⟨by simpa [Starts] using nothing, .inl ⟨found, dollar⟩⟩
    · rw [found] at opens
      have starts := opens.1 (Option.some_ne_none _)
      exact .inr ⟨by simpa [Starts] using starts, opening, after, ne_dollar_of_scanQuestion? found, found⟩
  by_cases letter : c = 'i'
  · subst letter
    cases glued with
    | true => exact .inl ⟨by simp [Starts], .inl ⟨rfl, dollar⟩⟩
    | false =>
      have opens := scanIf?_ne_none_iff text
      rcases found : scanIf? text with _ | ⟨opening, after⟩
      · rw [found] at opens
        have nothing := opens.not.1 (not_not_intro rfl)
        exact .inl ⟨by simpa [Starts] using nothing, .inl ⟨found, dollar⟩⟩
      · rw [found] at opens
        have starts := opens.1 (Option.some_ne_none _)
        exact .inr ⟨by simpa [Starts] using starts, opening, after, ne_dollar_of_scanIf? found, found⟩
  · left
    refine ⟨by simp [Starts, noQuote, noBlock, dollar, question, letter], .inl ⟨?_, dollar⟩⟩
    simp [scanOpening?, dollar, question, letter]

/-- A piece of a branch is a construct exactly if one starts at its first character. Any other piece is a
character. -/
theorem isConstruct_iff_starts {glued : Bool} {c : Char} {text : List Char} {cut : Cut}
    (found : piece? .structural glued (c :: text) = some cut) :
    (cut.piece.isConstruct ↔ Starts glued c text) ∧ (cut.piece.isConstruct = false →
      ∃ source, c :: text = source ++ cut.rest ∧ cut.piece.Bare source) := by
  by_cases escape : c = '\\'
  · subst escape
    have nothing : ¬Starts glued '\\' text := by simp [Starts]
    rcases text with _ | ⟨d, text⟩
    · obtain rfl := Option.some.inj found
      exact ⟨iff_of_false nofun nothing, fun _ => ⟨['\\'], rfl, .inr (.inr (.inl ⟨rfl, rfl⟩))⟩⟩
    · obtain rfl := Option.some.inj found
      exact ⟨iff_of_false nofun nothing, fun _ => ⟨['\\', d], rfl, .inr (.inl ⟨d, rfl, rfl⟩)⟩⟩
  by_cases quote : c = '"'
  · subst quote
    have construct : cut.piece.isConstruct := by
      rw [piece?_cons escape, if_pos (by decide)] at found
      split at found <;> obtain rfl := Option.some.inj found <;> rfl
    exact ⟨iff_of_true construct (.inl rfl), fun other => by rw [construct] at other; contradiction⟩
  by_cases block : c = '{'
  · subst block
    have construct : cut.piece.isConstruct := by
      rw [piece?_cons escape, if_neg (by decide), if_pos (by decide)] at found
      split at found <;> obtain rfl := Option.some.inj found <;> rfl
    exact ⟨iff_of_true construct (.inr (.inl rfl)),
      fun other => by rw [construct] at other; contradiction⟩
  rw [piece?_of_opening escape (by simp [quote]) (by simp [block])] at found
  rcases starts_cases glued text quote block with
    ⟨nothing, ⟨opened, noDollar⟩ | ⟨rfl, opened⟩⟩ | ⟨starts, opening, after, other, opened⟩
  · rw [opened] at found
    obtain rfl := Option.some.inj found
    exact ⟨iff_of_false nofun nothing,
      fun _ => ⟨[c], rfl, .inl ⟨c, quote, block, noDollar, rfl, rfl⟩⟩⟩
  · rw [opened] at found
    obtain rfl := Option.some.inj found
    exact ⟨iff_of_false nofun nothing, fun _ => ⟨['$'], rfl, .inr (.inr (.inr ⟨rfl, rfl⟩))⟩⟩
  · rw [opened] at found
    obtain rfl := Option.some.inj found
    have construct := isConstruct_cutConstruct other after
    exact ⟨iff_of_true construct starts, fun other => by rw [construct] at other; contradiction⟩

/-! ## What is shown -/

/-- A piece is the first one of the text that it and those behind it make up. -/
theorem piece?_of_split {mode : Mode} {glued : Bool} {text : List Char} {before after : List Chunk}
    {chunk : Chunk} (split : chunks mode glued text = before ++ chunk :: after) :
    chunk.source ≠ [] ∧ ∃ glued', piece? mode chunk.glued
      (chunk.source ++ after.flatMap Chunk.source) =
        some ⟨chunk.piece, glued', after.flatMap Chunk.source⟩ := by
  induction glued, text using reading_induction mode generalizing before with
  | nil glued =>
    rw [chunks_of_none rfl] at split
    simp at split
  | @piece glued source piece glued' rest some found ih =>
    rw [chunks_of_some found] at split
    rcases before with _ | ⟨first, before⟩
    · obtain ⟨rfl, rfl⟩ := List.cons.inj split
      rw [flatMap_source]
      exact ⟨some, glued', found⟩
    · obtain ⟨-, others⟩ := List.cons.inj split
      exact ih others

theorem uniform_of_mem {mode : Mode} {glued : Bool} {text : List Char} {chunk : Chunk}
    (member : chunk ∈ chunks mode glued text) : chunk.piece.Uniform := by
  obtain ⟨before, after, split⟩ := List.append_of_mem member
  obtain ⟨-, glued', found⟩ := piece?_of_split split
  exact uniform_of_piece? found

/-- Whether a piece of a branch shows something: a construct, or a `$` that stands for itself. -/
def Chunk.speaks (chunk : Chunk) : Bool := chunk.piece.isConstruct || chunk.piece == .dollar

theorem Piece.shown_of_silent {piece : Piece} (other : piece.isConstruct = false)
    (noDollar : piece ≠ .dollar) (ask : String → Trace String) (depth : Depth) (bound : List Char) :
    piece.shown ask depth bound = pure [] := by
  cases piece with
  | plain | escaped | backslash => rfl
  | dollar => exact absurd rfl noDollar
  | _ => contradiction

theorem Piece.Uniform.exists_answer_shown {piece : Piece} (uniform : piece.Uniform)
    (ask : String → Trace String) (bound : List Char) :
    ∃ shown, (piece.shown ask .unlimited bound).run.answer = .ok shown := by
  rw [← Piece.expansion_eq_shown ask .unlimited bound uniform]
  exact (expandAt_limited ask 0 _ 0 bound).completes

/-- What the pieces show of which a test holds, one behind the other. -/
def shownBy (kept : Chunk → Bool) (chunks : List Chunk) (ask : String → Trace String) (depth : Depth)
    (bound : List Char) : Expansion :=
  inOrder ((chunks.filter kept).map fun chunk => chunk.piece.shown ask depth bound)

section Kept

variable {kept : Chunk → Bool} {chunk : Chunk} (chunks : List Chunk)

theorem shownBy_cons_of_not (left : kept chunk = false) (ask : String → Trace String) (depth : Depth)
    (bound : List Char) :
    shownBy kept (chunk :: chunks) ask depth bound = shownBy kept chunks ask depth bound := by
  rw [shownBy, List.filter_cons_of_neg (by simp [left]), shownBy]

theorem answer_shownBy_cons (keeps : kept chunk) {ask : String → Trace String} {depth : Depth}
    {bound shown : List Char} (outcome : (chunk.piece.shown ask depth bound).run.answer = .ok shown) :
    (shownBy kept (chunk :: chunks) ask depth bound).run.answer =
      (shownBy kept chunks ask depth bound).run.answer.map (shown ++ ·) := by
  rw [shownBy, List.filter_cons_of_pos keeps, List.map_cons, inOrder, run_bind_of_ok outcome,
    run_prepend]
  rfl

end Kept

/-- Each `$` that stands for itself makes what is shown one character longer. -/
theorem exists_length_shown {chunks : List Chunk} (uniform : ∀ chunk ∈ chunks, chunk.piece.Uniform)
    (ask : String → Trace String) (bound : List Char) : ∃ all constructs,
      (shownBy Chunk.speaks chunks ask .unlimited bound).run.answer = .ok all ∧
      (shownBy (·.piece.isConstruct) chunks ask .unlimited bound).run.answer = .ok constructs ∧
      all.length = constructs.length + chunks.countP (·.piece == .dollar) := by
  induction chunks with
  | nil => exact ⟨[], [], rfl, rfl, rfl⟩
  | cons chunk chunks ih =>
    obtain ⟨first, others⟩ := List.forall_mem_cons.1 uniform
    obtain ⟨all, constructs, allShown, constructsShown, longer⟩ := ih others
    obtain ⟨shown, outcome⟩ := first.exists_answer_shown ask bound
    by_cases dollar : chunk.piece = .dollar
    · have speaks : chunk.speaks := by simp [Chunk.speaks, dollar]
      have other : chunk.piece.isConstruct = false := by rw [dollar]; rfl
      have one : (chunk.piece.shown ask .unlimited bound).run.answer = .ok ['$'] := by rw [dollar]; rfl
      refine ⟨'$' :: all, constructs, ?_, ?_, ?_⟩
      · rw [answer_shownBy_cons chunks speaks one, allShown]
        rfl
      · rwa [shownBy_cons_of_not chunks other]
      · rw [List.countP_cons_of_pos (by simp [dollar]), List.length_cons, longer]
        omega
    rcases construct : chunk.piece.isConstruct with _ | _
    · have silent : chunk.speaks = false := by simp [Chunk.speaks, dollar, construct]
      refine ⟨all, constructs, ?_, ?_, ?_⟩
      · rwa [shownBy_cons_of_not chunks silent]
      · rwa [shownBy_cons_of_not chunks construct]
      · rwa [List.countP_cons_of_neg (by simp [dollar])]
    · have speaks : chunk.speaks := by simp [Chunk.speaks, construct]
      refine ⟨shown ++ all, shown ++ constructs, ?_, ?_, ?_⟩
      · rw [answer_shownBy_cons chunks speaks outcome, allShown]
        rfl
      · rw [answer_shownBy_cons chunks construct outcome, constructsShown]
        rfl
      · rw [List.countP_cons_of_neg (by simp [dollar]), List.length_append, List.length_append, longer]
        omega

/-- A text in a branch shows what the pieces of it show that show something. -/
theorem expandAt_eq_shownBy (ask : String → Trace String) (depth : Depth) (bound : List Char) (glued : Bool)
    (text : List Char) : expandAt ask depth bound (parse .structural glued text) =
      shownBy Chunk.speaks (chunks .structural glued text) ask depth bound := by
  have silent : ∀ chunk ∈ chunks .structural glued text, chunk.speaks = false →
      chunk.piece.shown ask depth bound = pure [] := by
    intro chunk _ silent
    rw [Chunk.speaks, Bool.or_eq_false_iff, beq_eq_false_iff_ne] at silent
    exact Piece.shown_of_silent silent.1 silent.2 ask depth bound
  rw [expandAt_chunks, shownBy, inOrder_filter silent]
  refine congrArg inOrder (List.map_congr_left fun chunk member => ?_)
  exact Piece.expansion_eq_shown ask depth bound (uniform_of_mem member)

/-- A text in a branch or in a block shows what its constructs show, one behind the other, and nothing of
its other characters, whatever they are: only a `$` that substitutes nothing shows itself. So it shows what
its constructs show exactly if each `$` outside of them substitutes something. -/
theorem expandAt_branch_chunks (glued : Bool) (text : List Char) :
    let pieces := chunks .structural glued text
    let expand (ask : String → Trace String) (depth : Depth) (bound : List Char) : Expansion :=
      expandAt ask depth bound (parse .structural glued text)
    pieces.flatMap Chunk.source = text ∧
    (∀ before chunk after, pieces = before ++ chunk :: after → ∃ c rest,
      chunk.source ++ after.flatMap Chunk.source = c :: rest ∧
      (chunk.piece.isConstruct ↔ Starts chunk.glued c rest) ∧
      (chunk.piece.isConstruct = false → chunk.piece.Bare chunk.source)) ∧
    (∀ ask depth bound, expand ask depth bound = shownBy Chunk.speaks pieces ask depth bound) ∧
    ((∀ ask depth bound, expand ask depth bound =
        shownBy (·.piece.isConstruct) pieces ask depth bound) ↔
      ∀ chunk ∈ pieces, chunk.piece ≠ .dollar) := by
  intro pieces expand
  refine ⟨flatMap_source .structural glued text, ?_,
    fun ask depth bound => expandAt_eq_shownBy ask depth bound glued text, ?_⟩
  · intro before chunk after split
    obtain ⟨some, glued', found⟩ := piece?_of_split split
    obtain ⟨c, source, same⟩ := List.exists_cons_of_ne_nil some
    rw [same, List.cons_append] at found ⊢
    obtain ⟨construct, bare⟩ := isConstruct_iff_starts found
    refine ⟨c, _, rfl, construct, fun other => ?_⟩
    obtain ⟨source', whole, bare⟩ := bare other
    rw [← List.cons_append] at whole
    rwa [List.append_cancel_right whole]
  · constructor
    · intro same
      let ask : String → Trace String := fun _ => pure ""
      obtain ⟨all, constructs, allShown, constructsShown, longer⟩ :=
        exists_length_shown (fun _ => uniform_of_mem) ask []
      have outcome := congrArg (fun expansion : Expansion => expansion.run.answer)
        ((expandAt_eq_shownBy ask .unlimited [] glued text).symm.trans (same ask .unlimited []))
      rw [allShown, constructsShown] at outcome
      have none : (chunks .structural glued text).countP (·.piece == .dollar) = 0 := by
        rw [Except.ok.inj outcome] at longer
        omega
      simpa using List.countP_eq_zero.1 none
    · intro noDollar ask depth bound
      have kept : pieces.filter Chunk.speaks = pieces.filter (·.piece.isConstruct) := by
        refine List.filter_congr fun chunk member => ?_
        rw [Chunk.speaks, beq_eq_false_iff_ne.2 (noDollar chunk member), Bool.or_false]
      exact (expandAt_eq_shownBy ask depth bound glued text).trans (by rw [shownBy, kept, shownBy])

/-- A `$` in front of an exclamation mark shows itself between two quoted runs. -/
theorem expandAt_branch_chunks_dollar :
    let text := ['"', 'a', '"', ' ', '$', '!', ' ', '"', 'b', '"']
    let pieces := chunks .structural false text
    (pieces.filter Chunk.speaks).map Chunk.piece = [.quoted ['a'], .dollar, .quoted ['b']] ∧
      (¬∀ ask depth bound, expandAt ask depth bound (parse .structural false text) =
        shownBy (·.piece.isConstruct) pieces ask depth bound) ∧
      (expand? solutionLookup.value (String.ofList (ifThen "solution".toList text))).answer =
        .ok "a$b" := by
  intro text pieces
  have speaking : (pieces.filter Chunk.speaks).map Chunk.piece =
      [.quoted ['a'], .dollar, .quoted ['b']] := by decide +kernel
  obtain ⟨-, -, -, only⟩ := expandAt_branch_chunks false text
  refine ⟨speaking, only.not.2 fun none => ?_, by decide +kernel⟩
  have member : Piece.dollar ∈ (pieces.filter Chunk.speaks).map Chunk.piece := by simp [speaking]
  obtain ⟨chunk, kept, dollar⟩ := List.mem_map.1 member
  exact none chunk (List.mem_filter.1 kept).1 dollar

end TitleBar.Template
