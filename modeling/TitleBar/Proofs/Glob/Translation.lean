import TitleBar.Proofs.Glob.Matching

/-! # What a pattern is compiled to

The expression of a pattern has one factor for each of its characters. That the two replacements find
exactly the wildcards is due to the escaping: behind it every wildcard has its own backslash in front of
it, and a backslash of the pattern has become two, of which neither can be taken for that of a wildcard
because the next character brings its own one.
-/

namespace TitleBar

namespace Text

variable {mark : Char} {new rest : List Char}

theorem replaceAll_nil (mark : Char) (new : List Char) : replaceAll '\\' [mark] new [] = [] := by
  rw [replaceAll.eq_def]

theorem replaceAll_marked (mark : Char) (new rest : List Char) :
    replaceAll '\\' [mark] new ('\\' :: mark :: rest) = new ++ replaceAll '\\' [mark] new rest := by
  have found : strip? ['\\', mark] ('\\' :: mark :: rest) = some rest := by simp [strip?]
  rw [replaceAll.eq_def]
  simp only
  split
  · rename_i after same
    obtain rfl := Option.some.inj (found.symm.trans same)
    rfl
  · rename_i none
    rw [found] at none
    contradiction

theorem replaceAll_of_none {c : Char} (nothing : strip? ['\\', mark] (c :: rest) = none) :
    replaceAll '\\' [mark] new (c :: rest) = c :: replaceAll '\\' [mark] new rest := by
  rw [replaceAll.eq_def]
  simp only
  split
  · rename_i found
    rw [nothing] at found
    contradiction
  · rfl

theorem replaceAll_cons {c : Char} (other : c ≠ '\\') :
    replaceAll '\\' [mark] new (c :: rest) = c :: replaceAll '\\' [mark] new rest :=
  replaceAll_of_none (by simp [strip?, other.symm])

theorem replaceAll_backslash (unmarked : rest.head? ≠ some mark) :
    replaceAll '\\' [mark] new ('\\' :: rest) = '\\' :: replaceAll '\\' [mark] new rest := by
  apply replaceAll_of_none
  cases rest with
  | nil => rfl
  | cons c rest =>
    have other : mark ≠ c := fun same => unmarked (congrArg some same.symm)
    simp [strip?, other]

/-- A text of pieces is replaced piece by piece if none of them starts with the mark. -/
theorem replaceAll_flatMap {before after : Char → List Char}
    (starts : ∀ c, ∃ d more, before c = d :: more ∧ d ≠ mark)
    (each : ∀ c rest, rest.head? ≠ some mark →
      replaceAll '\\' [mark] new (before c ++ rest) = after c ++ replaceAll '\\' [mark] new rest)
    (text : List Char) : replaceAll '\\' [mark] new (text.flatMap before) = text.flatMap after := by
  induction text with
  | nil => exact replaceAll_nil mark new
  | cons c text ih =>
    have unmarked : (text.flatMap before).head? ≠ some mark := by
      cases text with
      | nil => simp
      | cons d text =>
        obtain ⟨e, more, piece, other⟩ := starts d
        rw [List.flatMap_cons, piece]
        exact fun same => other (Option.some.inj same)
    rw [List.flatMap_cons, List.flatMap_cons, each c _ unmarked, ih]

end Text

namespace Glob

open Text

section Translation

variable {engine : Engine}

/-- A character that has to be escaped does not come first in any piece of an escaped text. -/
theorem Engine.escaped_starts {mark : Char} (isMeta : engine.isMeta mark) (other : mark ≠ '\\')
    (c : Char) : ∃ d more, engine.escaped c = d :: more ∧ d ≠ mark := by
  by_cases special : engine.isMeta c
  · exact ⟨'\\', [c], if_pos special, other.symm⟩
  · refine ⟨c, [], if_neg special, ?_⟩
    rintro rfl
    exact special isMeta

variable (lawful : engine.Lawful)

include lawful

/-- A replacement leaves the other characters as they are. -/
theorem Engine.Lawful.replaceAll_escaped {mark c : Char} (other : c ≠ mark) {new rest : List Char}
    (unmarked : rest.head? ≠ some mark) :
    replaceAll '\\' [mark] new (engine.escaped c ++ rest) =
      engine.escaped c ++ replaceAll '\\' [mark] new rest := by
  by_cases special : engine.isMeta c
  · rw [Engine.escaped, if_pos special]
    have first : (c :: rest).head? ≠ some mark := fun same => other (Option.some.inj same)
    -- An escaped backslash stands in front of the next piece, and that does not start with the mark.
    have second : replaceAll '\\' [mark] new (c :: rest) = c :: replaceAll '\\' [mark] new rest := by
      by_cases backslash : c = '\\'
      · rw [backslash]
        exact replaceAll_backslash unmarked
      · exact replaceAll_cons backslash
    exact (replaceAll_backslash first).trans (congrArg ('\\' :: ·) second)
  · rw [Engine.escaped, if_neg special]
    refine replaceAll_cons ?_
    rintro rfl
    exact special lawful.backslash

/-- The first replacement turns the stars into `.*`. -/
theorem Engine.Lawful.replaceAll_star (pattern : List Char) :
    replaceAll '\\' ['*'] ['.', '*'] (engine.escape pattern) =
      pattern.flatMap fun c => if c = '*' then ['.', '*'] else engine.escaped c := by
  refine replaceAll_flatMap (Engine.escaped_starts lawful.star (by decide)) ?_ pattern
  intro c rest unmarked
  by_cases star : c = '*'
  · have piece : engine.escaped c = ['\\', '*'] := by
      rw [star, Engine.escaped, if_pos lawful.star]
    rw [if_pos star, piece]
    exact replaceAll_marked '*' _ rest
  · rw [if_neg star]
    exact lawful.replaceAll_escaped star unmarked

end Translation

/-- The factor that a character of a pattern is rewritten to. -/
def Factor.ofChar (c : Char) : Factor :=
  if c = '*' then ⟨.any, true⟩ else if c = '?' then ⟨.any, false⟩ else ⟨.literal c, false⟩

/-- A pattern is rewritten to its factors. -/
theorem Engine.Lawful.translate_eq {engine : Engine} (lawful : engine.Lawful) (pattern : List Char) :
    engine.translate pattern = (pattern.map Factor.ofChar).flatMap (Factor.spelling engine) := by
  rw [Engine.translate, lawful.replaceAll_star, List.flatMap_map]
  refine replaceAll_flatMap ?_ ?_ pattern
  · intro c
    by_cases star : c = '*'
    · exact ⟨'.', ['*'], if_pos star, by decide⟩
    · rw [if_neg star]
      exact Engine.escaped_starts lawful.mark (by decide) c
  · intro c rest unmarked
    by_cases star : c = '*'
    · have dot : replaceAll '\\' ['?'] ['.'] ('.' :: '*' :: rest) =
          '.' :: '*' :: replaceAll '\\' ['?'] ['.'] rest := by
        rw [replaceAll_cons (by decide), replaceAll_cons (by decide)]
      rw [Factor.ofChar, if_pos star, if_pos star]
      exact dot
    rw [Factor.ofChar, if_neg star, if_neg star]
    by_cases mark : c = '?'
    · have piece : engine.escaped c = ['\\', '?'] := by
        rw [mark, Engine.escaped, if_pos lawful.mark]
      rw [if_pos mark, piece]
      exact replaceAll_marked '?' _ rest
    · have literal : Factor.spelling engine ⟨.literal c, false⟩ = engine.escaped c :=
        List.append_nil _
      rw [if_neg mark, literal]
      exact lawful.replaceAll_escaped mark unmarked

section Acceptance

variable {atom : Atom} {factors : List Factor} {text : List Char}

theorem accepts_nil_iff : Accepts [] text ↔ text = [] := by
  constructor
  · rintro ⟨⟩
    rfl
  · rintro rfl
    exact .nil

theorem accepts_once_iff :
    Accepts (⟨atom, false⟩ :: factors) text ↔
      ∃ c rest, text = c :: rest ∧ atom.takes c = true ∧ Accepts factors rest := by
  constructor
  · rintro (_ | ⟨takes, rest⟩)
    exact ⟨_, _, rfl, takes, rest⟩
  · rintro ⟨c, rest, rfl, takes, accepts⟩
    exact .once takes accepts

theorem accepts_repeated_iff :
    Accepts (⟨atom, true⟩ :: factors) text ↔
      ∃ run rest, text = run ++ rest ∧ (∀ c ∈ run, atom.takes c = true) ∧ Accepts factors rest := by
  constructor
  · intro accepts
    cases accepts with
    | repeated takes rest => exact ⟨_, _, rfl, takes, rest⟩
  · rintro ⟨run, rest, rfl, takes, accepts⟩
    exact .repeated takes accepts

/-- The factors of a pattern take what its characters take. -/
theorem accepts_map_ofChar_iff {pattern : List Char} :
    Accepts (pattern.map Factor.ofChar) text ↔ Wild pattern text := by
  induction pattern generalizing text with
  | nil => exact accepts_nil_iff.trans wild_nil_iff.symm
  | cons p pattern ih =>
    rw [List.map_cons]
    by_cases star : p = '*'
    · rw [Factor.ofChar, if_pos star, accepts_repeated_iff, star, wild_star_iff]
      simp only [Atom.takes, implies_true, true_and, ih]
    by_cases mark : p = '?'
    · rw [Factor.ofChar, if_neg star, if_pos mark, accepts_once_iff, mark, wild_mark_iff]
      simp only [Atom.takes, true_and, ih]
    · rw [Factor.ofChar, if_neg star, if_neg mark, accepts_once_iff, wild_cons_iff star mark]
      simp only [Atom.takes, ih]

end Acceptance

/-- A pattern matches a text if it is empty or the whole text can be split among its characters, where a
star takes any run, a question mark one character, and every other character one that is the same up to
case. So it is for the expression that it is compiled to, and so it is decided. -/
theorem isMatchBy_iff_wild {engine : Engine} (lawful : engine.Lawful) (glob : Glob)
    (compiles : glob.source ≠ "" → glob.regex? engine ≠ none) (text : String) :
    (glob.isMatchBy engine text = true ↔
        glob.source = "" ∨ Wild glob.source.toList text.toList) ∧
      glob.isMatch text = glob.isMatchBy engine text := by
  have compiled : glob.isMatchBy engine text = true ↔
      glob.source = "" ∨ Wild glob.source.toList text.toList := by
    rw [isMatchBy, Bool.or_eq_true, isEmpty, String.isEmpty_iff]
    by_cases empty : glob.source = ""
    · exact iff_of_true (.inl empty) (.inl empty)
    · obtain ⟨regex, found⟩ := Option.ne_none_iff_exists'.1 (compiles empty)
      have expression : engine.compile? (Engine.anchored
          ((glob.source.toList.map Factor.ofChar).flatMap (Factor.spelling engine))) = some regex := by
        rw [← lawful.translate_eq]
        rwa [regex?, isEmpty, if_neg (mt String.isEmpty_iff.1 empty)] at found
      rw [found, Option.any_some, lawful.accepts expression, accepts_map_ofChar_iff]
  have decided : glob.isMatch text = true ↔
      glob.source = "" ∨ Wild glob.source.toList text.toList := by
    rw [isMatch, Bool.or_eq_true, isEmpty, String.isEmpty_iff, headD_verdicts_iff]
  exact ⟨compiled, Bool.eq_iff_iff.2 (decided.trans compiled.symm)⟩

section Rows

/-- Whether the whole of a text can be split among factors in a row. -/
def accepts : List Factor → List Char → Bool
  | [], text => text.isEmpty
  | ⟨atom, true⟩ :: factors, text =>
    (List.range (text.length + 1)).any fun n =>
      (text.take n).all atom.takes && accepts factors (text.drop n)
  | ⟨_, false⟩ :: _, [] => false
  | ⟨atom, false⟩ :: factors, c :: rest => atom.takes c && accepts factors rest

theorem accepts_iff {factors : List Factor} {text : List Char} :
    accepts factors text = true ↔ Accepts factors text := by
  induction factors generalizing text with
  | nil => simp [accepts, accepts_nil_iff]
  | cons factor factors ih =>
    obtain ⟨atom, _ | _⟩ := factor
    · rw [accepts_once_iff]
      cases text with
      | nil => simp [accepts]
      | cons c text =>
        rw [accepts, Bool.and_eq_true, ih]
        constructor
        · rintro ⟨takes, rest⟩
          exact ⟨c, text, rfl, takes, rest⟩
        · rintro ⟨_, _, same, takes, rest⟩
          obtain ⟨rfl, rfl⟩ := List.cons.inj same
          exact ⟨takes, rest⟩
    · rw [accepts_repeated_iff, accepts, List.any_eq_true]
      simp only [Bool.and_eq_true, List.all_eq_true, ih]
      constructor
      · rintro ⟨n, -, takes, rest⟩
        exact ⟨text.take n, text.drop n, (List.take_append_drop n text).symm, takes, rest⟩
      · rintro ⟨run, rest, rfl, takes, accepted⟩
        refine ⟨run.length, ?_, ?_, ?_⟩
        · rw [List.mem_range, List.length_append]
          omega
        · rwa [List.take_left]
        · rwa [List.drop_left]

/-- The characters that have a meaning in expressions. -/
def metaCharacters : List Char :=
  ['\\', '.', '+', '*', '?', '(', ')', '|', '[', ']', '{', '}', '^', '$', '#', '&', '-', '~']

/-- The atom that an expression starts with, unless something else does. -/
def atom? : List Char → Option (Atom × List Char)
  | [] => none
  | '\\' :: c :: rest => some (.literal c, rest)
  | '.' :: rest => some (.any, rest)
  | c :: rest => if metaCharacters.contains c then none else some (.literal c, rest)

theorem atom?_length_lt {text rest : List Char} {atom : Atom} (found : atom? text = some (atom, rest)) :
    rest.length < text.length := by
  unfold atom? at found
  split at found
  · simp at found
  · simp only [Option.some.injEq, Prod.mk.injEq] at found
    obtain ⟨-, rfl⟩ := found
    simp only [List.length_cons]
    omega
  · simp only [Option.some.injEq, Prod.mk.injEq] at found
    obtain ⟨-, rfl⟩ := found
    exact Nat.lt_succ_self _
  · split at found
    · simp at found
    · simp only [Option.some.injEq, Prod.mk.injEq] at found
      obtain ⟨-, rfl⟩ := found
      exact Nat.lt_succ_self _

/-- Reads factors in a row. -/
def factors? (text : List Char) : Option (List Factor) :=
  match _found : atom? text with
  | none => if text.isEmpty then some [] else none
  | some (atom, '*' :: rest) => (factors? rest).map (⟨atom, true⟩ :: ·)
  | some (atom, rest) => (factors? rest).map (⟨atom, false⟩ :: ·)
termination_by text.length
decreasing_by
  · have shorter := atom?_length_lt _found
    rw [List.length_cons] at shorter
    omega
  · exact atom?_length_lt _found

/-- A library that knows nothing but factors in a row. -/
def rowEngine : Engine where
  isMeta := metaCharacters.contains
  compile? expression := do
    let inside ← strip? ['^'] expression
    let body ← stripEnd? ['$'] inside
    return accepts (← factors? body)

theorem atom?_spelling (atom : Atom) (rest : List Char) :
    atom? (atom.spelling rowEngine ++ rest) = some (atom, rest) := by
  cases atom with
  | any => rfl
  | literal c =>
    by_cases special : rowEngine.isMeta c
    · rw [Atom.spelling, Engine.escaped, if_pos special]
      rfl
    · rw [Atom.spelling, Engine.escaped, if_neg special, List.singleton_append, atom?]
      · exact if_neg special
      · rintro _ _ rfl
        exact absurd rfl special
      · rintro rfl
        exact absurd rfl special

theorem factors?_of_star {text rest : List Char} {atom : Atom}
    (found : atom? text = some (atom, '*' :: rest)) :
    factors? text = (factors? rest).map (⟨atom, true⟩ :: ·) := by
  rw [factors?]
  split
  · rename_i nothing
    rw [found] at nothing
    contradiction
  · rename_i same
    rw [found] at same
    obtain ⟨rfl, tail⟩ := Prod.mk.inj (Option.some.inj same)
    obtain ⟨-, rfl⟩ := List.cons.inj tail
    rfl
  · rename_i other same
    rw [found] at same
    obtain ⟨-, tail⟩ := Prod.mk.inj (Option.some.inj same)
    exact absurd tail.symm (other _)

theorem factors?_of_single {text rest : List Char} {atom : Atom}
    (found : atom? text = some (atom, rest)) (single : rest.head? ≠ some '*') :
    factors? text = (factors? rest).map (⟨atom, false⟩ :: ·) := by
  rw [factors?]
  split
  · rename_i nothing
    rw [found] at nothing
    contradiction
  · rename_i same
    rw [found] at same
    obtain ⟨-, rfl⟩ := Prod.mk.inj (Option.some.inj same)
    exact absurd rfl single
  · rename_i same
    rw [found] at same
    obtain ⟨rfl, rfl⟩ := Prod.mk.inj (Option.some.inj same)
    rfl

/-- No factor starts with a star. -/
theorem spelling_starts (factor : Factor) :
    ∃ d more, Factor.spelling rowEngine factor = d :: more ∧ d ≠ '*' := by
  obtain ⟨c | _, repeated⟩ := factor
  · have isMeta : rowEngine.isMeta '*' := rfl
    obtain ⟨d, more, escaped, other⟩ := Engine.escaped_starts isMeta (by decide) c
    refine ⟨d, more ++ if repeated then ['*'] else [], ?_, other⟩
    rw [Factor.spelling, Atom.spelling, escaped, List.cons_append]
  · exact ⟨'.', _, rfl, by decide⟩

/-- What is written as factors in a row is read as these. -/
theorem factors?_spelling (factors : List Factor) :
    factors? (factors.flatMap (Factor.spelling rowEngine)) = some factors := by
  induction factors with
  | nil =>
    rw [factors?]
    rfl
  | cons factor factors ih =>
    have single : (factors.flatMap (Factor.spelling rowEngine)).head? ≠ some '*' := by
      cases factors with
      | nil => simp
      | cons next factors =>
        obtain ⟨d, more, piece, other⟩ := spelling_starts next
        rw [List.flatMap_cons, piece]
        exact fun same => other (Option.some.inj same)
    obtain ⟨atom, _ | _⟩ := factor
    · have found := atom?_spelling atom (factors.flatMap (Factor.spelling rowEngine))
      rw [List.flatMap_cons, Factor.spelling, if_neg Bool.false_ne_true, List.append_nil,
        factors?_of_single found single, ih]
      rfl
    · have found := atom?_spelling atom ('*' :: factors.flatMap (Factor.spelling rowEngine))
      rw [List.flatMap_cons, Factor.spelling, if_pos rfl, List.append_assoc, List.singleton_append,
        factors?_of_star found, ih]
      rfl

theorem rowEngine_lawful : rowEngine.Lawful where
  backslash := rfl
  star := rfl
  mark := rfl
  accepts := by
    intro factors regex compiled text
    have body (inside : List Char) : stripEnd? ['$'] (inside ++ ['$']) = some inside := by
      simp [stripEnd?, strip?]
    have whole : rowEngine.compile? (Engine.anchored (factors.flatMap (Factor.spelling rowEngine))) =
        some (accepts factors) := by
      change ((stripEnd? ['$'] _).bind fun body => (factors? body).bind fun factors =>
        some (accepts factors)) = _
      rw [body, Option.bind_some, factors?_spelling, Option.bind_some]
    obtain rfl := Option.some.inj (whole.symm.trans compiled)
    exact accepts_iff

end Rows

/-- A backslash in front of a wildcard is a character of its own, and so is a dot. -/
theorem isMatchBy_iff_wild_backslash :
    let glob : Glob := ⟨"\\*.k?"⟩
    rowEngine.Lawful ∧ (glob.source ≠ "" → glob.regex? rowEngine ≠ none) ∧
      glob.isMatchBy rowEngine "\\one\n.\u212a!" = true ∧
      glob.isMatchBy rowEngine "one.k!" = false ∧ glob.isMatchBy rowEngine "\\one+k!" = false := by
  intro glob
  have compiles : glob.source ≠ "" → glob.regex? rowEngine ≠ none := by
    intro _
    rw [← Option.isSome_iff_ne_none]
    decide +kernel
  have same (text : String) : glob.isMatchBy rowEngine text = glob.isMatch text :=
    (isMatchBy_iff_wild rowEngine_lawful glob compiles text).2.symm
  refine ⟨rowEngine_lawful, compiles, ?_, ?_, ?_⟩
  · exact (same _).trans (by decide +kernel)
  · exact (same _).trans (by decide +kernel)
  · exact (same _).trans (by decide +kernel)

end Glob

end TitleBar
