import TitleBar.Proofs.Template.Cursor

/-! # Scans advance and end

A scan by index finds the end of a body where the search with a stack of braces finds it: what the scan
leaps over as a whole, the search goes through with the braces of that construct on its stack. So a scan
that starts at an opening brace never counts below zero, and wherever a scan starts, it comes to an end
that lies behind its start and within the text.
-/

namespace TitleBar.Template.Cursor

open Text

/-! ## The search for a closing brace -/

section Leaps

variable {text behind rest : List Char} {glued : Bool} {c : Char}

theorem exists_of_leap? (found : leap? glued (c :: behind) = some rest) :
    ∃ opening after, scanOpening? glued (c :: behind) = some (opening, after) ∧ leaps opening ∧
      (cutConstruct opening after).rest = rest := by
  obtain ⟨⟨opening, after⟩, opened, same⟩ := Option.bind_eq_some_iff.1 found
  obtain ⟨leaps, same⟩ := Option.ite_none_right_eq_some.1 same
  exact ⟨opening, after, opened, leaps, Option.some.inj same⟩

theorem leap?_suffix (found : leap? glued (c :: behind) = some rest) : rest <:+ behind := by
  obtain ⟨opening, after, opened, -, rfl⟩ := exists_of_leap? found
  exact (cutConstruct_suffix ..).trans (scanOpening?_suffix opened)

theorem scanDollar_silent (silent : leaps (scanDollar behind).1 = false) :
    (scanDollar behind).2 = behind := by
  rcases behind with _ | ⟨d, behind⟩
  · rfl
  by_cases brace : d = '{'
  · subst brace
    contradiction
  rw [scanDollar_cons brace] at silent ⊢
  split
  · rfl
  · rename_i letter
    rw [if_neg letter] at silent
    split
    · rfl
    · rename_i tag after found
      rw [found] at silent
      replace silent : leaps (dollarTag tag after).1 = false := silent
      revert silent
      fun_cases dollarTag tag after <;>
      · intro silent
        cases silent

theorem exists_present_of_scanQuestion? {opening : Opening}
    (found : scanQuestion? behind = some (opening, rest)) : ∃ tag, opening = .present tag := by
  unfold scanQuestion? at found
  split at found
  · obtain ⟨rfl, -⟩ := Prod.mk.inj (Option.some.inj found)
    exact ⟨_, rfl⟩
  · contradiction

/-- What a `$` shows as the value of a tag is followed by what follows the tag. -/
theorem scanTag?_of_value {tag after : List Char} (opened : scanDollar behind = (.value tag, after)) :
    ∃ tag, scanTag? behind = some (tag, after) := by
  by_cases brace : behind.head? = some '{'
  · obtain ⟨inside, rfl⟩ := List.head?_eq_some_iff.1 brace
    cases opened
  · rcases scanDollar_eq brace with ⟨silent, -⟩ | ⟨silent, -⟩ | ⟨tag', after', found, same⟩
    · rw [opened] at silent
      contradiction
    · rw [opened] at silent
      contradiction
    · rw [opened] at same
      revert same
      fun_cases dollarTag tag' after' with
      | case1 | case2 =>
        intro same
        cases same
      | case3 =>
        intro same
        obtain ⟨-, rfl⟩ := Prod.mk.inj same
        exact ⟨tag', found⟩

/-- Behind a construct there is no `i` that could continue a word. -/
theorem gluedAt_cutConstruct {opening : Opening} {after : List Char} (ends : c :: behind <:+ text)
    (opened : scanOpening? glued (c :: behind) = some (opening, after)) :
    gluedAt text (position text (cutConstruct opening after).rest) = false ∨
      (cutConstruct opening after).rest.head? ≠ some 'i' := by
  have behindEnds : behind <:+ text := (List.suffix_cons c behind).trans ends
  rcases cutConstruct_ends opening after with none | closed | ⟨noBrace, same⟩
  · right
    simp [none]
  · left
    exact gluedAt_position (closed.trans ((scanOpening?_suffix opened).trans behindEnds))
  -- What leaves no brace open is the value of a tag, or a `$` on its own.
  rw [same]
  rcases scanOpening?_head opened with rfl | rfl | rfl
  · have shape : scanDollar behind = (opening, after) := Option.some.inj opened
    by_cases leap : leaps opening
    · obtain ⟨tag, rfl⟩ : ∃ tag, opening = .value tag := by
        cases opening <;> first | exact ⟨_, rfl⟩ | contradiction
      obtain ⟨_, tagged⟩ := scanTag?_of_value shape
      rcases scanTag?_ends tagged with other | closes
      · exact .inr other
      · left
        exact gluedAt_position (closes.trans behindEnds)
    · have silent : leaps (scanDollar behind).1 = false := by
        rw [shape]
        exact Bool.eq_false_iff.2 leap
      have stays := scanDollar_silent silent
      rw [shape] at stays
      left
      rw [show after = behind from stays, gluedAt_position ends]
      rfl
  · obtain ⟨_, rfl⟩ := exists_present_of_scanQuestion? opened
    contradiction
  · have header : (if glued then none else scanIf? behind) = some (opening, after) := opened
    obtain ⟨-, header⟩ := Option.ite_none_left_eq_some.1 header
    obtain ⟨_, rfl⟩ := exists_branch_of_scanIf? header
    contradiction

/-- A search goes on behind a construct that is stepped over as a whole. -/
theorem closing?_of_leap (found : leap? glued (c :: behind) = some rest) (brace : Brace)
    (outer : List Brace) :
    closing? (brace :: outer) glued (c :: behind) = closing? (brace :: outer) false rest := by
  obtain ⟨opening, after, opened, -, rfl⟩ := exists_of_leap? found
  rw [closing?_of_step (.construct opened), List.append_assoc, List.singleton_append, closing?_leap]

/-- A character at which nothing is stepped over is stepped over itself. -/
theorem closing?_of_stay {brace : Brace} (noEscape : c ≠ '\\') (noOpening : c ≠ '{')
    (noClosing : c ≠ '}') (noQuote : ¬(brace.quotes ∧ c = '"'))
    (none : leap? glued (c :: behind) = none) (outer : List Brace) :
    closing? (brace :: outer) glued (c :: behind) = closing? (brace :: outer) (glues c) behind := by
  rcases opened : scanOpening? glued (c :: behind) with _ | ⟨opening, after⟩
  · exact closing?_of_step (.plain noEscape noOpening noClosing noQuote opened) outer
  have silent : leaps opening = false := by
    by_contra leaps
    rw [leap?, opened] at none
    simp [leaps] at none
  rcases scanOpening?_head opened with rfl | rfl | rfl
  · have shape : scanDollar behind = (opening, after) := Option.some.inj opened
    have same : (scanDollar behind).2 = behind := scanDollar_silent (by rwa [shape])
    have unbraced : opening.brace? = Option.none := by
      cases opening <;> first | rfl | contradiction
    rw [shape] at same
    rw [closing?_of_step (.construct opened), unbraced]
    exact congrArg (closing? (brace :: outer) false) same
  · obtain ⟨_, rfl⟩ := exists_present_of_scanQuestion? opened
    contradiction
  · have header : (if glued then Option.none else scanIf? behind) = some (opening, after) := opened
    obtain ⟨-, header⟩ := Option.ite_none_left_eq_some.1 header
    obtain ⟨_, rfl⟩ := exists_branch_of_scanIf? header
    contradiction

end Leaps

section Bodies

variable {text behind : List Char} {fuel depth : ℕ} {quotes : Bool} {c : Char}

/-- A scan of an end of a text finds the brace that closes all open ones, as the search does with a stack
of them. -/
def FindsAt (text : List Char) (fuel : ℕ) (quotes : Bool) (depth : ℕ) (rest : List Char) : Prop :=
  bodyEnd text fuel quotes (depth + 1) (position text rest) =
    pure ((closing? (List.replicate (depth + 1) (closer quotes)) (gluedAt text (position text rest))
      rest).map fun after => position text ('}' :: after))

/-- With so many steps every scan finds what the search finds. -/
def Finds (text : List Char) (fuel : ℕ) : Prop :=
  ∀ quotes depth rest, rest <:+ text → rest.length < fuel → FindsAt text fuel quotes depth rest

theorem closer_inner (quotes : Bool) : (closer quotes).inner = closer quotes := by
  cases quotes <;> rfl

theorem closer_quotes (quotes : Bool) : (closer quotes).quotes = quotes := by
  cases quotes <;> rfl

theorem closer_ne_first (quotes : Bool) : closer quotes ≠ .first := by
  cases quotes <;> exact nofun

/-- A body is one step longer than what stands behind its brace. -/
theorem closes_succ (finds : Finds text fuel) (ends : behind <:+ text) (enough : behind.length ≤ fuel) :
    Closes text behind fun quotes => bodyEnd text (fuel + 1) quotes 0 := by
  intro quotes inside within
  have braceEnds := within.trans ends
  have shorter := within.length_le
  rw [List.length_cons] at shorter
  have finds' := finds quotes 0 inside ((List.suffix_cons '{' inside).trans braceEnds) (by omega)
  change bodyEnd text (fuel + 1) quotes 0 _ = _
  rw [bodyEnd.eq_def]
  simp only [getElem?_position braceEnds, List.head?_cons, position_succ braceEnds]
  rw [finds', gluedAt_position braceEnds, close?, Option.map_map]
  rfl

/-- A scan and the search go on with the same braces open and come to the same place. -/
theorem FindsAt.of_step {after : List Char} (finds : FindsAt text fuel quotes depth after)
    (steps : bodyEnd text (fuel + 1) quotes (depth + 1) (position text (c :: behind)) =
      bodyEnd text fuel quotes (depth + 1) (position text after))
    (goes : closing? (closer quotes :: List.replicate depth (closer quotes))
        (gluedAt text (position text (c :: behind))) (c :: behind) =
      closing? (closer quotes :: List.replicate depth (closer quotes))
        (gluedAt text (position text after)) after) :
    FindsAt text (fuel + 1) quotes depth (c :: behind) := by
  rw [FindsAt, steps, finds, List.replicate_succ, goes]

theorem findsAt_escape (finds : Finds text fuel) (ends : '\\' :: behind <:+ text)
    (enough : behind.length < fuel) : FindsAt text (fuel + 1) quotes depth ('\\' :: behind) := by
  have behindEnds : behind <:+ text := (List.suffix_cons '\\' behind).trans ends
  rcases behind with _ | ⟨d, behind⟩
  · obtain ⟨left, rfl⟩ : ∃ left, fuel = left + 1 := ⟨fuel - 1, by simp at enough; omega⟩
    rw [FindsAt, bodyEnd.eq_def]
    simp only [getElem?_position ends, List.head?_cons, bodyEnd.eq_def text (left + 1),
      getElem?_beyond ends]
    rw [List.replicate_succ, closing?.eq_def]
    rfl
  · rw [List.length_cons] at enough
    have restEnds : behind <:+ text := (List.suffix_cons d behind).trans behindEnds
    refine (finds quotes depth behind restEnds (by omega)).of_step ?_ ?_
    · rw [bodyEnd.eq_def]
      simp only [getElem?_position ends, List.head?_cons, position_add_two ends]
    · rw [gluedAt_position behindEnds, closing?_of_step (.escaped d behind)]
      rfl

theorem findsAt_opening (finds : Finds text fuel) (ends : '{' :: behind <:+ text)
    (enough : behind.length < fuel) : FindsAt text (fuel + 1) quotes depth ('{' :: behind) := by
  have deeper := finds quotes (depth + 1) behind ((List.suffix_cons '{' behind).trans ends) enough
  rw [FindsAt, bodyEnd.eq_def]
  simp only [getElem?_position ends, List.head?_cons, position_succ ends]
  rw [deeper, gluedAt_position ends, List.replicate_succ (n := depth), closing?_of_step (.opened behind),
    closer_inner]
  rfl

theorem findsAt_closing (finds : Finds text fuel) (ends : '}' :: behind <:+ text)
    (enough : behind.length < fuel) : FindsAt text (fuel + 1) quotes depth ('}' :: behind) := by
  rw [FindsAt, bodyEnd.eq_def]
  simp only [getElem?_position ends, List.head?_cons]
  rw [List.replicate_succ, closing?_of_step (.closed fun first => absurd first (closer_ne_first quotes)),
    List.nil_append]
  rcases depth with _ | depth
  · rw [List.replicate_zero, closing?_nil]
    rfl
  · have outer := finds quotes depth behind ((List.suffix_cons '}' behind).trans ends) enough
    simp only [position_succ ends]
    rw [outer, gluedAt_position ends]
    rfl

theorem findsAt_quote (finds : Finds text fuel) (ends : '"' :: behind <:+ text)
    (enough : behind.length < fuel) : FindsAt text (fuel + 1) true depth ('"' :: behind) := by
  have behindEnds : behind <:+ text := (List.suffix_cons '"' behind).trans ends
  have scans := quoteEndAt_position fuel behindEnds enough
  rcases found : quoteEnd? behind with _ | after
  · rw [FindsAt, bodyEnd.eq_def]
    simp only [getElem?_position ends, List.head?_cons, Bool.true_and, position_succ ends, scans,
      pure_bind, found, Option.map_none]
    rw [List.replicate_succ, closing?_cons (by decide) (by decide) (by decide), if_pos (by rfl), found]
    rfl
  · have quoteEnds := quoteEnd?_quote found
    have within : after <:+ behind := (List.suffix_cons '"' after).trans quoteEnds
    have shorter := within.length_le
    refine (finds true depth after (within.trans behindEnds) (by omega)).of_step ?_ ?_
    · rw [bodyEnd.eq_def]
      simp only [getElem?_position ends, List.head?_cons, Bool.true_and, position_succ ends, scans,
        pure_bind, found, Option.map_some, position_succ (quoteEnds.trans behindEnds)]
      rfl
    · rw [gluedAt_position (quoteEnds.trans behindEnds), closing?_of_step (.quoted rfl found)]
      rfl

theorem findsAt_unit (finds : Finds text fuel) (ends : c :: behind <:+ text)
    (enough : behind.length < fuel) (closes : Closes text behind fun quotes => bodyEnd text fuel quotes 0)
    (noEscape : c ≠ '\\') (noOpening : c ≠ '{') (noClosing : c ≠ '}')
    (noQuote : ¬(quotes ∧ c = '"')) : FindsAt text (fuel + 1) quotes depth (c :: behind) := by
  have behindEnds : behind <:+ text := (List.suffix_cons c behind).trans ends
  have unquoted : (quotes && c == '"') = false := by
    simpa using noQuote
  have unit := unitEnd_position ends closes
  rcases found : leap? (gluedAt text (position text (c :: behind))) (c :: behind) with _ | after
  · refine (finds quotes depth behind behindEnds enough).of_step ?_ ?_
    · rw [bodyEnd.eq_def]
      simp only [getElem?_position ends, List.head?_cons, unquoted, unit, pure_bind, found,
        Option.map_none, position_succ ends]
      rfl
    · rw [gluedAt_position ends]
      exact closing?_of_stay noEscape noOpening noClosing (by rwa [closer_quotes]) found _
  · have within := leap?_suffix found
    have shorter := within.length_le
    refine (finds quotes depth after (within.trans behindEnds) (by omega)).of_step ?_ ?_
    · rw [bodyEnd.eq_def]
      simp only [getElem?_position ends, List.head?_cons, unquoted, unit, pure_bind, found,
        Option.map_some]
      rfl
    · rw [closing?_of_leap found]
      obtain ⟨opening, rest, opened, -, rfl⟩ := exists_of_leap? found
      rcases gluedAt_cutConstruct ends opened with unglued | other
      · rw [unglued]
      · exact closing?_of_head other ..

/-- With one step more a scan finds what the search finds, at whatever character it stands. -/
theorem finds_succ (finds : Finds text fuel)
    (closes : ∀ behind, behind <:+ text → behind.length < fuel →
      Closes text behind fun quotes => bodyEnd text fuel quotes 0) : Finds text (fuel + 1) := by
  intro quotes depth rest ends enough
  rcases rest with _ | ⟨c, behind⟩
  · rw [FindsAt, bodyEnd.eq_def]
    simp only [getElem?_position ends]
    rw [List.replicate_succ, closing?_cons_nil]
    rfl
  rw [List.length_cons, Nat.add_lt_add_iff_right] at enough
  by_cases escape : c = '\\'
  · subst escape
    exact findsAt_escape finds ends enough
  by_cases opens : c = '{'
  · subst opens
    exact findsAt_opening finds ends enough
  by_cases closing : c = '}'
  · subst closing
    exact findsAt_closing finds ends enough
  by_cases quote : quotes ∧ c = '"'
  · obtain ⟨rfl, rfl⟩ := quote
    exact findsAt_quote finds ends enough
  · have behindEnds : behind <:+ text := (List.suffix_cons c behind).trans ends
    exact findsAt_unit finds ends enough (closes behind behindEnds enough) escape opens closing quote

/-- A scan finds what the search finds. -/
theorem finds_and_closes (text : List Char) (fuel : ℕ) :
    Finds text fuel ∧ ∀ behind, behind <:+ text → behind.length < fuel →
      Closes text behind fun quotes => bodyEnd text fuel quotes 0 := by
  induction fuel with
  | zero => exact ⟨nofun, nofun⟩
  | succ fuel ih =>
    obtain ⟨finds, closes⟩ := ih
    refine ⟨finds_succ finds closes, ?_⟩
    intro behind ends enough
    exact closes_succ finds ends (by omega)

end Bodies

/-! ## Ranges -/

section Ranges

variable {text : List Char} {fuel i : ℕ}

theorem closes_of_lt (text : List Char) {fuel : ℕ} {behind : List Char} (ends : behind <:+ text)
    (enough : behind.length < fuel) : Closes text behind fun quotes => bodyEnd text fuel quotes 0 :=
  (finds_and_closes text fuel).2 behind ends enough

/-- Where a character stands, an end of the text starts. -/
theorem exists_suffix {c : Char} (stands : text[i]? = some c) :
    ∃ behind, c :: behind <:+ text ∧ i = position text (c :: behind) := by
  obtain ⟨inside, same⟩ := List.getElem?_eq_some_iff.1 stands
  refine ⟨text.drop (i + 1), ?_, ?_⟩
  · rw [← same, List.getElem_cons_drop]
    exact List.drop_suffix i text
  · rw [← same, List.getElem_cons_drop, position_drop (by omega)]

/-- A quoted run that starts anywhere ends behind its start. -/
theorem quoteEndAt_advances (enough : text.length - i < fuel) :
    ∃ found, quoteEndAt text fuel i = pure found ∧ ∀ j ∈ found, i ≤ j := by
  rcases le_or_gt i text.length with inside | outside
  · have ends := List.drop_suffix i text
    have read := quoteEndAt_position fuel ends (by rwa [List.length_drop])
    rw [position_drop inside] at read
    refine ⟨_, read, ?_⟩
    intro j member
    obtain ⟨after, found, rfl⟩ := Option.map_eq_some_iff.1 member
    have shorter := (quoteEnd?_quote found).length_le
    rw [List.length_drop] at shorter
    rw [position]
    omega
  · refine ⟨none, ?_, by simp⟩
    obtain ⟨fuel, rfl⟩ : ∃ left, fuel = left + 1 := ⟨fuel - 1, by omega⟩
    rw [quoteEndAt, List.getElem?_eq_none outside.le]

/-- The construct at an index ends behind it. -/
theorem unitEnd_advances {close : Bool → CloseAt}
    (closes : ∀ behind, behind <:+ text → behind.length < text.length - i → Closes text behind close) :
    ∃ found, unitEnd close text i = pure found ∧ ∀ j ∈ found, i < j ∧ j ≤ text.length := by
  rcases stands : text[i]? with _ | c
  · refine ⟨none, ?_, by simp⟩
    rw [unitEnd, stands]
  obtain ⟨behind, ends, rfl⟩ := exists_suffix stands
  have behindEnds : behind <:+ text := (List.suffix_cons c behind).trans ends
  have shorter := ends.length_le
  rw [List.length_cons] at shorter
  have within : behind.length < text.length - position text (c :: behind) := by
    rw [position, List.length_cons]
    omega
  refine ⟨_, unitEnd_position ends (closes behind behindEnds within), ?_⟩
  intro j member
  obtain ⟨rest, found, rfl⟩ := Option.map_eq_some_iff.1 member
  exact ⟨position_lt ends (leap?_suffix found), position_le ..⟩

/-- With more steps than there are characters left no scan runs out of them, wherever it starts. A scan
that starts at no brace may come to a closing one that it has not seen opened; nothing else can stop it
early. -/
theorem bodyEnd_ends (quotes : Bool) (depth : ℕ) (enough : text.length - i < fuel) :
    bodyEnd text fuel quotes depth i = throw .unbalanced ∨
      ∃ found, bodyEnd text fuel quotes depth i = pure found := by
  induction fuel generalizing depth i with
  | zero => contradiction
  | succ fuel ih =>
    rw [bodyEnd.eq_def]
    rcases stands : text[i]? with _ | c
    · right
      exact ⟨none, by simp only [stands]⟩
    obtain ⟨inside, -⟩ := List.getElem?_eq_some_iff.1 stands
    simp only [stands]
    split
    case h_1 => contradiction
    case h_2 => exact ih depth (by omega)
    case h_3 => exact ih (depth + 1) (by omega)
    case h_4 =>
      rcases depth with _ | _ | depth
      · exact .inl rfl
      · exact .inr ⟨some i, rfl⟩
      · exact ih (depth + 1) (by omega)
    case h_5 =>
      split
      · have within : text.length - (i + 1) < fuel := by omega
        obtain ⟨found, read, behind⟩ := quoteEndAt_advances within
        rw [read, pure_bind]
        rcases found with _ | final
        · exact .inr ⟨none, rfl⟩
        · have onward : i + 1 ≤ final := behind final rfl
          exact ih depth (by omega)
      · have closes (behind : List Char) (ends : behind <:+ text)
            (within : behind.length < text.length - i) :
            Closes text behind fun quotes => bodyEnd text fuel quotes 0 :=
          closes_of_lt text ends (by omega)
        obtain ⟨found, read, behind⟩ := unitEnd_advances closes
        rw [read, pure_bind]
        rcases found with _ | stop
        · exact ih depth (by omega)
        · have onward : i < stop := (behind stop rfl).1
          exact ih depth (by omega)

/-- A scan that starts at a brace never counts below zero: it finds what the search finds. -/
theorem bodyEnd_brace (quotes : Bool) (enough : text.length - i < fuel) (stands : text[i]? = some '{') :
    bodyEnd text fuel quotes 0 i =
      pure ((close? (closer quotes) (text.drop (i + 1))).map fun closed =>
        position text ('}' :: closed.rest)) := by
  obtain ⟨inside, ends, rfl⟩ := exists_suffix stands
  have short : ('{' :: inside).length < fuel := by
    have shorter := ends.length_le
    rw [position] at enough
    omega
  rw [position_succ ends, drop_position ((List.suffix_cons '{' inside).trans ends)]
  exact closes_of_lt text ends short quotes inside (List.suffix_refl _)

/-- The brace that a search finds lies behind the one that it starts at. -/
theorem position_close? {brace : Brace} {closed : Closed}
    (found : close? brace (text.drop (i + 1)) = some closed) :
    i < position text ('}' :: closed.rest) ∧ position text ('}' :: closed.rest) < text.length ∧
      text[position text ('}' :: closed.rest)]? = some '}' := by
  have within := close?_suffix found
  have ends := within.trans (List.drop_suffix (i + 1) text)
  have shorter := within.length_le
  rw [List.length_drop, List.length_cons] at shorter
  refine ⟨?_, ?_, by rw [getElem?_position ends, List.head?_cons]⟩
  · rw [position, List.length_cons]
    omega
  · rw [position, List.length_cons]
    omega

/-- What is stepped over as a whole at an index ends behind it. -/
theorem constructEnd_advances (enough : text.length - i < fuel) :
    ∃ found, constructEnd (bodyEnd text fuel false 0) text i = pure found ∧
      ∀ j ∈ found, i < j ∧ j ≤ text.length := by
  by_cases sign : text[i]? = some '$' ∨ text[i]? = some '?'
  · have closes (behind : List Char) (ends : behind <:+ text) (within : behind.length < text.length - i) :
        Closes text behind fun quotes => bodyEnd text fuel quotes 0 :=
      closes_of_lt text ends (by omega)
    have unit : unitEnd (fun quotes => bodyEnd text fuel quotes 0) text i =
        constructEnd (bodyEnd text fuel false 0) text i := by
      rcases sign with stands | stands <;> simp only [unitEnd, stands]
    rw [← unit]
    exact unitEnd_advances closes
  · refine ⟨none, ?_, by simp⟩
    rw [constructEnd]
    split <;> simp_all

/-- The conditional whose header stands anywhere ends behind it. -/
theorem parseIf_advances (enough : text.length - i < fuel) :
    ∃ found, parseIf (bodyEnd text fuel true 0) text i = pure found ∧
      ∀ construct ∈ found, i < construct.stop ∧ construct.stop ≤ text.length := by
  rcases le_or_gt (i + 2) text.length with inside | outside
  · have ends := List.drop_suffix (i + 2) text
    have short : (text.drop (i + 2)).length < fuel := by
      rw [List.length_drop]
      omega
    refine ⟨_, parseIf_position ends (position_drop inside).symm (closes_of_lt text ends short), ?_⟩
    intro construct member
    obtain ⟨⟨opening, after⟩, found, rfl⟩ := Option.map_eq_some_iff.1 member
    rw [IfConstruct.ofCut_stop]
    refine ⟨?_, position_le ..⟩
    change i < position text (cutConstruct opening after).rest
    have shorter := ((cutConstruct_suffix opening after).trans (scanIf?_suffix found)).length_le
    rw [List.length_cons, List.length_drop] at shorter
    rw [position]
    omega
  · refine ⟨none, ?_, by simp⟩
    have blank : skipBlanks text (i + 2) = i + 2 := by
      rw [skipBlanks, List.drop_eq_nil_of_le outside.le]
      rfl
    have nothing : text[i + 2]? = none := List.getElem?_eq_none outside.le
    rw [parseIf, blank, nothing]
    rfl

end Ranges

end TitleBar.Template.Cursor
