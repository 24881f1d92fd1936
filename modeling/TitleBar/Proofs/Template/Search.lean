import TitleBar.Proofs.Template.Lookahead
import TitleBar.Template.Syntax
import Mathlib.Logic.Relation

/-! # The search for a closing brace, step by step

The search walks a text with a stack of open braces. Here it is a sequence of single steps, so that
the places that it comes to have a name. A step reads and replaces the innermost brace only, so a
search goes the same way whatever braces are open around those that it started with; and it goes the
same way on a text that is cut off in front of a closing brace, as long as it does not go past it.
-/

namespace TitleBar.Template

open Text

section Suffixes

theorem quoteEnd?_suffix {text rest : List Char} (found : quoteEnd? text = some rest) :
    rest <:+ text := by
  fun_induction quoteEnd? text with
  | case1 => simp at found
  | case2 c text ih => exact ((ih found).trans (List.suffix_cons ..)).trans (List.suffix_cons ..)
  | case3 text => obtain rfl := Option.some.inj found; exact List.suffix_cons ..
  | case4 c text _ _ ih => exact (ih found).trans (List.suffix_cons ..)

theorem scanElse?_suffix {text rest : List Char} (found : scanElse? text = some rest) :
    rest <:+ text := by
  simp only [scanElse?, Option.bind_eq_bind, Option.bind_eq_some_iff] at found
  obtain ⟨behind, word, braced⟩ := found
  exact (strip?_suffix braced).trans ((trimStart_suffix behind).trans
    ((strip?_suffix word).trans (trimStart_suffix text)))

theorem scanTag?_suffix {text tag rest : List Char} (found : scanTag? text = some (tag, rest)) :
    rest <:+ text := ⟨tag, scanTag?_eq_some found⟩

theorem dollarTag_suffix (tag after : List Char) : (dollarTag tag after).2 <:+ after := by
  unfold dollarTag
  split
  · exact ⟨['?', '{'], rfl⟩
  · exact ⟨['!', '{'], rfl⟩
  · exact List.suffix_refl _

theorem scanDollar_suffix (text : List Char) : (scanDollar text).2 <:+ text := by
  rcases text with _ | ⟨c, text⟩
  · exact List.suffix_refl _
  by_cases opens : c = '{'
  · subst opens
    exact List.suffix_cons ..
  rw [scanDollar_cons opens]
  split
  · exact List.suffix_refl _
  · split
    · exact List.suffix_refl _
    · rename_i tagged
      exact (dollarTag_suffix ..).trans (scanTag?_suffix tagged)

theorem scanQuestion?_suffix {text rest : List Char} {opening : Opening}
    (found : scanQuestion? text = some (opening, rest)) : rest <:+ text := by
  unfold scanQuestion? at found
  split at found
  · rename_i tagged
    obtain ⟨-, rfl⟩ := Prod.mk.inj (Option.some.inj found)
    exact (List.suffix_cons ..).trans (scanTag?_suffix tagged)
  · simp at found

theorem scanIf?_suffix {text rest : List Char} {opening : Opening}
    (found : scanIf? text = some (opening, rest)) : rest <:+ text := by
  simp only [scanIf?, Option.bind_eq_bind, Option.bind_eq_some_iff] at found
  obtain ⟨afterWord, word, inside, opened, behind, closed, body, braced, final⟩ := found
  split at final
  · simp at final
  · obtain ⟨-, rfl⟩ := Prod.mk.inj (Option.some.inj final)
    exact (strip?_suffix braced).trans ((trimStart_suffix behind).trans
      ((strip?_suffix closed).trans ((List.dropWhile_suffix _).trans
        ((strip?_suffix opened).trans ((trimStart_suffix afterWord).trans (strip?_suffix word))))))

theorem scanOpening?_suffix {glued : Bool} {c : Char} {text rest : List Char} {opening : Opening}
    (found : scanOpening? glued (c :: text) = some (opening, rest)) : rest <:+ text := by
  unfold scanOpening? at found
  split at found
  · rename_i same
    obtain ⟨-, rfl⟩ := List.cons.inj same
    have := scanDollar_suffix text
    rwa [Option.some.inj found] at this
  · rename_i same
    obtain ⟨-, rfl⟩ := List.cons.inj same
    exact scanQuestion?_suffix found
  · rename_i same
    obtain ⟨-, rfl⟩ := List.cons.inj same
    split at found
    · simp at found
    · exact scanIf?_suffix found
  · simp at found

end Suffixes

/-- A step of a search at the innermost open brace: what it reads, the braces that stand in the place
of that one afterwards, whether the next character continues a word, and the text that is left. -/
inductive Step (brace : Brace) (glued : Bool) : List Char → List Brace → Bool → List Char → Prop
  /-- A character behind a backslash counts for nothing. -/
  | escaped (c : Char) (rest : List Char) :
    Step brace glued ('\\' :: c :: rest) [brace] (glues c) rest
  | opened (rest : List Char) : Step brace glued ('{' :: rest) [brace.inner, brace] false rest
  | closed {rest : List Char} (last : brace = .first → scanElse? rest = none) :
    Step brace glued ('}' :: rest) [] false rest
  /-- The branch of an `else` takes the place of the first one. -/
  | other {rest inside : List Char} (first : brace = .first) (found : scanElse? rest = some inside) :
    Step brace glued ('}' :: rest) [.structural] false inside
  /-- A quoted run is stepped over. -/
  | quoted {rest after : List Char} (quotes : brace.quotes) (found : quoteEnd? rest = some after) :
    Step brace glued ('"' :: rest) [brace] false after
  /-- A construct leaves its own brace open, if it has one. -/
  | construct {c : Char} {rest after : List Char} {opening : Opening}
    (found : scanOpening? glued (c :: rest) = some (opening, after)) :
    Step brace glued (c :: rest) (opening.brace?.toList ++ [brace]) false after
  | plain {c : Char} {rest : List Char} (noEscape : c ≠ '\\') (noOpening : c ≠ '{')
    (noClosing : c ≠ '}') (noQuote : ¬(brace.quotes ∧ c = '"'))
    (noConstruct : scanOpening? glued (c :: rest) = none) :
    Step brace glued (c :: rest) [brace] (glues c) rest

/-- A search on its way. -/
structure Search where
  /-- The braces that are open, the innermost first. -/
  stack : List Brace
  /-- Whether the next character continues a word. -/
  glued : Bool
  /-- The text that is left. -/
  text : List Char
deriving DecidableEq, Repr

namespace Search

/-- A search takes a step at its innermost brace. -/
inductive Next : Search → Search → Prop
  | step {brace : Brace} {outer braces : List Brace} {glued glued' : Bool} {text text' : List Char}
    (step : Step brace glued text braces glued' text') :
    Next ⟨brace :: outer, glued, text⟩ ⟨braces ++ outer, glued', text'⟩

/-- A search comes to another one. -/
def Reaches : Search → Search → Prop := Relation.ReflTransGen Next

end Search

theorem scanOpening?_head {glued : Bool} {c : Char} {text rest : List Char} {opening : Opening}
    (found : scanOpening? glued (c :: text) = some (opening, rest)) :
    c = '$' ∨ c = '?' ∨ c = 'i' := by
  unfold scanOpening? at found
  split at found <;> simp_all

theorem closing?_nil (glued : Bool) (text : List Char) : closing? [] glued text = some text := by
  rw [closing?.eq_def]

theorem closing?_cons_nil (brace : Brace) (outer : List Brace) (glued : Bool) :
    closing? (brace :: outer) glued [] = none := by
  rw [closing?.eq_def]

/-- The search at a character that is neither a brace nor a backslash. -/
theorem closing?_cons {brace : Brace} {c : Char} (noEscape : c ≠ '\\') (noOpening : c ≠ '{')
    (noClosing : c ≠ '}') (outer : List Brace) (glued : Bool) (rest : List Char) :
    closing? (brace :: outer) glued (c :: rest) =
      if brace.quotes && c == '"' then
        (quoteEnd? rest).bind fun after => closing? (brace :: outer) false after
      else match scanOpening? glued (c :: rest) with
        | some (opening, after) => closing? (opening.brace?.toList ++ brace :: outer) false after
        | none => closing? (brace :: outer) (glues c) rest := by
  rw [closing?.eq_def]
  simp only
  split
  · simp_all
  · simp_all
  · simp_all
  · simp_all
  · simp_all
  · rename_i same
    obtain ⟨rfl, rfl⟩ := List.cons.inj same
    split
    · split
      · rename_i found
        rw [found, Option.bind_some]
      · rename_i found
        rw [found, Option.bind_none]
    · split
      · rename_i found
        rw [found]
      · rename_i found
        rw [found]

/-- The recursion of the search follows its steps. -/
theorem closing?_of_step {brace : Brace} {braces : List Brace} {glued glued' : Bool}
    {text text' : List Char} (step : Step brace glued text braces glued' text')
    (outer : List Brace) :
    closing? (brace :: outer) glued text = closing? (braces ++ outer) glued' text' := by
  cases step with
  | escaped c rest => rw [closing?.eq_def]; rfl
  | opened rest => rw [closing?.eq_def]; rfl
  | closed last =>
    rw [closing?.eq_def]
    simp only
    split
    · rename_i found
      rw [last rfl] at found
      contradiction
    · rfl
  | other first found =>
    subst first
    rw [closing?.eq_def]
    simp only
    split
    · rename_i found'
      rw [found] at found'
      rw [Option.some.inj found']
      rfl
    · rename_i none
      exact (none _ rfl found).elim
  | quoted quotes found =>
    rw [closing?_cons (by decide) (by decide) (by decide), if_pos (by simp [quotes]), found]
    rfl
  | @construct c rest after opening found =>
    have start := scanOpening?_head found
    have noQuote : ¬(brace.quotes && c == '"') = true := by
      rcases start with rfl | rfl | rfl <;> simp
    rw [closing?_cons (by rcases start with rfl | rfl | rfl <;> decide)
      (by rcases start with rfl | rfl | rfl <;> decide)
      (by rcases start with rfl | rfl | rfl <;> decide), if_neg noQuote, found]
    simp only [List.append_assoc, List.singleton_append]
  | plain noEscape noOpening noClosing noQuote noConstruct =>
    rw [closing?_cons noEscape noOpening noClosing, if_neg (by simpa using noQuote), noConstruct]
    rfl

/-- A search that finds the end of its text takes a step. -/
theorem exists_step {brace : Brace} {outer : List Brace} {glued : Bool} {text rest : List Char}
    (found : closing? (brace :: outer) glued text = some rest) :
    ∃ braces glued' text', Step brace glued text braces glued' text' := by
  rcases text with _ | ⟨c, text⟩
  · rw [closing?_cons_nil] at found
    contradiction
  by_cases escape : c = '\\'
  · subst escape
    rcases text with _ | ⟨c, text⟩
    · rw [closing?.eq_def] at found
      contradiction
    · exact ⟨_, _, _, .escaped c text⟩
  by_cases opens : c = '{'
  · subst opens
    exact ⟨_, _, _, .opened text⟩
  by_cases closes : c = '}'
  · subst closes
    by_cases first : brace = .first
    · rcases other : scanElse? text with _ | inside
      · exact ⟨_, _, _, .closed fun _ => other⟩
      · exact ⟨_, _, _, .other first other⟩
    · exact ⟨_, _, _, .closed fun same => absurd same first⟩
  by_cases quotes : brace.quotes ∧ c = '"'
  · obtain ⟨quotes, rfl⟩ := quotes
    rw [closing?_cons escape opens closes, if_pos (by simp [quotes])] at found
    obtain ⟨after, ends, -⟩ := Option.bind_eq_some_iff.1 found
    exact ⟨_, _, _, .quoted quotes ends⟩
  rcases opened : scanOpening? glued (c :: text) with _ | ⟨opening, after⟩
  · exact ⟨_, _, _, .plain escape opens closes quotes opened⟩
  · exact ⟨_, _, _, .construct opened⟩

namespace Step

variable {brace : Brace} {braces : List Brace} {glued glued' : Bool} {text text' rest : List Char}

/-- A step reads at least one character. -/
theorem suffix (step : Step brace glued text braces glued' text') :
    ∃ c behind, text = c :: behind ∧ text' <:+ behind := by
  cases step with
  | escaped c rest => exact ⟨_, _, rfl, List.suffix_cons ..⟩
  | opened => exact ⟨_, _, rfl, List.suffix_refl _⟩
  | closed => exact ⟨_, _, rfl, List.suffix_refl _⟩
  | other _ found => exact ⟨_, _, rfl, scanElse?_suffix found⟩
  | quoted _ found => exact ⟨_, _, rfl, quoteEnd?_suffix found⟩
  | construct found => exact ⟨_, _, rfl, scanOpening?_suffix found⟩
  | plain => exact ⟨_, _, rfl, List.suffix_refl _⟩

theorem left_suffix (step : Step brace glued text braces glued' text') : text' <:+ text := by
  obtain ⟨c, behind, rfl, shorter⟩ := step.suffix
  exact shorter.trans (List.suffix_cons c behind)

theorem length_lt (step : Step brace glued text braces glued' text') :
    text'.length < text.length := by
  obtain ⟨c, behind, rfl, shorter⟩ := step.suffix
  exact Nat.lt_succ_of_le shorter.length_le

/-- The step that closes the last brace stands at a closing brace. -/
theorem of_nil (step : Step brace glued text [] glued' text') :
    text = '}' :: text' ∧ glued' = false := by
  generalize none : ([] : List Brace) = braces at step
  cases step with
  | closed => exact ⟨rfl, rfl⟩
  | construct => simp at none
  | _ => contradiction

/-- What stands in front of a brace that is not gone past is read alike when the text ends there. -/
theorem cut (step : Step brace glued (text ++ '}' :: rest) braces glued' (text' ++ '}' :: rest)) :
    Step brace glued text braces glued' text' := by
  generalize whole : text ++ '}' :: rest = before at step
  generalize after : text' ++ '}' :: rest = behind at step
  cases step with
  | escaped c =>
    subst after
    obtain rfl : text = '\\' :: c :: text' := List.append_cancel_right whole
    exact .escaped c text'
  | opened =>
    subst after
    obtain rfl : text = '{' :: text' := List.append_cancel_right whole
    exact .opened text'
  | closed last =>
    subst after
    obtain rfl : text = '}' :: text' := List.append_cancel_right whole
    refine .closed fun first => ?_
    have none := last first
    rwa [scanElse?_append_brace, Option.map_eq_none_iff] at none
  | other first found =>
    subst after
    rcases List.append_eq_cons_iff.1 whole with ⟨rfl, same⟩ | ⟨text, rfl, rfl⟩
    · obtain ⟨-, rfl⟩ := List.cons.inj same
      have := (scanElse?_suffix found).length_le
      simp only [List.length_append, List.length_cons] at this
      omega
    · rw [scanElse?_append_brace, Option.map_eq_some_iff] at found
      obtain ⟨inside, found, same⟩ := found
      obtain rfl := List.append_cancel_right same
      exact .other first found
  | quoted quotes found =>
    subst after
    rcases List.append_eq_cons_iff.1 whole with ⟨-, same⟩ | ⟨text, rfl, rfl⟩
    · simp at same
    · exact .quoted quotes (quoteEnd?_append_brace found)
  | @construct c _ _ opening found =>
    subst after
    rcases List.append_eq_cons_iff.1 whole with ⟨-, same⟩ | ⟨text, rfl, rfl⟩
    · obtain ⟨rfl, -⟩ := List.cons.inj same
      have := scanOpening?_head found
      simp at this
    have alone := scanOpening?_of_append_brace found
    split at alone
    · rename_i last
      obtain ⟨rfl, rfl⟩ := last
      obtain ⟨rfl, -⟩ := Prod.mk.inj (Option.some.inj found)
      -- Neither way of reading a last `$` opens a brace.
      have enclosing : Step brace glued ['$'] (Opening.enclosing.brace?.toList ++ [brace]) false
          text' := .construct alone
      exact enclosing
    · exact .construct alone
  | plain noEscape noOpening noClosing noQuote noConstruct =>
    subst after
    rcases List.append_eq_cons_iff.1 whole with ⟨-, same⟩ | ⟨text, rfl, same⟩
    · exact (noClosing (List.cons.inj same).1.symm).elim
    obtain rfl := List.append_cancel_right same
    exact .plain noEscape noOpening noClosing noQuote
      (scanOpening?_none_of_append_brace noConstruct)

end Step

namespace Search

/-- What is left of the text in the course of a search is an end of the text. -/
theorem Reaches.suffix {here there : Search} (reaches : Reaches here there) :
    there.text <:+ here.text := by
  induction reaches with
  | refl => exact List.suffix_refl _
  | tail _ next ih =>
    cases next with
    | step step => exact step.left_suffix.trans ih

/-- Braces that are open around a search do not change its way. -/
theorem Reaches.under {here there : Search} (reaches : Reaches here there) (outer : List Brace) :
    Reaches ⟨here.stack ++ outer, here.glued, here.text⟩
      ⟨there.stack ++ outer, there.glued, there.text⟩ := by
  induction reaches with
  | refl => exact .refl
  | tail _ next ih =>
    refine ih.tail ?_
    cases next with
    | step step =>
      rw [List.append_assoc]
      exact .step step

end Search

/-- The search is successful exactly if its steps lead to a place with no open brace. -/
theorem closing?_eq_some_iff {stack : List Brace} {glued : Bool} {text rest : List Char} :
    closing? stack glued text = some rest ↔
      ∃ glued', Search.Reaches ⟨stack, glued, text⟩ ⟨[], glued', rest⟩ := by
  constructor
  · induction length : text.length using Nat.strongRecOn generalizing stack glued text with
    | _ _ ih =>
      intro found
      cases stack with
      | nil =>
        rw [closing?_nil] at found
        obtain rfl := Option.some.inj found
        exact ⟨glued, .refl⟩
      | cons brace outer =>
        obtain ⟨braces, glued', text', step⟩ := exists_step found
        rw [closing?_of_step step] at found
        obtain ⟨final, reaches⟩ := ih _ (length ▸ step.length_lt) rfl found
        exact ⟨final, .head (.step step) reaches⟩
  · rintro ⟨final, reaches⟩
    generalize here : Search.mk stack glued text = start at reaches
    induction reaches using Relation.ReflTransGen.head_induction_on generalizing stack glued text with
    | refl => cases here; rw [closing?_nil]
    | head next _ ih =>
      cases next with
      | step step =>
        cases here
        rw [closing?_of_step step]
        exact ih rfl

/-- The search for several braces is one for the inner ones and then one for the outer ones. -/
theorem closing?_append {brace : Brace} {inner outer : List Brace} {glued : Bool}
    {text rest : List Char} (found : closing? (brace :: inner ++ outer) glued text = some rest) :
    ∃ middle, closing? (brace :: inner) glued text = some middle ∧
      closing? outer false middle = some rest := by
  induction length : text.length using Nat.strongRecOn
      generalizing brace inner glued text with
  | _ _ ih =>
    obtain ⟨braces, glued', text', step⟩ := exists_step found
    rw [List.cons_append, closing?_of_step step, ← List.append_assoc] at found
    rw [closing?_of_step step]
    rcases all : braces ++ inner with _ | ⟨brace', inner'⟩
    · obtain ⟨rfl, rfl⟩ := List.append_eq_nil_iff.1 all
      obtain ⟨-, rfl⟩ := step.of_nil
      exact ⟨text', closing?_nil .., found⟩
    · rw [all] at found
      exact ih _ (length ▸ step.length_lt) found rfl

/-- The search ends right behind a closing brace. -/
theorem closing?_suffix {brace : Brace} {outer : List Brace} {glued : Bool} {text rest : List Char}
    (found : closing? (brace :: outer) glued text = some rest) : '}' :: rest <:+ text := by
  obtain ⟨final, reaches⟩ := closing?_eq_some_iff.1 found
  rcases Relation.ReflTransGen.cases_tail reaches with same | ⟨last, before, next⟩
  · simp at same
  · generalize there : Search.mk [] final rest = final at next
    cases next with
    | step step =>
      obtain ⟨none, -, rfl⟩ := Search.mk.inj there
      obtain ⟨rfl, rfl⟩ := List.append_eq_nil_iff.1 none.symm
      obtain ⟨rfl, -⟩ := step.of_nil
      exact Search.Reaches.suffix before

/-- A search that ends behind what stands in front of a brace ends there as well when the text is cut
off in front of the brace. -/
theorem closing?_cut {stack : List Brace} {glued : Bool} {text rest after : List Char}
    (found : closing? stack glued (text ++ '}' :: rest) = some (after ++ '}' :: rest)) :
    closing? stack glued text = some after := by
  induction length : text.length using Nat.strongRecOn generalizing stack glued text with
  | _ _ ih =>
    rcases stack with _ | ⟨brace, outer⟩
    · rw [closing?_nil] at found ⊢
      rw [List.append_cancel_right (Option.some.inj found)]
    obtain ⟨braces, glued', behind, step⟩ := exists_step found
    rw [closing?_of_step step] at found
    obtain ⟨text', rfl⟩ : ∃ text', behind = text' ++ '}' :: rest := by
      obtain ⟨final, reaches⟩ := closing?_eq_some_iff.1 found
      obtain ⟨lead, same⟩ := Search.Reaches.suffix reaches
      exact ⟨lead ++ after, by rw [List.append_assoc]; exact same.symm⟩
    rw [closing?_of_step step.cut]
    exact ih _ (length ▸ step.cut.length_lt) found rfl

private theorem take_body (body rest : List Char) :
    (body ++ '}' :: rest).take ((body ++ '}' :: rest).length - rest.length - 1) = body := by
  have length : (body ++ '}' :: rest).length - rest.length - 1 = body.length := by
    simp only [List.length_append, List.length_cons]
    omega
  rw [length, List.take_left]

/-- A body and what follows its closing brace make up the text. -/
theorem close?_eq_some_iff {brace : Brace} {text : List Char} {closed : Closed} :
    close? brace text = some closed ↔
      text = closed.body ++ '}' :: closed.rest ∧ closing? [brace] false text = some closed.rest := by
  simp only [close?, Option.map_eq_some_iff]
  constructor
  · rintro ⟨rest, found, rfl⟩
    obtain ⟨body, rfl⟩ := closing?_suffix found
    rw [take_body]
    exact ⟨rfl, found⟩
  · rintro ⟨rfl, found⟩
    refine ⟨closed.rest, found, ?_⟩
    rw [take_body]

/-- Inside of another body, a body is closed at the same place as in the whole text. -/
theorem close?_cut {brace : Brace} {outer : List Brace} {text rest : List Char}
    (nested : outer ≠ [])
    (found : closing? (brace :: outer) false (text ++ '}' :: rest) = some rest) :
    ∃ closed, close? brace text = some closed ∧
      close? brace (text ++ '}' :: rest) = some ⟨closed.body, closed.rest ++ '}' :: rest⟩ ∧
      closing? outer false (closed.rest ++ '}' :: rest) = some rest := by
  have parts : closing? ([brace] ++ outer) false (text ++ '}' :: rest) = some rest := found
  obtain ⟨middle, inner, behind⟩ := closing?_append parts
  obtain ⟨brace', outer', rfl⟩ := List.exists_cons_of_ne_nil nested
  obtain ⟨lead, rfl⟩ := closing?_suffix behind
  have alone := closing?_cut inner
  obtain ⟨body, rfl⟩ := closing?_suffix alone
  refine ⟨⟨body, lead⟩, close?_eq_some_iff.2 ⟨rfl, alone⟩, close?_eq_some_iff.2 ⟨?_, inner⟩, behind⟩
  rw [List.append_assoc, List.cons_append]

/-- The search goes on from where its steps have led to. -/
theorem closing?_of_reaches {here there : Search} (reaches : here.Reaches there) :
    closing? here.stack here.glued here.text = closing? there.stack there.glued there.text := by
  induction reaches with
  | refl => rfl
  | tail _ next ih =>
    rw [ih]
    cases next with
    | step step => exact closing?_of_step step _

/-- A step at a first branch is one at any other branch, except at its own closing brace. -/
theorem Step.of_first {glued glued' : Bool} {text text' : List Char} {braces : List Brace}
    (step : Step .first glued text braces glued' text') :
    (∃ inner, braces = inner ++ [.first] ∧
        Step .structural glued text (inner ++ [.structural]) glued' text') ∨
      ∃ rest, text = '}' :: rest := by
  cases step with
  | escaped c => exact .inl ⟨[], rfl, .escaped c text'⟩
  | opened => exact .inl ⟨[.structural], rfl, .opened text'⟩
  | closed => exact .inr ⟨_, rfl⟩
  | other => exact .inr ⟨_, rfl⟩
  | quoted _ found => exact .inl ⟨[], rfl, .quoted rfl found⟩
  | construct found => exact .inl ⟨_, rfl, .construct found⟩
  | plain noEscape noOpening noClosing noQuote noConstruct =>
    exact .inl ⟨[], rfl, .plain noEscape noOpening noClosing noQuote noConstruct⟩

/-- A step at a branch is one at a first branch, except at its own closing brace. -/
theorem Step.to_first {glued glued' : Bool} {text text' : List Char} {braces : List Brace}
    (step : Step .structural glued text braces glued' text') :
    (∃ inner, braces = inner ++ [.structural] ∧
        Step .first glued text (inner ++ [.first]) glued' text') ∨
      text = '}' :: text' ∧ braces = [] := by
  cases step with
  | escaped c => exact .inl ⟨[], rfl, .escaped c text'⟩
  | opened => exact .inl ⟨[.structural], rfl, .opened text'⟩
  | closed => exact .inr ⟨rfl, rfl⟩
  | other first => contradiction
  | quoted _ found => exact .inl ⟨[], rfl, .quoted rfl found⟩
  | construct found => exact .inl ⟨_, rfl, .construct found⟩
  | plain noEscape noOpening noClosing noQuote noConstruct =>
    exact .inl ⟨[], rfl, .plain noEscape noOpening noClosing noQuote noConstruct⟩

/-- Where a search goes on behind a first branch: in the branch of an `else`, or behind the
construct. -/
def Search.behindFirst (outer : List Brace) (rest : List Char) : Search :=
  match scanElse? rest with
  | some inside => ⟨.structural :: outer, false, inside⟩
  | none => ⟨outer, false, rest⟩

theorem Search.next_behindFirst (outer : List Brace) (glued : Bool) (rest : List Char) :
    Next ⟨.first :: outer, glued, '}' :: rest⟩ (behindFirst outer rest) := by
  unfold behindFirst
  split
  · rename_i found
    have other : Step .first glued ('}' :: rest) [.structural] false _ := .other rfl found
    exact .step other
  · rename_i found
    have closed : Step .first glued ('}' :: rest) [] false rest := .closed fun _ => found
    exact .step closed

/-- A first branch ends where any other branch would. -/
theorem exists_closing?_of_first {inner outer : List Brace} {glued : Bool} {text rest : List Char}
    (found : closing? (inner ++ .first :: outer) glued text = some rest) :
    ∃ middle, closing? (inner ++ [.structural]) glued text = some middle := by
  induction length : text.length using Nat.strongRecOn generalizing inner glued text with
  | _ _ ih =>
    rcases inner with _ | ⟨brace, inner⟩
    · obtain ⟨braces, glued', text', step⟩ := exists_step found
      rcases step.of_first with ⟨inner, rfl, step'⟩ | ⟨behind, rfl⟩
      · rw [List.nil_append, closing?_of_step step, List.append_assoc] at found
        rw [List.nil_append, closing?_of_step step', List.append_nil]
        exact ih _ (length ▸ step.length_lt) found rfl
      · have closed : Step .structural glued ('}' :: behind) [] false behind := .closed nofun
        exact ⟨behind, by rw [List.nil_append, closing?_of_step closed, List.append_nil, closing?_nil]⟩
    · obtain ⟨braces, glued', text', step⟩ := exists_step found
      rw [List.cons_append, closing?_of_step step, ← List.append_assoc] at found
      rw [List.cons_append, closing?_of_step step, ← List.append_assoc]
      exact ih _ (length ▸ step.length_lt) found rfl

/-- The search in a first branch leads behind the place where any other branch would end. -/
theorem Search.reaches_behindFirst {inner outer : List Brace} {glued : Bool}
    {text middle : List Char} (found : closing? (inner ++ [.structural]) glued text = some middle) :
    Reaches ⟨inner ++ .first :: outer, glued, text⟩ (behindFirst outer middle) := by
  induction length : text.length using Nat.strongRecOn generalizing inner glued text with
  | _ _ ih =>
    rcases inner with _ | ⟨brace, inner⟩
    · obtain ⟨braces, glued', text', step⟩ := exists_step found
      rw [List.nil_append, closing?_of_step step, List.append_nil] at found
      rcases step.to_first with ⟨inner, rfl, step'⟩ | ⟨rfl, rfl⟩
      · refine .head (.step step') ?_
        rw [List.append_assoc]
        exact ih _ (length ▸ step.length_lt) found rfl
      · rw [closing?_nil] at found
        obtain rfl := Option.some.inj found
        exact .single (next_behindFirst outer glued text')
    · obtain ⟨braces, glued', text', step⟩ := exists_step found
      rw [List.cons_append, closing?_of_step step, ← List.append_assoc] at found
      rw [List.cons_append]
      refine .head (.step step) ?_
      rw [← List.append_assoc]
      exact ih _ (length ▸ step.length_lt) found rfl

end TitleBar.Template
