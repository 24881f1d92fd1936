import TitleBar.Proofs.Template.Search
import Mathlib.Data.List.Basic

/-! # What follows a body

A body that is closed at the end of a text is closed at the same place when the text goes on. The only
thing in front of a closing brace that could reach behind it is a list of arguments, and that takes a
parenthesis which the body leaves open.
-/

namespace TitleBar.Template

/-- A step is taken alike when a closing brace and any text follow. -/
theorem Step.extend {brace : Brace} {braces : List Brace} {glued glued' : Bool}
    {text text' : List Char} (step : Step brace glued text braces glued' text')
    (paired : Paired text) (rest : List Char) :
    Step brace glued (text ++ '}' :: rest) braces glued' (text' ++ '}' :: rest) := by
  cases step with
  | escaped c => exact .escaped c _
  | opened => exact .opened _
  | closed last =>
    have none (first : brace = .first) : scanElse? (text' ++ '}' :: rest) = none := by
      rw [scanElse?_append_brace, last first, Option.map_none]
    exact .closed none
  | @other behind _ first found =>
    have other : scanElse? (behind ++ '}' :: rest) = some (text' ++ '}' :: rest) := by
      rw [scanElse?_append_brace, found, Option.map_some]
    exact .other first other
  | quoted quotes found => exact .quoted quotes (quoteEnd?_append found _)
  | @construct c behind _ opening found =>
    have extended : scanOpening? glued (c :: behind ++ '}' :: rest) =
        some (if c = '$' ∧ behind = [] then .dollar else opening, text' ++ '}' :: rest) := by
      rw [scanOpening?_append_brace_of_paired (paired.of_suffix (List.suffix_cons ..)), found,
        Option.map_some]
    split at extended
    · rename_i last
      obtain ⟨rfl, rfl⟩ := last
      obtain ⟨rfl, -⟩ := Prod.mk.inj (Option.some.inj found)
      -- Neither way of reading a last `$` opens a brace.
      have dollar : Step brace glued (['$'] ++ '}' :: rest) (Opening.dollar.brace?.toList ++ [brace])
          false (text' ++ '}' :: rest) := .construct extended
      exact dollar
    · exact .construct extended
  | @plain c _ noEscape noOpening noClosing noQuote noConstruct =>
    have extended : scanOpening? glued (c :: text' ++ '}' :: rest) = none := by
      rw [scanOpening?_append_brace_of_paired (paired.of_suffix (List.suffix_cons ..)), noConstruct,
        Option.map_none]
    exact .plain noEscape noOpening noClosing noQuote extended

/-- A step at a brace that no `else` may follow leaves no brace in its place that one may follow. -/
theorem Step.getLast?_ne_first {brace : Brace} {braces : List Brace} {glued glued' : Bool}
    {text text' : List Char} (step : Step brace glued text braces glued' text')
    (last : brace ≠ .first) : braces.getLast? ≠ some .first := by
  cases step <;> simp [last]

/-- What is closed at the end of a text is closed at the same place when the text goes on. -/
theorem closing?_extend {stack : List Brace} {glued : Bool} {text : List Char}
    (opened : stack ≠ []) (last : stack.getLast? ≠ some .first) (paired : Paired text)
    (found : closing? stack glued (text ++ ['}']) = some []) (rest : List Char) :
    closing? stack glued (text ++ '}' :: rest) = some rest := by
  induction length : text.length using Nat.strongRecOn generalizing stack glued text with
  | _ _ ih =>
    obtain ⟨brace, outer, rfl⟩ := List.exists_cons_of_ne_nil opened
    obtain ⟨braces, glued', behind, step⟩ := exists_step found
    rw [closing?_of_step step] at found
    rcases List.eq_nil_or_concat behind with rfl | ⟨text', c, rfl⟩
    · -- The last character closes the last brace.
      have none : braces ++ outer = [] := by
        rcases all : braces ++ outer with _ | _
        · rfl
        · rw [all, closing?_cons_nil] at found
          contradiction
      obtain ⟨rfl, rfl⟩ := List.append_eq_nil_iff.1 none
      obtain ⟨same, -⟩ := step.of_nil
      obtain rfl : text = [] := by simpa using same
      have closed : Step brace glued ([] ++ '}' :: rest) [] false rest :=
        .closed fun first => absurd (congrArg some first) last
      rw [closing?_of_step closed, List.append_nil, closing?_nil]
    · obtain ⟨lead, same⟩ := step.left_suffix
      rw [List.concat_eq_append, ← List.append_assoc] at same
      obtain ⟨-, ends⟩ := List.append_inj' same rfl
      obtain rfl := List.singleton_inj.1 ends
      rw [List.concat_eq_append] at step found
      have extended := step.cut.extend paired rest
      have deeper : braces ++ outer ≠ [] := by
        intro none
        rw [none, closing?_nil] at found
        simp at found
      have deeperLast : (braces ++ outer).getLast? ≠ some .first := by
        rcases outer with _ | ⟨next, outer⟩
        · rw [List.append_nil]
          exact step.getLast?_ne_first fun first => last (congrArg some first)
        · rwa [List.getLast?_append_cons, ← List.getLast?_cons_cons]
      rw [closing?_of_step extended]
      exact ih _ (length ▸ step.cut.length_lt) deeper deeperLast
        (paired.of_suffix step.cut.left_suffix) found rfl

/-- A body that is closed at the end of a text is closed there when the text goes on. -/
theorem close?_extend {brace : Brace} {body : List Char} (last : brace ≠ .first)
    (paired : Paired body) (closes : close? brace (body ++ ['}']) = some ⟨body, []⟩)
    (rest : List Char) : close? brace (body ++ '}' :: rest) = some ⟨body, rest⟩ := by
  obtain ⟨-, found⟩ := close?_eq_some_iff.1 closes
  refine close?_eq_some_iff.2 ⟨rfl, closing?_extend (List.cons_ne_nil _ _) ?_ paired found rest⟩
  simpa using last

end TitleBar.Template
