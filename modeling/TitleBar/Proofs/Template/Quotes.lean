import TitleBar.Proofs.Template.Course

/-! # Escapes in quoted runs

A quoted run of a branch knows two more escapes than other text, for a newline and for a tab. What an
escape means is decided by the innermost of the texts that hold it. So a conditional in a quoted run
takes the two escapes away again: in its body they stand for their letters, however deep it is nested.
-/

namespace TitleBar.Template

/-- What a character behind a backslash stands for right inside of a quoted run. -/
def quotedMeaning (c : Char) : Char := if c = 'n' then '\n' else if c = 't' then '\t' else c

/-- What `\c` shows, given what holds it, the outermost first. A branch and a block show nothing of the
text right inside of them. -/
def escaped (trail : List Enclosure) (c : Char) : List Char :=
  match trail.getLast? with
  | none | some .conditional => [c]
  | some .branch | some .block => []
  | some .quotes => [quotedMeaning c]

theorem unescape_true (c : Char) : unescape true c = quotedMeaning c := by
  simp [unescape, quotedMeaning]

/-- Only the outermost level of a quoted run knows its escapes. -/
theorem escaped_conditionals (outer : List Enclosure) (n : ℕ) (c : Char) :
    escaped (outer ++ Enclosure.quotes :: List.replicate n Enclosure.conditional) c =
      [if n = 0 then quotedMeaning c else c] := by
  cases n with
  | zero =>
    rw [escaped, List.replicate_zero, List.getLast?_concat]
    rfl
  | succ n =>
    rw [escaped, List.replicate_succ', ← List.cons_append, ← List.append_assoc, List.getLast?_concat,
      if_neg (Nat.succ_ne_zero n)]

section Escapes

variable {ask : String → Trace String} {template : List Char} {there : Spot} {trail : List Enclosure}
  {before after later rest : List Char} {c : Char}
  (comes : Spot.Comes ask (.start template) trail before after there)

include comes

/-- An escape shows what the innermost of what holds it makes of it. -/
theorem showsFirst_escaped (c : Char) : there.ShowsFirst ask (.escaped c) (escaped trail c) := by
  rw [Spot.ShowsFirst, Piece.expansion, comes.mode_eq, escaped]
  cases trail.getLast? with
  | none => rfl
  | some innermost =>
    cases innermost with
    | conditional | branch | block => rfl
    | quotes =>
      rw [← unescape_true]
      rfl

/-- In literal text that no quotes hold, an escape shows its letter. -/
theorem escaped_of_unquoted (unquoted : .quotes ∉ trail) (literal : there.mode ≠ .structural)
    (c : Char) : escaped trail c = [c] := by
  rw [comes.mode_eq] at literal
  rw [escaped]
  rcases last : trail.getLast? with _ | innermost
  · rfl
  · rw [last] at literal
    cases innermost with
    | conditional => rfl
    | branch | block => exact absurd rfl literal
    | quotes => exact absurd (List.mem_of_getLast? last) unquoted

/-- What an escape means is decided by the innermost of the texts that hold it, wherever the expansion of
a template comes to it. Right inside of a quoted run `\n` shows a newline and `\t` a tab; in the body of a
conditional they show their letters, also if a quoted run holds the conditional, and so they do in literal
text that no quotes hold. -/
theorem expand?_escape_innermost (here : there.text = '\\' :: c :: rest)
    (behind : (there.behind ⟨.escaped c, glues c, rest⟩).Shows ask later) :
    let Shows (shown : List Char) : Prop := (expand? ask (String.ofList template)).answer =
      .ok (String.ofList (before ++ (shown ++ later) ++ after))
    Shows (escaped trail c) ∧
      (∀ outer n, trail = outer ++ .quotes :: List.replicate n .conditional →
        Shows [if n = 0 then quotedMeaning c else c]) ∧
      (.quotes ∉ trail → there.mode ≠ .structural → Shows [c]) := by
  intro Shows
  have first : there.first? = some ⟨.escaped c, glues c, rest⟩ := by
    rw [Spot.first?, here]
    rfl
  have shows : Shows (escaped trail c) :=
    answer_expand? rfl (comes.shows (.of_first first (showsFirst_escaped comes c) behind))
  refine ⟨shows, ?_, ?_⟩
  · rintro outer n rfl
    rwa [escaped_conditionals] at shows
  · intro unquoted literal
    rwa [escaped_of_unquoted comes unquoted literal] at shows

end Escapes

/-- A line break in the body of a conditional is none in a quoted run either. -/
theorem expand?_escape_innermost_solution :
    let template := "if(solution)\x7b\"a?solution\x7b\\n\x7db\"\x7d".toList
    let there : Spot := ⟨.literal false, false, ['\\', 'n'], "/src/app/app.sln".toList, .limited 32 29⟩
    Spot.Comes solutionLookup.value (.start template) [.branch, .quotes, .conditional] ['a'] ['b'] there ∧
      there.text = ['\\', 'n'] ∧
      (there.behind ⟨.escaped 'n', true, []⟩).Shows solutionLookup.value [] ∧
      (expand? solutionLookup.value (String.ofList template)).answer = .ok "anb" := by
  intro template there
  let ask := solutionLookup.value
  let run := "a?solution\x7b\\n\x7db".toList
  let branch : Body := ⟨.structural, quotation run, ['}']⟩
  let body : Body := ⟨.literal false, there.text, ['}', 'b']⟩
  let inBranch : Spot := ⟨.structural, false, quotation run, [], .limited 32 31⟩
  let inRun : Spot := ⟨.literal true, false, run, [], .limited 32 30⟩
  have opened : (Spot.start template).first? = some ⟨.branch "solution".toList branch, false, []⟩ := by
    decide +kernel
  have held : (Piece.branch "solution".toList branch).entered? ask [] = some (branch.entry .branch []) := by
    decide +kernel
  have quoted : inBranch.first? = some ⟨.quoted run, false, []⟩ := by decide +kernel
  have letter : inRun.first? = some ⟨.plain 'a', true, run.tail⟩ := by decide +kernel
  have question : (inRun.behind ⟨.plain 'a', true, run.tail⟩).first? =
      some ⟨.present "solution".toList body, false, ['b']⟩ := by decide +kernel
  have taken : (Piece.present "solution".toList body).entered? ask [] =
      some (body.entry .conditional "/src/app/app.sln".toList) := by decide +kernel
  have behindBody : (inRun.behind ⟨.present "solution".toList body, false, ['b']⟩).Shows ask ['b'] := by
    decide +kernel
  have behindRun : (inBranch.behind ⟨.quoted run, false, []⟩).Shows ask [] := by decide +kernel
  have behindBranch : ((Spot.start template).behind
      ⟨.branch "solution".toList branch, false, []⟩).Shows ask [] := by decide +kernel
  have comes : Spot.Comes ask (.start template) [.branch, .quotes, .conditional] ['a'] ['b'] there :=
    .inward opened held rfl
      (.inward quoted rfl rfl
        (.onward letter rfl (.inward question taken rfl (.here there) behindBody)) behindRun)
      behindBranch
  have behind : (there.behind ⟨.escaped 'n', true, []⟩).Shows ask [] := by decide +kernel
  exact ⟨comes, rfl, behind, (expand?_escape_innermost comes rfl behind).2.1 [.branch] 1 rfl⟩

end TitleBar.Template
