import TitleBar.Proofs.Resolver.Ownership
import TitleBar.Proofs.Tag.Slice
import TitleBar.Proofs.Template.Joined
import TitleBar.Resolver.OpenSolution

/-! # Calls

A tag with arguments is asked for as it is written, whatever its arguments are. The owner of `path`
reads from them which segments of the directory of its solution are shown, counted from the end.
-/

namespace TitleBar

open Text

namespace Tag.Token

/-- The segments that a tag asks of a slicing function: its bare name asks for the defaults, a call
for what its arguments say. -/
def AsksFor (token : Token) (length skipped count : Nat) : Prop :=
  match token.arguments with
  | none => skipped = 0 ∧ count = length
  | some inside => Asks length (splitAt (· == ',') inside) skipped count

/-- The arguments of a call stand between its commas. -/
theorem asksFor_iff {token : Token} {pieces : List (List Char)} (some : pieces ≠ [])
    (uncut : ∀ piece ∈ pieces, ',' ∉ piece) (arguments : token.arguments = .some (join [','] pieces))
    {length skipped count : Nat} :
    token.AsksFor length skipped count ↔ Asks length pieces skipped count := by
  have split : splitAt (· == ',') (join [','] pieces) = pieces :=
    splitAt_join (by decide) some fun piece member => uncut_of_not_mem (uncut piece member)
  simp only [AsksFor, arguments, split]

end Tag.Token

namespace OpenSolution

variable {token : Tag.Token}

/-- The segments that a `path` tag asks for are read from its text. -/
theorem asked_iff (named : token.name = "path".toList) {skipped count : Nat} :
    (if String.ofList token.text = "path" then some (0, 1)
      else Tag.slice? (String.ofList token.text) "path" 1) = some (skipped, count) ↔
        token.AsksFor 1 skipped count := by
  unfold Tag.Token.AsksFor Tag.Token.text
  cases token.arguments with
  | none =>
    simp only [named, String.ofList_toList, if_pos, Option.some.injEq, Prod.mk.injEq, eq_comm]
  | some inside =>
    have call : String.ofList (token.name ++ '(' :: (inside ++ [')'])) ≠ "path" := by
      intro same
      have letters := congrArg (fun text => text.toList.length) same
      simp [named] at letters
    rw [if_neg call, named, Tag.slice?_eq_some_iff]

/-- What a `path` tag shows of a directory. -/
theorem slice_token (named : token.name = "path".toList) (directory : Path) :
    (∀ skipped count, token.AsksFor 1 skipped count →
      slice directory (String.ofList token.text) = String.ofList (join ['/']
        (Tag.keptFromEnd skipped count (Tag.segments '/' directory.text.toList)))) ∧
    ((∀ skipped count, ¬ token.AsksFor 1 skipped count) →
      slice directory (String.ofList token.text) = "") := by
  simp only [← asked_iff named, slice]
  constructor
  · intro skipped count asked
    simp only [asked, Tag.trailingSegments, Tag.trailing_eq_keptFromEnd]
  · intro unasked
    split
    · rename_i skipped count asked
      exact absurd asked (unasked skipped count)
    · rfl

variable {lookup : Lookup} {held : OpenSolution} {solution : Solution}

/-- A tag of the open solution is asked of its resolver, and of no other one. -/
theorem value_of_registered (registered : held.resolver ∈ lookup.resolvers)
    (opened : held.solution?.isSome) (situated : lookup.situation.solution = some solution)
    {tag name : String} (base : Tag.base? tag = some name) (owned : name ∈ held.resolver.tags) :
    lookup.value tag = ⟨valueOf solution tag, [⟨"solution", tag⟩]⟩ := by
  have applicable : held.resolver.applicable tag := (Resolver.applicable_iff base).2 owned
  have owner : lookup.owner? tag = some held.resolver := by
    rw [Lookup.owner?_eq_some_iff]
    exact ⟨registered, applicable⟩
  have gate : held.resolver.gate lookup.situation tag := by
    change lookup.situation.solution.isSome
    rw [situated]
    rfl
  have resolvable : held.resolver.resolvable lookup.situation tag := by
    rw [Resolver.resolvable, applicable, gate, Bool.and_true, Bool.true_and]
    exact opened
  have value : held.resolver.value lookup.situation tag = valueOf solution tag := by
    change held.value lookup.situation tag = _
    rw [OpenSolution.value, situated]
    rfl
  have asked : held.resolver.resolve lookup.situation tag =
      ⟨valueOf solution tag, [⟨"solution", tag⟩]⟩ := by
    have available : held.resolver.available := opened
    rw [Resolver.resolve, applicable, available, Bool.and_self, if_pos rfl, Resolver.ask, value]
    rfl
  rw [Lookup.value, Lookup.resolve?_eq_owner?, owner]
  simp only [if_pos resolvable, asked]
  rfl

end OpenSolution

namespace Template

/-- A call is asked for as it is written, and its value stands in its place. A `path` tag shows the
segments of the directory of the open solution that its numbers ask for, and nothing if they are no
numbers of 64 bits; such numbers do not overflow on the way. -/
theorem expand_call {lookup : Lookup} {held : OpenSolution} {solution : Solution}
    (registered : held.resolver ∈ lookup.resolvers) (opened : held.solution?.isSome)
    (situated : lookup.situation.solution = some solution) :
    (∀ (ask : String → Trace String) mode glued depth bound rest, ∀ token : Tag.Token,
      token.arguments ≠ none →
      (∀ inside, rest ≠ '?' :: '{' :: inside ∧ rest ≠ '!' :: '{' :: inside) →
      expandAt ask depth bound (parse mode glued (singleForm token ++ rest)) = do
        let value ← ask (String.ofList token.text)
        return value.toList ++ (← expandAt ask depth bound (parse mode false rest))) ∧
    (∀ token : Tag.Token, token.name = "path".toList →
      (∀ skipped count, token.AsksFor 1 skipped count →
        expand? lookup.value (String.ofList (singleForm token)) =
          ⟨.ok (String.ofList (join ['/']
            (Tag.keptFromEnd skipped count (Tag.segments '/' solution.directory.text.toList)))),
            [⟨"solution", String.ofList token.text⟩]⟩) ∧
      ((∀ skipped count, ¬ token.AsksFor 1 skipped count) →
        expand? lookup.value (String.ofList (singleForm token)) =
          ⟨.ok "", [⟨"solution", String.ofList token.text⟩]⟩) ∧
      ∀ pieces, pieces ≠ [] → (∀ piece ∈ pieces, ',' ∉ piece) →
        token.arguments = some (join [','] pieces) → ∀ skipped count,
          token.AsksFor 1 skipped count ↔ Tag.Asks 1 pieces skipped count) ∧
    (∀ n ≤ Tag.maxCount, ∀ before after, (∀ c ∈ before ++ after, isBlank c) →
      Tag.Writes (before ++ Nat.toDigits 10 n ++ after) n) ∧
    ∀ pieces : List (List Char), pieces.length < UInt64.size → ∀ skipped count,
      let range := Tag.range64 (UInt64.ofNat pieces.length) skipped count
      range.1 ≤ range.2 ∧ range.2.toNat ≤ pieces.length ∧
        (pieces.take range.2.toNat).drop range.1.toNat =
          Tag.keptFromEnd skipped.toNat count.toNat pieces := by
  refine ⟨?_, fun token named => ?_, fun n bound before after => Tag.writes_toDigits bound,
    fun pieces fits => Tag.range64_spec fits⟩
  · intro ask mode glued depth bound rest token called plain
    rw [parse_single token ⟨fun bare => absurd bare called, plain⟩]
    rfl
  · have base : Tag.base? (String.ofList token.text) = some "path" := by
      rw [token.base?_text, named, String.ofList_toList]
    have value := OpenSolution.value_of_registered registered opened situated base (by simp
      [OpenSolution.resolver])
    have shown : OpenSolution.valueOf solution (String.ofList token.text) =
        OpenSolution.slice solution.directory (String.ofList token.text) := by
      simp only [OpenSolution.valueOf, base]
    obtain ⟨asked, unasked⟩ := OpenSolution.slice_token named solution.directory
    rw [expand?_single, value, shown]
    refine ⟨?_, ?_, fun pieces some uncut arguments _ _ => Tag.Token.asksFor_iff some uncut arguments⟩
    · intro skipped count asks
      rw [asked skipped count asks]
      rfl
    · intro silent
      rw [unasked silent]
      rfl

theorem flat_numbers : ∀ list ∈ some " 1 , 18446744073709551615,x".toList, '(' ∉ list ∧ ')' ∉ list := by
  simp

/-- The tag `path( 1 , 18446744073709551615,x)`. -/
def widestToken : Tag.Token :=
  { pathToken with arguments := some " 1 , 18446744073709551615,x".toList, flat := flat_numbers }

/-- All segments of `/src/app` but the last one. -/
theorem expand_call_widest :
    let solution : Solution := ⟨⟨"/src/app/app.sln"⟩, ⟨"/src/app"⟩, "app"⟩
    let held := OpenSolution.opened solution
    held.resolver ∈ solutionLookup.resolvers ∧ held.solution?.isSome ∧
      solutionLookup.situation.solution = some solution ∧
      expand? solutionLookup.value (String.ofList (singleForm widestToken)) =
        ⟨.ok "src", [⟨"solution", "path( 1 , 18446744073709551615,x)"⟩]⟩ := by
  intro solution held
  have registered : held.resolver ∈ solutionLookup.resolvers := List.mem_singleton_self _
  obtain ⟨-, path, numbers, -⟩ := expand_call registered rfl rfl
  obtain ⟨shows, -, reads⟩ := path widestToken rfl
  refine ⟨registered, rfl, rfl, ?_⟩
  have blank : ∀ c ∈ [' '], isBlank c := List.forall_mem_singleton.2 (by decide)
  have start : Tag.Writes " 1 ".toList 1 :=
    numbers 1 (by decide) [' '] [' '] (List.forall_mem_append.2 ⟨blank, blank⟩)
  have size : Tag.Writes " 18446744073709551615".toList Tag.maxCount :=
    numbers Tag.maxCount le_rfl [' '] [] blank
  have asks : widestToken.AsksFor 1 1 Tag.maxCount :=
    (reads [" 1 ".toList, " 18446744073709551615".toList, ['x']] (by simp) (by simp) rfl 1
      Tag.maxCount).2 (.both start size)
  exact shows 1 Tag.maxCount asks

end Template

end TitleBar
