import TitleBar.Resolver.Lookup
import TitleBar.Template.Expand
import Mathlib.Tactic.Common

/-! # Values are opaque

What an expansion emits is a list of segments, which are literal text or references to tags. The list
depends on the template and on which tags are empty, and on nothing else: a value is put in the place
of a reference as it is, and is read neither as a template nor as anything else.
-/

namespace TitleBar.Template

/-- A part of what an expansion emits. -/
inductive Segment where
  | literal (text : List Char)
  /-- The value of a tag. -/
  | value (tag : String)
deriving DecidableEq, Repr

namespace Segment

/-- What a segment stands for, given the values of the tags. -/
def text (value : String → String) : Segment → List Char
  | .literal text => text
  | .value tag => (value tag).toList

/-- What a list of segments stands for. -/
def render (value : String → String) (segments : List Segment) : List Char :=
  segments.flatMap (text value)

theorem render_append (value : String → String) (first second : List Segment) :
    render value (first ++ second) = render value first ++ render value second :=
  List.flatMap_append ..

theorem render_value (value : String → String) (tag : String) :
    render value [.value tag] = (value tag).toList := by
  simp [render, text]

/-- The values of tags, with blanks between them. -/
def joined : List String → List Segment
  | [] => []
  | [tag] => [.value tag]
  | tag :: rest => .value tag :: .literal [' '] :: joined rest

theorem render_joined (value : String → String) (tags : List String) :
    render value (joined tags) = Text.join [' '] (tags.map fun tag => (value tag).toList) := by
  fun_induction joined tags with
  | case1 => rfl
  | case2 tag => simp [render, text, Text.join]
  | case3 tag rest more ih =>
    obtain ⟨next, rest, rfl⟩ := List.exists_cons_of_ne_nil more
    simp only [List.map_cons, Text.join] at ih ⊢
    rw [← ih]
    simp [render, text]

end Segment

/-- The segments of an expansion, given which tags are empty. -/
def segmentsAt (isEmpty : String → Bool) (depth : Depth) (bound : List Segment) :
    Template → Except ExpandError (List Segment)
  | .done => return []
  | .text c rest => return .literal [c] :: (← segmentsAt isEmpty depth bound rest)
  | .enclosing rest => return bound ++ (← segmentsAt isEmpty depth bound rest)
  | .value tag rest => return .value (String.ofList tag) :: (← segmentsAt isEmpty depth bound rest)
  | .joined tags rest => do
    let held := (tags.map String.ofList).filter (!isEmpty ·)
    return Segment.joined held ++ (← segmentsAt isEmpty depth bound rest)
  | .present tag body rest => do
    let shown ← if isEmpty (String.ofList tag) then pure [] else do
      segmentsAt isEmpty (← depth.descend) [.value (String.ofList tag)] body
    return shown ++ (← segmentsAt isEmpty depth bound rest)
  | .absent tag body rest => do
    let shown ← if isEmpty (String.ofList tag) then do
      segmentsAt isEmpty (← depth.descend) bound body else pure []
    return shown ++ (← segmentsAt isEmpty depth bound rest)
  | .branch tag yes rest => do
    let shown ← if isEmpty (String.ofList tag) then pure [] else do
      segmentsAt isEmpty (← depth.descend) bound yes
    return shown ++ (← segmentsAt isEmpty depth bound rest)
  | .branches tag yes no rest => do
    let deeper ← depth.descend
    let shown ← if isEmpty (String.ofList tag) then segmentsAt isEmpty deeper bound no
      else segmentsAt isEmpty deeper bound yes
    return shown ++ (← segmentsAt isEmpty depth bound rest)
  | .nested body rest => do
    let shown ← segmentsAt isEmpty (← depth.descend) bound body
    return shown ++ (← segmentsAt isEmpty depth bound rest)

/-- The segments of a template, or why its expansion is aborted. -/
def segments (isEmpty : String → Bool) (template : String) : Except ExpandError (List Segment) :=
  segmentsAt isEmpty (.limited maxDepth maxDepth) [] (ofString template)

/-- The value of a tag, without the questions that were asked for it. -/
def answers (ask : String → Trace String) (tag : String) : String := (ask tag).answer

/-- Which tags are empty. -/
def empties (ask : String → Trace String) (tag : String) : Bool := (answers ask tag).isEmpty

/-- An expansion emits the values that a list of segments refers to, or both are aborted alike. -/
def Expansion.Shows (ask : String → Trace String) (expansion : Expansion)
    (segments : Except ExpandError (List Segment)) : Prop :=
  expansion.run.answer = segments.map (Segment.render (answers ask))

namespace Expansion.Shows

variable {ask : String → Trace String}

theorem pure {shown : List Char} {segments : List Segment}
    (same : shown = Segment.render (answers ask) segments) :
    Shows ask (Pure.pure shown) (Pure.pure segments) :=
  congrArg Except.ok same

theorem bind {expansion : Expansion} {segments : Except ExpandError (List Segment)}
    {behind : List Char → Expansion} {after : List Segment → Except ExpandError (List Segment)}
    (first : Shows ask expansion segments)
    (second : ∀ shown, Shows ask (behind (Segment.render (answers ask) shown)) (after shown)) :
    Shows ask (expansion >>= behind) (segments >>= after) := by
  unfold Shows at first ⊢
  rw [ExceptT.run_bind, Trace.answer_bind, first]
  cases segments with
  | error => rfl
  | ok shown => exact second shown

theorem ask_bind {tag : String} {behind : String → Expansion}
    {segments : Except ExpandError (List Segment)}
    (shows : Shows ask (behind (answers ask tag)) segments) :
    Shows ask (liftM (ask tag) >>= behind) segments := shows

theorem descend_bind {depth : Depth} {behind : Depth → Expansion}
    {after : Depth → Except ExpandError (List Segment)}
    (shows : ∀ deeper, Shows ask (behind deeper) (after deeper)) :
    Shows ask (liftM depth.descend >>= behind) (depth.descend >>= after) := by
  rcases depth.descend with error | deeper
  · rfl
  · exact shows deeper

theorem mapM_bind {tags : List (List Char)} {behind : List String → Expansion}
    {segments : Except ExpandError (List Segment)}
    (shows : Shows ask (behind (tags.map fun tag => answers ask (String.ofList tag))) segments) :
    Shows ask ((tags.mapM fun tag => liftM (ask (String.ofList tag))) >>= behind) segments := by
  induction tags generalizing behind with
  | nil => exact shows
  | cons tag tags ih =>
    rw [List.mapM_cons, bind_assoc]
    refine ask_bind ?_
    rw [bind_assoc]
    refine ih ?_
    rw [pure_bind]
    exact shows

theorem ite {tag : String} {yes no : Expansion} {first second : Except ExpandError (List Segment)}
    (empty : Shows ask yes first) (other : Shows ask no second) :
    Shows ask (if (answers ask tag).isEmpty then yes else no)
      (if empties ask tag then first else second) := by
  unfold empties
  split
  · exact empty
  · exact other

/-- What a construct shows stands in front of what follows it. -/
theorem append {first second : Expansion} {shown rest : Except ExpandError (List Segment)}
    (front : Shows ask first shown) (behind : Shows ask second rest) :
    Shows ask (do return (← first) ++ (← second)) (do return (← shown) ++ (← rest)) :=
  front.bind fun shown => behind.bind fun rest => .pure (Segment.render_append _ shown rest).symm

end Expansion.Shows

/-- The values in a list of tags that are not empty are those of the tags that are not. -/
theorem held_answers (ask : String → Trace String) (tags : List (List Char)) :
    Segment.render (answers ask) (Segment.joined ((tags.map String.ofList).filter (!empties ask ·))) =
      Text.join [' '] (((tags.map fun tag => answers ask (String.ofList tag)).map
        String.toList).filter (!·.isEmpty)) := by
  have empty (text : String) : text.toList.isEmpty = text.isEmpty := by
    rw [Bool.eq_iff_iff]
    simp
  rw [Segment.render_joined, List.filter_map, List.filter_map, List.map_map, List.filter_map,
    List.map_map]
  simp only [Function.comp_def, empty, empties]

/-- The expansion of a template shows its segments. -/
theorem expandAt_shows (ask : String → Trace String) (depth : Depth) (bound : List Segment)
    (template : Template) :
    (expandAt ask depth (Segment.render (answers ask) bound) template).Shows ask
      (segmentsAt (empties ask) depth bound template) := by
  induction template generalizing depth bound with
  | done => exact .pure rfl
  | text c rest ih => exact (ih depth bound).bind fun shown => .pure rfl
  | enclosing rest ih =>
    exact (ih depth bound).bind fun shown => .pure (Segment.render_append _ _ _).symm
  | value tag rest ih => exact .ask_bind ((ih depth bound).bind fun shown => .pure rfl)
  | joined tags rest ih =>
    refine .mapM_bind ?_
    refine (ih depth bound).bind fun shown => .pure ?_
    rw [Segment.render_append, held_answers]
  | present tag body rest bodyIh restIh =>
    refine .ask_bind (.ite ?_ ?_)
    · exact .append (.pure rfl) (restIh depth bound)
    · refine .descend_bind fun deeper => .append ?_ (restIh depth bound)
      have inner := bodyIh deeper [.value (String.ofList tag)]
      rwa [Segment.render_value] at inner
  | absent tag body rest bodyIh restIh =>
    refine .ask_bind (.ite ?_ ?_)
    · exact .descend_bind fun deeper => .append (bodyIh deeper bound) (restIh depth bound)
    · exact .append (.pure rfl) (restIh depth bound)
  | branch tag yes rest yesIh restIh =>
    refine .ask_bind (.ite ?_ ?_)
    · exact .append (.pure rfl) (restIh depth bound)
    · exact .descend_bind fun deeper => .append (yesIh deeper bound) (restIh depth bound)
  | branches tag yes no rest yesIh noIh restIh =>
    refine .ask_bind (.descend_bind fun deeper => .ite ?_ ?_)
    · exact .append (noIh deeper bound) (restIh depth bound)
    · exact .append (yesIh deeper bound) (restIh depth bound)
  | nested body rest bodyIh restIh =>
    exact .descend_bind fun deeper => .append (bodyIh deeper bound) (restIh depth bound)

theorem expand?_answer (ask : String → Trace String) (template : String) :
    (expand? ask template).answer = (segments (empties ask) template).map fun list =>
      String.ofList (Segment.render (answers ask) list) := by
  have shows : (expandAt ask (.limited maxDepth maxDepth) [] (ofString template)).run.answer =
      (segments (empties ask) template).map (Segment.render (answers ask)) :=
    expandAt_shows ask (.limited maxDepth maxDepth) [] (ofString template)
  simp only [expand?, Trace.answer_bind, Trace.answer_pure, shows]
  cases segments (empties ask) template <;> rfl

/-- In two states in which the same tags are empty, a template is expanded to the values of one list of
segments, or its expansion is aborted in both. -/
theorem expand?_eq_of_same_empties (template : String) {first second : Lookup}
    (same : ∀ tag, (first.value tag).answer = "" ↔ (second.value tag).answer = "") :
    (∃ error, (expand? first.value template).answer = .error error ∧
        (expand? second.value template).answer = .error error) ∨
      ∃ list, segments (empties first.value) template = .ok list ∧
        (expand? first.value template).answer =
          .ok (String.ofList (Segment.render (answers first.value) list)) ∧
        (expand? second.value template).answer =
          .ok (String.ofList (Segment.render (answers second.value) list)) := by
  have alike : empties second.value = empties first.value := by
    funext tag
    rw [Bool.eq_iff_iff]
    simpa [empties, answers] using (same tag).symm
  rw [expand?_answer, expand?_answer, alike]
  rcases segments (empties first.value) template with error | list
  · exact .inl ⟨error, rfl, rfl⟩
  · exact .inr ⟨list, rfl, rfl, rfl⟩

/-- A state whose only tag is `branch`. -/
def branchLookup (branch : String) : Lookup where
  registry.resolvers := [{
    name := "Git"
    tags := ["branch"]
    available := true
    settled := true
    gate := fun _ _ => true
    value := fun _ _ => branch
    verdict := Resolver.gatedVerdict "Git" (fun _ _ => true) fun _ _ => branch }]
  registry.unshared := List.pairwise_singleton ..
  situation := ⟨.design, none⟩

theorem branchLookup_value {branch : String} (held : branch ≠ "") (tag : String) :
    ((branchLookup branch).value tag).answer = "" ↔ Tag.base? tag ≠ some "branch" := by
  rcases base : Tag.base? tag with _ | name
  · simp [Lookup.value, Lookup.resolve?, Lookup.resolvers, branchLookup, Resolver.resolvable,
      Resolver.applicable, base]
  · by_cases named : name = "branch"
    · simp [Lookup.value, Lookup.resolve?, Lookup.resolvers, branchLookup, Resolver.resolvable,
        Resolver.applicable, Resolver.resolve, Resolver.ask, base, named, held]
    · simp [Lookup.value, Lookup.resolve?, Lookup.resolvers, branchLookup, Resolver.resolvable,
        Resolver.applicable, base, named]

/-- A branch that reads like the rest of a template changes nothing but what stands in its place. -/
theorem expand?_branch_like_template :
    (∃ error, (expand? (branchLookup "main").value "?branch\x7b[$]\x7d").answer = .error error ∧
        (expand? (branchLookup "]\x7d$branch").value "?branch\x7b[$]\x7d").answer =
          .error error) ∨
      ∃ list, segments (empties (branchLookup "main").value) "?branch\x7b[$]\x7d" = .ok list ∧
        (expand? (branchLookup "main").value "?branch\x7b[$]\x7d").answer =
          .ok (String.ofList (Segment.render (answers (branchLookup "main").value) list)) ∧
        (expand? (branchLookup "]\x7d$branch").value "?branch\x7b[$]\x7d").answer =
          .ok (String.ofList (Segment.render (answers (branchLookup "]\x7d$branch").value) list)) :=
  expand?_eq_of_same_empties _ fun tag =>
    (branchLookup_value (by decide) tag).trans (branchLookup_value (by decide) tag).symm

end TitleBar.Template
