import TitleBar.Aggregate
import Mathlib.Tactic.Common

/-! # Precedence of rules

A title bar is a stack of layers, one for each rule whose predicates hold, and every part of it is
seen through the layers above that leave it open. So the rule sets of higher precedence are laid over
those of lower precedence, a rule that does not hold might as well be missing, and a rule that sets
several parts is as good as several rules that set one part each.
-/

namespace TitleBar

namespace TitleBarData

/-- A title bar all of whose parts are left to the host. -/
def blank : TitleBarData := ⟨none, none, none, none, none⟩

/-- A title bar laid over another one, which shows wherever the upper one leaves a part open. -/
def overlay (upper lower : TitleBarData) : TitleBarData where
  title := upper.title.or lower.title
  foreground := upper.foreground.or lower.foreground
  background := upper.background.or lower.background
  searchBox := upper.searchBox.or lower.searchBox
  blocks := upper.blocks.or lower.blocks

@[simp] theorem overlay_blank (upper : TitleBarData) : upper.overlay blank = upper := by
  simp [overlay, blank]

theorem overlay_assoc (first second third : TitleBarData) :
    (first.overlay second).overlay third = first.overlay (second.overlay third) := by
  simp [overlay, Option.or_assoc]

/-- A stack of title bars, the uppermost of which comes first. -/
def stack (layers : List TitleBarData) : TitleBarData := layers.foldr overlay blank

theorem stack_cons (layer : TitleBarData) (layers : List TitleBarData) :
    stack (layer :: layers) = layer.overlay (stack layers) :=
  rfl

theorem stack_append (upper lower : List TitleBarData) :
    stack (upper ++ lower) = (stack upper).overlay (stack lower) := by
  induction upper with
  | nil => rfl
  | cons layer upper ih => rw [List.cons_append, stack_cons, ih, ← overlay_assoc, stack_cons]

/-- A part that the upper of two title bars takes precedence in. -/
def Layered {α : Type} (part : TitleBarData → Option α) : Prop :=
  part blank = none ∧ ∀ upper lower, part (overlay upper lower) = (part upper).or (part lower)

/-- A part of a stack is that of the uppermost layer that has it. -/
theorem Layered.stack {α : Type} {part : TitleBarData → Option α} (layered : Layered part)
    (layers : List TitleBarData) : part (TitleBarData.stack layers) = layers.findSome? part := by
  induction layers with
  | nil => exact layered.1
  | cons layer layers ih =>
    rw [stack_cons, layered.2, ih, List.findSome?_cons]
    cases part layer <;> rfl

end TitleBarData

/-- A part of the title bar that a rule may set. -/
inductive Part where
  | caption
  | foreground
  | background
  | searchBox
  | blocks
deriving DecidableEq, Repr

namespace Rule

/-- Whether a rule sets a part of the title bar. -/
def sets (rule : Rule) : Part → Bool
  | .caption => rule.caption.isSome
  | .foreground => rule.foreground.isSome
  | .background => rule.background.isSome
  | .searchBox => rule.searchBox.isSome
  | .blocks => rule.blocks.isSome

/-- A rule with the same predicates that leaves some of the parts to others. -/
def restrict (rule : Rule) (keeps : Part → Bool) : Rule where
  predicates := rule.predicates
  caption := if keeps .caption then rule.caption else none
  foreground := if keeps .foreground then rule.foreground else none
  background := if keeps .background then rule.background else none
  searchBox := if keeps .searchBox then rule.searchBox else none
  blocks := if keeps .blocks then rule.blocks else none

/-- A rule with the same predicates that sets one part only. -/
def only (rule : Rule) (part : Part) : Rule := rule.restrict (· == part)

theorem ite_of_sets {α : Type} {kept : Bool} {value : Option α} (keeps : value.isSome → kept) :
    (if kept then value else none) = value := by
  cases value with
  | none => simp
  | some value => rw [if_pos (keeps rfl)]

/-- What a rule does not set need not be kept. -/
theorem restrict_of_sets {rule : Rule} {keeps : Part → Bool}
    (kept : ∀ part, rule.sets part → keeps part) : rule.restrict keeps = rule := by
  rw [restrict, ite_of_sets (kept .caption), ite_of_sets (kept .foreground),
    ite_of_sets (kept .background), ite_of_sets (kept .searchBox), ite_of_sets (kept .blocks)]

end Rule

/-- A rule set without some of its rules. -/
def RuleSet.keep (kept : Rule → Bool) (set : RuleSet) : RuleSet :=
  { set with rules := set.rules.filter kept }

namespace Lookup

variable (lookup : Lookup)

/-- Whether the predicates of a rule hold. -/
def holds (rule : Rule) : Bool := (lookup.satisfiesAll rule.predicates).answer

/-- The parts that a rule sets, with its templates expanded. -/
def shows (rule : Rule) : TitleBarData where
  title := rule.caption.map fun caption => (lookup.expand caption).answer
  foreground := rule.foreground
  background := rule.background
  searchBox := rule.searchBox
  blocks := rule.blocks.map fun blocks => (lookup.blocksOf blocks).answer

/-- What a rule contributes to the title bar. -/
def layer (rule : Rule) : TitleBarData := if lookup.holds rule then lookup.shows rule else .blank

theorem answer_matched (sets : List RuleSet) :
    (lookup.matched sets).answer = (visited sets).filter lookup.holds := by
  rw [matched]
  induction visited sets with
  | nil => rfl
  | cons rule rest ih =>
    rw [Trace.filterOf, Trace.answer_bind, List.filter_cons]
    change (if lookup.holds rule then _ else _ : Trace (List Rule)).answer = _
    split
    · rw [Trace.answer_bind, ih]
      rfl
    · exact ih

theorem answer_expandOption (template : Option String) :
    (lookup.expandOption template).answer = template.map fun text => (lookup.expand text).answer := by
  cases template <;> rfl

theorem answer_blocksOption (blocks : Option (List BlockRule)) :
    (lookup.blocksOption blocks).answer = blocks.map fun list => (lookup.blocksOf list).answer := by
  cases blocks <;> rfl

theorem stack_layer (rules : List Rule) :
    TitleBarData.stack (rules.map lookup.layer) =
      TitleBarData.stack ((rules.filter lookup.holds).map lookup.shows) := by
  induction rules with
  | nil => rfl
  | cons rule rules ih =>
    rw [List.map_cons, TitleBarData.stack_cons, ih, layer, List.filter_cons]
    split <;> rfl

theorem findSome?_cons_or {α β : Type} (set : α → Option β) (a : α) (list : List α) :
    (a :: list).findSome? set = (set a).or (list.findSome? set) := by
  rw [List.findSome?_cons]
  cases set a <;> rfl

/-- The title bar is the stack of what the rules contribute, in the order in which they are visited. -/
theorem answer_titleBar (sets : List RuleSet) :
    (lookup.titleBar sets).answer = TitleBarData.stack ((visited sets).map lookup.layer) := by
  rw [stack_layer, ← answer_matched]
  simp only [titleBar, Trace.answer_bind, Trace.answer_pure, answer_expandOption,
    answer_blocksOption]
  induction (lookup.matched sets).answer with
  | nil => rfl
  | cons rule rules ih =>
    rw [List.map_cons, TitleBarData.stack_cons, ← ih]
    simp only [findSome?_cons_or, Option.map_or]
    rfl

theorem visited_append (lower higher : List RuleSet) :
    visited (lower ++ higher) = visited higher ++ visited lower := by
  rw [visited, List.reverse_append, List.flatMap_append, visited, visited]

theorem visited_singleton (set : RuleSet) : visited [set] = set.rules := by
  simp [visited]

/-- A part of the title bar as the earliest of some rules sets it that sets it at all and whose
predicates hold; none if there is no such rule. -/
inductive Earliest {α : Type} (part : TitleBarData → Option α) : List Rule → Option α → Prop
  | unset {rules : List Rule}
    (silent : ∀ rule ∈ rules, lookup.holds rule → part (lookup.shows rule) = none) :
    Earliest part rules none
  | set {before after : List Rule} {rule : Rule} {value : α}
    (earlier : ∀ rule ∈ before, lookup.holds rule → part (lookup.shows rule) = none)
    (holds : lookup.holds rule) (sets : part (lookup.shows rule) = some value) :
    Earliest part (before ++ rule :: after) (some value)

/-- Every part of a title bar is decided by the earliest of some rules that holds and sets it. -/
structure Decided (rules : List Rule) (bar : TitleBarData) : Prop where
  title : lookup.Earliest (·.title) rules bar.title
  foreground : lookup.Earliest (·.foreground) rules bar.foreground
  background : lookup.Earliest (·.background) rules bar.background
  searchBox : lookup.Earliest (·.searchBox) rules bar.searchBox
  blocks : lookup.Earliest (·.blocks) rules bar.blocks

variable {lookup}

theorem part_layer_eq_none_iff {α : Type} {part : TitleBarData → Option α}
    (layered : TitleBarData.Layered part) {rule : Rule} :
    part (lookup.layer rule) = none ↔ (lookup.holds rule → part (lookup.shows rule) = none) := by
  rw [layer]
  split
  · simp_all
  · simp_all [layered.1]

theorem earliest_stack {α : Type} {part : TitleBarData → Option α}
    (layered : TitleBarData.Layered part) (rules : List Rule) :
    lookup.Earliest part rules (part (TitleBarData.stack (rules.map lookup.layer))) := by
  rw [layered.stack, List.findSome?_map]
  rcases found : rules.findSome? (part ∘ lookup.layer) with _ | value
  · rw [List.findSome?_eq_none_iff] at found
    exact .unset fun rule member => (part_layer_eq_none_iff layered).1 (found rule member)
  · obtain ⟨before, rule, after, rfl, sets, earlier⟩ := List.findSome?_eq_some_iff.1 found
    have holds : lookup.holds rule := by
      by_contra fails
      rw [Function.comp_apply, layer, if_neg fails, layered.1] at sets
      contradiction
    rw [Function.comp_apply, layer, if_pos holds] at sets
    exact .set (fun other member => (part_layer_eq_none_iff layered).1 (earlier other member)) holds
      sets

theorem decided_stack (rules : List Rule) :
    lookup.Decided rules (TitleBarData.stack (rules.map lookup.layer)) where
  title := earliest_stack ⟨rfl, fun _ _ => rfl⟩ rules
  foreground := earliest_stack ⟨rfl, fun _ _ => rfl⟩ rules
  background := earliest_stack ⟨rfl, fun _ _ => rfl⟩ rules
  searchBox := earliest_stack ⟨rfl, fun _ _ => rfl⟩ rules
  blocks := earliest_stack ⟨rfl, fun _ _ => rfl⟩ rules

/-- Rules that do not hold contribute nothing. -/
theorem stack_filter {kept : Rule → Bool} (keeps : ∀ rule, lookup.holds rule → kept rule)
    (rules : List Rule) :
    TitleBarData.stack ((rules.filter kept).map lookup.layer) =
      TitleBarData.stack (rules.map lookup.layer) := by
  rw [stack_layer, stack_layer, List.filter_filter]
  refine congrArg (fun rules : List Rule => TitleBarData.stack (rules.map lookup.shows)) ?_
  refine List.filter_congr fun rule _ => ?_
  cases holds : lookup.holds rule with
  | false => rfl
  | true => rw [keeps rule holds, Bool.and_self]

theorem or_ite {α : Type} (value : Option α) (first second : Bool) :
    (if first then value else none).or (if second then value else none) =
      if first || second then value else none := by
  cases first <;> cases second <;> cases value <;> rfl

theorem shows_restrict (rule : Rule) (keeps : Part → Bool) :
    lookup.shows (rule.restrict keeps) = {
      title := if keeps .caption then (lookup.shows rule).title else none
      foreground := if keeps .foreground then (lookup.shows rule).foreground else none
      background := if keeps .background then (lookup.shows rule).background else none
      searchBox := if keeps .searchBox then (lookup.shows rule).searchBox else none
      blocks := if keeps .blocks then (lookup.shows rule).blocks else none } := by
  simp only [shows, Rule.restrict, apply_ite (Option.map _), Option.map_none]

/-- Two rules that set some parts of what one rule sets. -/
theorem layer_restrict_overlay (rule : Rule) (first second : Part → Bool) :
    (lookup.layer (rule.restrict first)).overlay (lookup.layer (rule.restrict second)) =
      lookup.layer (rule.restrict fun part => first part || second part) := by
  have same (keeps : Part → Bool) : lookup.holds (rule.restrict keeps) = lookup.holds rule := rfl
  simp only [layer, same]
  split
  · simp only [shows_restrict, TitleBarData.overlay, or_ite]
  · rfl

/-- A rule contributes what several rules contribute that set one part each. -/
theorem stack_only (rule : Rule) (parts : List Part) :
    TitleBarData.stack ((parts.map rule.only).map lookup.layer) =
      lookup.layer (rule.restrict parts.contains) := by
  induction parts with
  | nil =>
    rw [layer]
    split <;> rfl
  | cons part parts ih =>
    rw [List.map_cons, List.map_cons, TitleBarData.stack_cons, ih, Rule.only, layer_restrict_overlay]
    rfl

theorem visited_split (lower higher : List RuleSet) (origin : RuleOrigin)
    (before middle after : List Rule) :
    visited (lower ++ ⟨origin, before ++ middle ++ after⟩ :: higher) =
      visited higher ++ before ++ middle ++ (after ++ visited lower) := by
  have split : lower ++ ⟨origin, before ++ middle ++ after⟩ :: higher =
      lower ++ ([⟨origin, before ++ middle ++ after⟩] ++ higher) := rfl
  rw [split, visited_append, visited_append, visited_singleton]
  simp only [List.append_assoc]

theorem visited_keep (kept : Rule → Bool) (sets : List RuleSet) :
    visited (sets.map (RuleSet.keep kept)) = (visited sets).filter kept := by
  rw [visited, visited, ← List.map_reverse, List.flatMap_map, List.filter_flatMap]
  rfl

/-- Precedence is an overlay: what the higher of two lists of rule sets leads to is laid over what the
lower one leads to. Within one set the earliest rule decides. A rule that does not hold can be removed,
and a rule can be split into rules for its parts. -/
theorem titleBar_overlay (lookup : Lookup) :
    (∀ lower higher : List RuleSet, (lookup.titleBar (lower ++ higher)).answer =
      (lookup.titleBar higher).answer.overlay (lookup.titleBar lower).answer) ∧
    (∀ set : RuleSet, lookup.Decided set.rules (lookup.titleBar [set]).answer) ∧
    (∀ (others : Rule → Bool) (sets : List RuleSet),
      (lookup.titleBar (sets.map (RuleSet.keep fun rule => lookup.holds rule || others rule))).answer =
        (lookup.titleBar sets).answer) ∧
    ∀ (lower higher : List RuleSet) (origin : RuleOrigin) (before after : List Rule) (rule : Rule)
      (parts : List Part), (∀ part, rule.sets part → part ∈ parts) →
      (lookup.titleBar
        (lower ++ ⟨origin, before ++ parts.map rule.only ++ after⟩ :: higher)).answer =
        (lookup.titleBar (lower ++ ⟨origin, before ++ [rule] ++ after⟩ :: higher)).answer := by
  refine ⟨fun lower higher => ?_, fun set => ?_, fun others sets => ?_, ?_⟩
  · rw [answer_titleBar, visited_append, List.map_append, TitleBarData.stack_append,
      answer_titleBar, answer_titleBar]
  · rw [answer_titleBar, visited_singleton]
    exact decided_stack set.rules
  · have keeps (rule : Rule) (holds : lookup.holds rule) : lookup.holds rule || others rule := by
      rw [holds, Bool.true_or]
    rw [answer_titleBar, visited_keep, stack_filter keeps, answer_titleBar]
  · intro lower higher origin before after rule parts covers
    have whole : TitleBarData.stack ((parts.map rule.only).map lookup.layer) = lookup.layer rule := by
      rw [stack_only, Rule.restrict_of_sets fun part sets => List.contains_iff_mem.2 (covers part sets)]
    have single : TitleBarData.stack ([rule].map lookup.layer) = lookup.layer rule :=
      TitleBarData.overlay_blank _
    rw [answer_titleBar, answer_titleBar, visited_split, visited_split]
    simp only [List.map_append, TitleBarData.stack_append, whole, single]

/-- A rule for three parts, one of which it sets to nothing. -/
def threeParts : Rule where
  predicates := []
  caption := some "$ide-name"
  foreground := none
  background := none
  searchBox := some false
  blocks := some []

/-- It may as well be three rules between those before and those behind it. -/
theorem titleBar_overlay_split :
    let lookup : Lookup := ⟨⟨[], List.nodup_nil⟩, ⟨.design, none⟩⟩
    let parts : List Part := [.blocks, .caption, .searchBox]
    let other : Rule := { threeParts with caption := none, foreground := some ⟨0, 0, 0, 255⟩ }
    (∀ part, threeParts.sets part → part ∈ parts) ∧
      (lookup.titleBar ([RuleSet.defaults] ++
        ⟨.user, [other] ++ parts.map threeParts.only ++ [other]⟩ :: [.empty .solution])).answer =
      (lookup.titleBar ([RuleSet.defaults] ++
        ⟨.user, [other] ++ [threeParts] ++ [other]⟩ :: [.empty .solution])).answer := by
  intro lookup parts other
  have covers : ∀ part, threeParts.sets part → part ∈ parts := by
    intro part
    cases part <;> decide
  exact ⟨covers, (titleBar_overlay lookup).2.2.2 _ _ _ _ _ _ _ covers⟩

end Lookup

end TitleBar
