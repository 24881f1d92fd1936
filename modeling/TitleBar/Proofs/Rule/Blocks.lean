import TitleBar.Proofs.Rule.Precedence
import TitleBar.Proofs.Template.Opaque
import TitleBar.Proofs.Template.Piece

/-! # The blocks of a title bar

All blocks come from one rule: of its blocks those are shown, in order, whose predicates hold and whose
text is not empty. Nothing is asked for a template that is not needed for them: neither for the tooltip of
a block that is not shown, nor for the text of one whose predicates fail, nor for any block of another
rule.
-/

namespace TitleBar

namespace Lookup

variable (lookup : Lookup)

/-- What a template shows; nothing if its expansion is aborted. -/
def shown (template : String) : String :=
  match (Template.expand? lookup.value template).answer with
  | .ok text => text
  | .error _ => ""

/-- The text of a block; empty if it has no template. -/
def textOf (block : BlockRule) : String := block.text.elim "" lookup.shown

/-- The tooltip of a block, unless it is empty. -/
def altTextOf (block : BlockRule) : Option String :=
  (block.altText.map lookup.shown).filter fun text => !text.isEmpty

/-- Whether the predicates of a block hold. -/
def admits (block : BlockRule) : Bool := (lookup.satisfiesAll block.predicates).answer

/-- Whether a block is shown. -/
def keeps (block : BlockRule) : Bool := lookup.admits block && lookup.textOf block ≠ ""

/-- What a block shows. -/
def dataOf (block : BlockRule) : BlockData where
  text := lookup.textOf block
  altText := lookup.altTextOf block
  foreground := block.foreground
  background := block.background

/-- What is asked for a template, if there is one. -/
def askedFor : Option String → List Query
  | some template => (Template.expand? lookup.value template).asked
  | none => []

/-- What is asked for a block. -/
def askedForBlock (block : BlockRule) : List Query :=
  (lookup.satisfiesAll block.predicates).asked ++
    if lookup.admits block then
      lookup.askedFor block.text ++ if lookup.keeps block then lookup.askedFor block.altText else []
    else []

theorem expand_eq (template : String) :
    lookup.expand template = ⟨lookup.shown template, lookup.askedFor (some template)⟩ := by
  refine Trace.ext ?_ ?_
  · rw [expand, Template.expand, Trace.answer_bind, shown]
    cases (Template.expand? lookup.value template).answer with
    | ok text => rfl
    | error error => rfl
  · rw [expand, Template.expand, Trace.asked_bind, askedFor]
    split
    · exact List.append_nil _
    · exact List.append_nil _

/-- The empty template shows nothing and asks for nothing. -/
theorem expand_empty : lookup.expand "" = pure "" := by
  rw [expand, Template.expand, Template.expand?, Template.ofString]
  rw [show ("" : String).toList = [] from rfl, Template.parse_nil]
  rfl

theorem expand_text (block : BlockRule) :
    lookup.expand (block.text.getD "") = ⟨lookup.textOf block, lookup.askedFor block.text⟩ := by
  rcases text : block.text with _ | template
  · rw [textOf, text]
    exact lookup.expand_empty
  · rw [textOf, text]
    exact lookup.expand_eq template

theorem expandOption_eq (template : Option String) :
    lookup.expandOption template = ⟨template.map lookup.shown, lookup.askedFor template⟩ := by
  rcases template with _ | template
  · rfl
  · rw [expandOption, expand_eq]
    exact Trace.ext rfl (List.append_nil _)

theorem keeps_of_admits {block : BlockRule} (holds : lookup.admits block) :
    lookup.keeps block ↔ lookup.textOf block ≠ "" := by
  simp [keeps, holds]

theorem textOf_ne_empty {block : BlockRule} (kept : lookup.keeps block) : lookup.textOf block ≠ "" := by
  simpa using (Bool.and_eq_true_iff.1 kept).2

theorem altTextOf_ne_empty (block : BlockRule) : lookup.altTextOf block ≠ some "" := by
  rw [altTextOf]
  intro empty
  simpa using (Option.filter_eq_some_iff.1 empty).2

theorem blockOf_eq {block : BlockRule} (holds : lookup.admits block) :
    lookup.blockOf block = ⟨if lookup.keeps block then some (lookup.dataOf block) else none,
      lookup.askedFor block.text ++
        if lookup.keeps block then lookup.askedFor block.altText else []⟩ := by
  rw [blockOf, expand_text, expandOption_eq]
  by_cases empty : lookup.textOf block = ""
  · have hidden : ¬lookup.keeps block := by rwa [keeps_of_admits lookup holds, not_not]
    rw [if_neg hidden, if_neg hidden]
    refine Trace.ext ?_ ?_
    · rw [Trace.answer_bind, if_pos (String.isEmpty_iff.2 empty)]
      rfl
    · rw [Trace.asked_bind, if_pos (String.isEmpty_iff.2 empty)]
      rfl
  · have kept : lookup.keeps block := (keeps_of_admits lookup holds).2 empty
    have held : ¬(lookup.textOf block).isEmpty = true := mt String.isEmpty_iff.1 empty
    rw [if_pos kept, if_pos kept]
    refine Trace.ext ?_ ?_
    · rw [Trace.answer_bind, if_neg held]
      rfl
    · rw [Trace.asked_bind, if_neg held, Trace.asked_bind, Trace.asked_pure, List.append_nil]

/-- The blocks that are shown, in order, and what is asked for them. -/
theorem blocksOf_eq (blocks : List BlockRule) :
    lookup.blocksOf blocks =
      ⟨(blocks.filter lookup.keeps).map lookup.dataOf, blocks.flatMap lookup.askedForBlock⟩ := by
  induction blocks with
  | nil => rfl
  | cons block rest ih =>
    rw [blocksOf, ih, List.flatMap_cons, askedForBlock]
    by_cases holds : lookup.admits block
    · have admitted : (lookup.satisfiesAll block.predicates).answer = true := holds
      refine Trace.ext ?_ ?_
      · simp only [Trace.answer_bind, admitted, if_true, blockOf_eq lookup holds, Trace.answer_pure]
        rw [List.filter_cons]
        split <;> rfl
      · simp only [Trace.asked_bind, admitted, if_true, blockOf_eq lookup holds, Trace.asked_pure,
          holds, List.append_nil, List.append_assoc]
    · have refused : ¬(lookup.satisfiesAll block.predicates).answer = true := holds
      have hidden : ¬lookup.keeps block = true := by simp [keeps, holds]
      refine Trace.ext ?_ ?_
      · simp only [Trace.answer_bind, if_neg refused]
        rw [List.filter_cons_of_neg hidden]
        rfl
      · simp only [Trace.asked_bind, if_neg refused, if_neg holds, List.append_nil]
        simp

/-- The predicates of every rule are asked for. -/
theorem asked_matched (sets : List RuleSet) :
    (lookup.matched sets).asked =
      (visited sets).flatMap fun rule => (lookup.satisfiesAll rule.predicates).asked := by
  rw [matched]
  induction visited sets with
  | nil => rfl
  | cons rule rest ih =>
    rw [Trace.filterOf, Trace.asked_bind, List.flatMap_cons, ← ih]
    split
    · rw [Trace.asked_bind, Trace.asked_pure, List.append_nil]
    · rfl

theorem asked_blocksOption (blocks : Option (List BlockRule)) :
    (lookup.blocksOption blocks).asked = (blocks.getD []).flatMap lookup.askedForBlock := by
  rcases blocks with _ | blocks
  · rfl
  · rw [blocksOption, blocksOf_eq, Trace.asked_bind, Trace.asked_pure, List.append_nil]
    rfl

/-- All that is asked for a title bar: for the predicates of every rule, for one caption, and for the
blocks of one rule. -/
theorem asked_titleBar (sets : List RuleSet) :
    (lookup.titleBar sets).asked =
      (visited sets).flatMap (fun rule => (lookup.satisfiesAll rule.predicates).asked) ++
        (lookup.askedFor (((visited sets).filter lookup.holds).findSome? (·.caption)) ++
          ((((visited sets).filter lookup.holds).findSome? (·.blocks)).getD []).flatMap
            lookup.askedForBlock) := by
  rw [← answer_matched, ← asked_matched]
  simp only [titleBar, Trace.asked_bind, Trace.asked_pure, expandOption_eq, asked_blocksOption,
    List.append_nil]

variable {lookup}

/-- The first of some rules that declares blocks, if others in front of it declare none. -/
theorem findSome?_blocks {before after : List Rule} {rule : Rule} {blocks : List BlockRule}
    (earlier : ∀ other ∈ before, lookup.holds other → other.blocks = none) (holds : lookup.holds rule)
    (declares : rule.blocks = some blocks) :
    ((before ++ rule :: after).filter lookup.holds).findSome? (·.blocks) = some blocks := by
  have none : (before.filter lookup.holds).findSome? (·.blocks) = none := by
    rw [List.findSome?_eq_none_iff]
    intro other member
    obtain ⟨inside, satisfied⟩ := List.mem_filter.1 member
    exact earlier other inside satisfied
  rw [List.filter_append, List.findSome?_append, none, List.filter_cons_of_pos holds,
    List.findSome?_cons, declares]
  rfl

/-- If a title bar has blocks, these are the blocks of the first rule that holds and declares any: those
of them, in order, whose predicates hold and whose text is not empty. Their texts are not empty, nor are
their tooltips. Besides the predicates of all rules and one caption, only that rule is asked for: each of
its blocks for its predicates, for its text if these hold, and for its tooltip if it is shown. -/
theorem titleBar_blocks (lookup : Lookup) (sets : List RuleSet) {shown : List BlockData}
    (has : (lookup.titleBar sets).answer.blocks = some shown) :
    ∃ before rule after blocks, visited sets = before ++ rule :: after ∧
      (∀ other ∈ before, lookup.holds other → other.blocks = none) ∧ lookup.holds rule ∧
      rule.blocks = some blocks ∧
      shown = (blocks.filter lookup.keeps).map lookup.dataOf ∧
      (∀ block ∈ shown, block.text ≠ "" ∧ block.altText ≠ some "") ∧
      (lookup.titleBar sets).asked =
        (visited sets).flatMap (fun rule => (lookup.satisfiesAll rule.predicates).asked) ++
          (lookup.askedFor (((visited sets).filter lookup.holds).findSome? (·.caption)) ++
            blocks.flatMap lookup.askedForBlock) := by
  have decides : lookup.Earliest (·.blocks) (visited sets) (lookup.titleBar sets).answer.blocks := by
    rw [answer_titleBar]
    exact earliest_stack ⟨rfl, fun _ _ => rfl⟩ (visited sets)
  rw [has] at decides
  generalize split : visited sets = rules at decides
  obtain _ | @⟨before, after, rule, _, earlier, holds, sets⟩ := decides
  obtain ⟨blocks, declares, made⟩ := Option.map_eq_some_iff.1 sets
  have others (other : Rule) (member : other ∈ before) (satisfied : lookup.holds other) :
      other.blocks = none :=
    Option.map_eq_none_iff.1 (earlier other member satisfied)
  have all : shown = (blocks.filter lookup.keeps).map lookup.dataOf := by
    rw [← made, blocksOf_eq]
  refine ⟨before, rule, after, blocks, rfl, others, holds, declares, all, fun block member => ?_, ?_⟩
  · rw [all] at member
    obtain ⟨source, kept, rfl⟩ := List.mem_map.1 member
    exact ⟨textOf_ne_empty lookup (List.mem_filter.1 kept).2, altTextOf_ne_empty lookup source⟩
  · rw [asked_titleBar, split, findSome?_blocks others holds declares]
    rfl

/-- A rule for three blocks: one with an empty tooltip, one whose predicate fails on the branch `main`, and
one without a text. -/
def threeBlocks : Rule where
  predicates := [⟨"branch", ⟨""⟩⟩]
  caption := none
  foreground := none
  background := none
  searchBox := none
  blocks := some [
    ⟨[⟨"branch", ⟨"m*"⟩⟩], some "$branch", some "$tag", none, none⟩,
    ⟨[⟨"branch", ⟨"x*"⟩⟩], some "$branch", some "$branch", none, none⟩,
    ⟨[], none, some "$branch", none, none⟩]

/-- One of the blocks is shown. The branch is asked for by both rules, by two blocks, and by one text. -/
theorem titleBar_blocks_main :
    let lookup := Template.branchLookup "main"
    let sets : List RuleSet := [⟨.user, [threeBlocks, threeBlocks]⟩]
    let shown : List BlockData := [⟨"main", none, none, none⟩]
    (lookup.titleBar sets).answer.blocks = some shown ∧
      ∃ before rule after blocks, visited sets = before ++ rule :: after ∧ lookup.holds rule ∧
        rule.blocks = some blocks ∧ shown = (blocks.filter lookup.keeps).map lookup.dataOf ∧
        (lookup.titleBar sets).asked =
          [⟨"Git", "branch"⟩, ⟨"Git", "branch"⟩] ++ ([] ++ blocks.flatMap lookup.askedForBlock) ∧
        (lookup.titleBar sets).asked.length = 5 := by
  intro lookup sets shown
  have has : (lookup.titleBar sets).answer.blocks = some shown := by decide +kernel
  obtain ⟨before, rule, after, blocks, split, -, holds, declares, all, -, asked⟩ :=
    titleBar_blocks lookup sets has
  have predicates : (visited sets).flatMap (fun rule => (lookup.satisfiesAll rule.predicates).asked) =
      [⟨"Git", "branch"⟩, ⟨"Git", "branch"⟩] := by decide +kernel
  have caption : lookup.askedFor (((visited sets).filter lookup.holds).findSome? (·.caption)) = [] := by
    decide +kernel
  rw [predicates, caption] at asked
  exact ⟨has, before, rule, after, blocks, split, holds, declares, all, asked, by decide +kernel⟩

end Lookup

end TitleBar
