import TitleBar.Proofs.Template.Condition

/-! # The course of an expansion

A text shows what its first piece shows, and then what the rest shows; a piece shows what the text
inside of it shows that its evaluation enters, if it enters one. So where an expansion comes to some
place in a template, it has shown something before, and the text that is left there and the texts
around it decide what comes behind.
-/

namespace TitleBar.Template

/-- What a text is held in. -/
inductive Enclosure where
  /-- The body of `?tag{…}`, `$tag?{…}` or `$tag!{…}`. -/
  | conditional
  /-- A branch of an `if`. -/
  | branch
  /-- A block of a branch. -/
  | block
  /-- A quoted run of a branch. -/
  | quotes
deriving DecidableEq, Repr

/-- How a text is read by what holds it. -/
def Enclosure.mode : Enclosure → Mode
  | conditional => .literal false
  | branch | block => .structural
  | quotes => .literal true

/-- A text that the evaluation of a piece enters. -/
structure Entry where
  enclosure : Enclosure
  mode : Mode
  text : List Char
  bound : List Char
deriving DecidableEq, Repr

/-- A body with what it is held in, and the value that it is bound to. -/
def Body.entry (enclosure : Enclosure) (bound : List Char) (body : Body) : Entry :=
  ⟨enclosure, body.mode, body.text, bound⟩

/-- The text inside of a piece that its evaluation enters, if any. -/
def Piece.entered? (ask : String → Trace String) (bound : List Char) (piece : Piece) : Option Entry :=
  let held (tag : List Char) : String := (ask (String.ofList tag)).answer
  match piece with
  | present tag body =>
    if held tag = "" then none else some (body.entry .conditional (held tag).toList)
  | absent tag body => if held tag = "" then some (body.entry .conditional bound) else none
  | branch tag yes | unclosedElse tag yes =>
    if held tag = "" then none else some (yes.entry .branch bound)
  | branches tag yes no => some ((if held tag = "" then no else yes).entry .branch bound)
  | quoted inside | unclosedQuote inside => some ⟨.quotes, .literal true, inside, bound⟩
  | block body | unclosedBlock body => some (body.entry .block bound)
  | plain _ | escaped _ | backslash | enclosing | dollar | value _ | joined _ | unclosed _ => none

section Pieces

variable (ask : String → Trace String) (depth : Depth) (bound : List Char)

/-- What a piece shows. -/
def Piece.expansion (mode : Mode) (piece : Piece) : Expansion :=
  expandAt ask depth bound (piece.tree mode .done)

/-- What a piece shows stands in front of what the rest shows. -/
theorem Piece.expandAt_tree (mode : Mode) (rest : Template) (piece : Piece) :
    expandAt ask depth bound (piece.tree mode rest) = do
      let front ← piece.expansion ask depth bound mode
      let back ← expandAt ask depth bound rest
      return front ++ back := by
  cases piece with
  | plain | escaped | backslash =>
    cases mode <;> simp [Piece.expansion, Piece.tree, Template.plain, expandAt]
  | present | absent | branch | unclosedElse =>
    simp only [Piece.expansion, Piece.tree, expandAt, bind_assoc, pure_bind, List.append_nil]
    refine bind_congr fun value => ?_
    split <;> simp
  | branches =>
    simp only [Piece.expansion, Piece.tree, expandAt, bind_assoc, pure_bind, List.append_nil]
    refine bind_congr fun value => bind_congr fun deeper => ?_
    split <;> simp
  | _ => simp [Piece.expansion, Piece.tree, expandAt]

/-- A piece whose evaluation enters a text shows what that text shows. -/
theorem Piece.answer_expansion_of_entry {piece : Piece} {entry : Entry} {deeper : Depth}
    (enters : piece.entered? ask bound = some entry) (descends : depth.descend = .ok deeper)
    (mode : Mode) :
    (piece.expansion ask depth bound mode).run.answer =
      (expandAt ask deeper entry.bound (parse entry.mode false entry.text)).run.answer := by
  have below (shown : Depth → Expansion) :
      (liftM depth.descend >>= shown : Expansion) = shown deeper := by
    rw [descends, liftM_ok, pure_bind]
  cases piece with
  | present tag body | branch tag body | unclosedElse tag body =>
    obtain ⟨held, same⟩ := Option.ite_none_left_eq_some.1 enters
    obtain rfl := Option.some.inj same
    simp only [Piece.expansion, Piece.tree, expandAt, answer_ask_bind, String.isEmpty_iff, if_neg held,
      below, pure_bind, List.append_nil, bind_pure]
    rfl
  | absent tag body =>
    obtain ⟨empty, same⟩ := Option.ite_none_right_eq_some.1 enters
    obtain rfl := Option.some.inj same
    simp only [Piece.expansion, Piece.tree, expandAt, answer_ask_bind, String.isEmpty_iff, if_pos empty,
      below, pure_bind, List.append_nil, bind_pure]
    rfl
  | branches tag yes no =>
    obtain rfl := Option.some.inj enters
    simp only [Piece.expansion, Piece.tree, expandAt, answer_ask_bind, String.isEmpty_iff, below,
      pure_bind, List.append_nil, bind_pure]
    split <;> rfl
  | quoted inside | unclosedQuote inside =>
    obtain rfl := Option.some.inj enters
    simp only [Piece.expansion, Piece.tree, expandAt, below, pure_bind, List.append_nil, bind_pure]
  | block body | unclosedBlock body =>
    obtain rfl := Option.some.inj enters
    simp only [Piece.expansion, Piece.tree, expandAt, below, pure_bind, List.append_nil, bind_pure]
    rfl
  | _ => contradiction

end Pieces

/-- The bodies of a piece are read as what holds them tells. -/
def Piece.Uniform : Piece → Prop
  | present _ body | absent _ body => body.mode = Enclosure.conditional.mode
  | branch _ yes | unclosedElse _ yes => yes.mode = Enclosure.branch.mode
  | branches _ yes no => yes.mode = Enclosure.branch.mode ∧ no.mode = Enclosure.branch.mode
  | block body | unclosedBlock body => body.mode = Enclosure.block.mode
  | _ => True

theorem uniform_cutConstruct (opening : Opening) (after : List Char) :
    (cutConstruct opening after).piece.Uniform := by
  cases opening with
  | enclosing | dollar | value => trivial
  | joined | present | absent =>
    rw [cutConstruct, cutBody]
    split
    · first | rfl | trivial
    · trivial
  | branch =>
    rw [cutConstruct]
    split
    · rw [cutElse]
      split
      · rfl
      · split
        · rfl
        · exact ⟨rfl, rfl⟩
    · trivial

theorem uniform_of_piece? {mode : Mode} {glued : Bool} {text : List Char} {cut : Cut}
    (found : piece? mode glued text = some cut) : cut.piece.Uniform := by
  unfold piece? at found
  split at found
  · contradiction
  · obtain rfl := Option.some.inj found
    trivial
  · obtain rfl := Option.some.inj found
    trivial
  · split at found
    · split at found <;> obtain rfl := Option.some.inj found <;> trivial
    · split at found
      · split at found <;> obtain rfl := Option.some.inj found <;> rfl
      · split at found <;> obtain rfl := Option.some.inj found
        · trivial
        · exact uniform_cutConstruct _ _

theorem Piece.Uniform.entry_mode {ask : String → Trace String} {bound : List Char} {piece : Piece}
    {entry : Entry} (uniform : piece.Uniform) (enters : piece.entered? ask bound = some entry) :
    entry.mode = entry.enclosure.mode := by
  cases piece with
  | present tag body | branch tag body | unclosedElse tag body =>
    obtain ⟨-, same⟩ := Option.ite_none_left_eq_some.1 enters
    obtain rfl := Option.some.inj same
    exact uniform
  | absent tag body =>
    obtain ⟨-, same⟩ := Option.ite_none_right_eq_some.1 enters
    obtain rfl := Option.some.inj same
    exact uniform
  | branches tag yes no =>
    obtain rfl := Option.some.inj enters
    split
    · exact uniform.2
    · exact uniform.1
  | quoted inside | unclosedQuote inside =>
    obtain rfl := Option.some.inj enters
    rfl
  | block body | unclosedBlock body =>
    obtain rfl := Option.some.inj enters
    exact uniform
  | _ => contradiction

/-- Where an expansion is. -/
structure Spot where
  mode : Mode
  /-- Whether the next character continues a word. -/
  glued : Bool
  /-- What is left of the text that is expanded. -/
  text : List Char
  bound : List Char
  depth : Depth
deriving DecidableEq, Repr

namespace Spot

/-- Where the expansion of a template starts. -/
def start (template : List Char) : Spot :=
  ⟨.literal false, false, template, [], .limited maxDepth maxDepth⟩

/-- Where the expansion of a text starts that is entered. -/
def inside (entry : Entry) (depth : Depth) : Spot :=
  ⟨entry.mode, false, entry.text, entry.bound, depth⟩

/-- Where the expansion goes on behind a piece. -/
def behind (spot : Spot) (cut : Cut) : Spot := { spot with glued := cut.glued, text := cut.rest }

/-- The first piece of what is left. -/
def first? (spot : Spot) : Option Cut := piece? spot.mode spot.glued spot.text

variable (ask : String → Trace String)

/-- What is left shows a text. -/
def Shows (spot : Spot) (shown : List Char) : Prop :=
  (expandAt ask spot.depth spot.bound (parse spot.mode spot.glued spot.text)).run.answer = .ok shown

/-- A piece shows a text. -/
def ShowsFirst (spot : Spot) (piece : Piece) (shown : List Char) : Prop :=
  (piece.expansion ask spot.depth spot.bound spot.mode).run.answer = .ok shown

instance (spot : Spot) (shown : List Char) : Decidable (spot.Shows ask shown) :=
  inferInstanceAs (Decidable (_ = _))

instance (spot : Spot) (piece : Piece) (shown : List Char) : Decidable (spot.ShowsFirst ask piece shown) :=
  inferInstanceAs (Decidable (_ = _))

/-- The expansion comes from one place to another. The list holds what it enters on the way, the
outermost first; `before` is shown until then, and `after` behind the text that it has come into. -/
inductive Comes : Spot → List Enclosure → (before after : List Char) → Spot → Prop
  | here (spot : Spot) : Comes spot [] [] [] spot
  | onward {spot there : Spot} {cut : Cut} {trail : List Enclosure} {front before after : List Char}
    (first : spot.first? = some cut) (shows : spot.ShowsFirst ask cut.piece front)
    (comes : Comes (spot.behind cut) trail before after there) :
    Comes spot trail (front ++ before) after there
  | inward {spot there : Spot} {cut : Cut} {entry : Entry} {deeper : Depth} {trail : List Enclosure}
    {before after back : List Char} (first : spot.first? = some cut)
    (enters : cut.piece.entered? ask spot.bound = some entry) (descends : spot.depth.descend = .ok deeper)
    (comes : Comes (inside entry deeper) trail before after there)
    (shows : (spot.behind cut).Shows ask back) :
    Comes spot (entry.enclosure :: trail) before (after ++ back) there

variable {ask} {spot there : Spot} {cut : Cut} {front back shown : List Char}

/-- A text shows what its first piece shows, and then what the rest shows. -/
theorem Shows.of_first (first : spot.first? = some cut) (atFront : spot.ShowsFirst ask cut.piece front)
    (behind : (spot.behind cut).Shows ask back) : spot.Shows ask (front ++ back) := by
  have read : parse spot.mode spot.glued spot.text = cut.tree spot.mode := by
    rw [parse_eq_piece?]
    exact congrArg (fun cut => (Option.map (Cut.tree spot.mode) cut).getD .done) first
  rw [Shows, read, Cut.tree, Piece.expandAt_tree, run_bind_of_ok atFront, run_prepend]
  exact congrArg (Except.map (front ++ ·)) behind

/-- A piece shows what the text shows that its evaluation enters. -/
theorem Shows.showsFirst {entry : Entry} {deeper : Depth} {piece : Piece}
    (shows : (inside entry deeper).Shows ask shown)
    (enters : piece.entered? ask spot.bound = some entry) (descends : spot.depth.descend = .ok deeper) :
    spot.ShowsFirst ask piece shown :=
  (piece.answer_expansion_of_entry ask spot.depth spot.bound enters descends spot.mode).trans shows

namespace Comes

variable {trail : List Enclosure} {before after : List Char}

/-- What the start shows is told from where the expansion comes to. -/
theorem shows (comes : Comes ask spot trail before after there) (rest : there.Shows ask shown) :
    spot.Shows ask (before ++ shown ++ after) := by
  induction comes with
  | here spot => rwa [List.nil_append, List.append_nil]
  | onward first front comes ih =>
    rw [List.append_assoc, List.append_assoc, ← List.append_assoc _ shown]
    exact .of_first first front (ih rest)
  | inward first enters descends comes behind ih =>
    rw [← List.append_assoc]
    exact .of_first first ((ih rest).showsFirst enters descends) behind

/-- A text is read as the innermost of what holds it tells, and as nothing else. -/
theorem mode_eq (comes : Comes ask spot trail before after there) :
    there.mode = (trail.getLast?.map Enclosure.mode).getD spot.mode := by
  induction comes with
  | here spot => rfl
  | onward first front comes ih => exact ih
  | inward first enters descends comes behind ih =>
    -- What a text is read as where it is entered does not depend on how the text around it is read.
    have same := (uniform_of_piece? first).entry_mode enters
    rw [ih, List.getLast?_cons, Option.map_some, Option.getD_some, inside, same, Option.getD_map]

end Comes

end Spot

end TitleBar.Template
