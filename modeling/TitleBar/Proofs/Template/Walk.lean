import TitleBar.Proofs.Template.Nesting

/-! # Bodies are read as they were searched

Reading a body comes only to places that the search for its end came to, in the body itself and in
the bodies inside of it. Every piece that it meets there is closed, and ends where it ends in the
whole text. So what follows a body never changes how the body is read.
-/

namespace TitleBar.Template

/-- A place that reading comes to. -/
structure Place where
  mode : Mode
  /-- Whether the next character continues a word. -/
  glued : Bool
  /-- What is left of the body that is read. -/
  text : List Char
  /-- What follows the body in the whole text, from the brace that closes it on. -/
  behind : List Char
deriving DecidableEq, Repr

namespace Place

/-- Where reading a body starts. -/
def ofBody (body : Body) : Place := ⟨body.mode, false, body.text, body.behind⟩

/-- Reading goes on behind the first piece of a text, and into its bodies. -/
inductive Next (place : Place) : Place → Prop
  | onward {cut : Cut} (found : piece? place.mode place.glued place.text = some cut) :
    Next place ⟨place.mode, cut.glued, cut.rest, place.behind⟩
  | inward {cut : Cut} {body : Body} (found : piece? place.mode place.glued place.text = some cut)
    (inside : body ∈ cut.piece.bodies) : Next place (ofBody (body.before place.behind))

/-- A search comes to a place, and ends the body there where the body that is read ends. -/
def Met (start : Search) (place : Place) : Prop :=
  ∃ rest pairs stack, place.behind = '}' :: rest ∧
    closing? (place.mode.stack pairs) place.glued (place.text ++ '}' :: rest) = some rest ∧
    place.mode.Holds pairs stack ∧
    start.Reaches ⟨stack, place.glued, place.text ++ '}' :: rest⟩

end Place

theorem Piece.bodies_before {piece : Piece} (closed : piece.isClosed) (behind : List Char) :
    (piece.before behind).bodies = piece.bodies.map (·.before behind) := by
  cases piece <;> first | rfl | contradiction

theorem Mode.stack_zero (mode : Mode) : mode.stack 0 = [mode.brace] := by
  cases mode <;> rfl

theorem Mode.holds_zero {mode : Mode} {brace : Brace} (quotes : brace.quotes ↔ mode = .structural)
    (outer : List Brace) : mode.Holds 0 (brace :: outer) := by
  cases mode with
  | literal =>
    obtain rfl : brace = .literal := by cases brace <;> simp_all [Brace.quotes]
    exact List.prefix_append [.literal] outer
  | structural => exact ⟨brace, outer, rfl, quotes.2 rfl⟩

theorem piece?_dollar (mode : Mode) (glued : Bool) :
    piece? mode glued ['$'] = some ⟨.enclosing, false, []⟩ := by
  rw [piece?_of_opening (by decide) (by simp) (by simp)]
  rfl

theorem piece?_cut_of_eq {mode : Mode} {glued : Bool} {text rest : List Char} {pairs : ℕ} {cut : Cut}
    (found : piece? mode glued text = some cut)
    (ends : closing? (mode.stack pairs) glued (text ++ '}' :: rest) = some rest) :
    cut.piece.isClosed ∧
      piece? mode glued (text ++ '}' :: rest) = some (cut.inWhole text ('}' :: rest)) ∧
      mode.Onward pairs glued text rest cut := by
  have nonempty : text ≠ [] := by
    rintro rfl
    contradiction
  obtain ⟨_, first, cuts⟩ := piece?_cut nonempty ends
  rwa [Option.some.inj (first.symm.trans found)] at cuts

namespace Place.Met

variable {start : Search} {here there : Place}

/-- Where a body starts that the search has come into. -/
theorem of_entered {middle : Search} {outer : List Brace} {body : Body}
    (reaches : start.Reaches middle) (entered : body.Entered middle outer) :
    Met start (ofBody body) := by
  obtain ⟨bottom, inner, quotes, into, found, same⟩ := entered
  have behind : body.behind = '}' :: inner.rest := congrArg Body.behind same
  rw [behind] at into found
  refine ⟨inner.rest, 0, bottom :: outer, behind, ?_, Mode.holds_zero quotes outer,
    reaches.trans into⟩
  rw [Mode.stack_zero]
  exact (close?_eq_some_iff.1 found).2

theorem next (met : Met start here) (step : Next here there) : Met start there := by
  obtain ⟨rest, pairs, stack, behind, ends, holds, reaches⟩ := met
  cases step with
  | onward found =>
    obtain ⟨-, -, pairs', ends', goes⟩ := piece?_cut_of_eq found ends
    obtain ⟨stack', holds', onward, -⟩ := goes stack holds
    exact ⟨rest, pairs', stack', behind, ends', holds', reaches.trans onward⟩
  | @inward cut body found inside =>
    obtain ⟨closed, whole, -⟩ := piece?_cut_of_eq found ends
    obtain ⟨brace, outer, rfl, quotes⟩ := holds.exists_cons
    have noDollar : here.text ≠ ['$'] := by
      intro dollar
      rw [dollar, piece?_dollar] at found
      obtain rfl := Option.some.inj found
      simp [Piece.bodies] at inside
    rw [Cut.inWhole, if_neg noDollar] at whole
    rw [behind]
    refine of_entered reaches (.of_piece? outer quotes whole ?_ ?_)
    · rw [Cut.before, Piece.isClosed_before]
      exact closed
    · rw [Cut.before, Piece.bodies_before closed]
      exact List.mem_map_of_mem inside

theorem run (met : Met start here) (steps : Relation.ReflTransGen Next here there) :
    Met start there := by
  induction steps with
  | refl => exact met
  | tail _ step ih => exact ih.next step

end Place.Met

/-- Whatever follows a body in the whole text, reading the body, and the bodies in it, comes only to
places that the search for its end came to. The first piece of such a place is closed, it is that of
the whole text, and the search stepped over it. -/
theorem reading_follows_search {mode : Mode} {text : List Char} {closed : Closed} {place : Place}
    (found : close? mode.brace text = some closed)
    (reads : Relation.ReflTransGen Place.Next (.ofBody (closed.read mode)) place) :
    ∃ stack, Search.Reaches ⟨[mode.brace], false, text⟩
        ⟨stack, place.glued, place.text ++ place.behind⟩ ∧
      ∀ cut, piece? place.mode place.glued place.text = some cut →
        parse place.mode place.glued place.text = cut.tree place.mode ∧
        cut.piece.isClosed ∧
        piece? place.mode place.glued (place.text ++ place.behind) =
          some (cut.inWhole place.text place.behind) ∧
        ∃ stack', Search.Reaches ⟨stack, place.glued, place.text ++ place.behind⟩
            ⟨stack', cut.glued, cut.rest ++ place.behind⟩ ∧
          ((∀ c, cut.piece ≠ .plain c) → stack' = stack) := by
  have quotes : mode.brace.quotes ↔ mode = .structural := by
    cases mode <;> simp [Mode.brace, Brace.quotes]
  have start : Place.Met ⟨[mode.brace], false, text⟩ (.ofBody (closed.read mode)) :=
    .of_entered .refl (.of_close? quotes found .refl)
  obtain ⟨rest, pairs, stack, behind, ends, holds, reaches⟩ := start.run reads
  rw [behind]
  refine ⟨stack, reaches, fun cut first => ?_⟩
  obtain ⟨closed, whole, pairs', -, goes⟩ := piece?_cut_of_eq first ends
  obtain ⟨stack', -, onward, same⟩ := goes stack holds
  refine ⟨?_, closed, whole, stack', onward, same⟩
  rw [parse_eq_piece?, first]
  rfl

/-- Reading `$b?{x}` of `{$b?{x}}z` comes to the `x` in the inner body. -/
theorem reading_follows_search_inward :
    ∃ stack, Search.Reaches ⟨[.literal], false, ['$', 'b', '?', '{', 'x', '}', '}', 'z']⟩
        ⟨stack, false, ['x'] ++ ['}', '}', 'z']⟩ ∧
      ∀ cut, piece? (.literal false) false ['x'] = some cut →
        parse (.literal false) false ['x'] = cut.tree (.literal false) ∧
        cut.piece.isClosed ∧
        piece? (.literal false) false (['x'] ++ ['}', '}', 'z']) =
          some (cut.inWhole ['x'] ['}', '}', 'z']) ∧
        ∃ stack', Search.Reaches ⟨stack, false, ['x'] ++ ['}', '}', 'z']⟩
            ⟨stack', cut.glued, cut.rest ++ ['}', '}', 'z']⟩ ∧
          ((∀ c, cut.piece ≠ .plain c) → stack' = stack) := by
  have found : close? (Mode.literal false).brace ['$', 'b', '?', '{', 'x', '}', '}', 'z'] =
      some ⟨['$', 'b', '?', '{', 'x', '}'], ['z']⟩ := by decide +kernel
  have first : piece? (.literal false) false ['$', 'b', '?', '{', 'x', '}'] =
      some ⟨.present ['b'] ⟨.literal false, ['x'], ['}']⟩, false, []⟩ := by decide +kernel
  have inward : Place.Next ⟨.literal false, false, ['$', 'b', '?', '{', 'x', '}'], ['}', 'z']⟩
      (.ofBody (Body.before ['}', 'z'] ⟨.literal false, ['x'], ['}']⟩)) :=
    .inward first (List.mem_singleton.2 rfl)
  exact reading_follows_search found (.single inward)

end TitleBar.Template
