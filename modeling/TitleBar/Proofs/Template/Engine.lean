import TitleBar.Proofs.Template.Progress
import TitleBar.Proofs.Template.Course

/-! # Expanding by index

A template can be expanded while it is scanned: an index goes through the text, each construct is looked
at where the index meets it, and a text inside of it that is entered is expanded before the index goes on.
Such an expansion is given a number of steps as a scan is, and has the same faults; it comes to one as
well where it would enter a text that is not shorter. With more steps than the text has characters it
shows and asks what the expansion of the syntax tree does.
-/

namespace TitleBar.Template.Cursor

open Text

/-! ## Expansions that may not end -/

/-- An expansion that scans: it asks questions, and may be aborted, come to a fault or not end. -/
abbrev Engine := ExceptT ExpandError (StateT (List Query) Scan)

/-- The answer to a question, which is recorded. -/
def put {α : Type} (question : Trace α) : Engine α := do
  modify (· ++ question.asked)
  return question.answer

/-- An expansion that ends without a fault. -/
def embed {α : Type} (expansion : ExceptT ExpandError Trace α) : Engine α :=
  ExceptT.mk fun asked => pure (expansion.run.answer, asked ++ expansion.run.asked)

section Embedding

variable {α β : Type}

@[simp] theorem embed_pure (a : α) : embed (pure a) = pure a := by
  funext asked
  exact congrArg (fun asked => pure (Except.ok a, asked)) (List.append_nil asked)

@[simp] theorem embed_bind (front : ExceptT ExpandError Trace α)
    (behind : α → ExceptT ExpandError Trace β) :
    embed (front >>= behind) = embed front >>= fun a => embed (behind a) := by
  funext asked
  rcases outcome : front.run.answer with error | a
  · simp only [embed, ExceptT.run_bind, Trace.answer_bind, Trace.asked_bind, outcome]
    exact congrArg (fun more => pure (Except.error error, asked ++ more)) (List.append_nil _)
  · simp only [embed, ExceptT.run_bind, Trace.answer_bind, Trace.asked_bind, outcome,
      ← List.append_assoc]
    rfl

@[simp] theorem embed_ask (question : Trace α) :
    embed (liftM question : ExceptT ExpandError Trace α) = put question := by
  funext asked
  exact congrArg (fun asked' => pure (Except.ok question.answer, asked ++ asked'))
    (List.append_nil question.asked)

theorem embed_throw (error : ExpandError) :
    embed (throw error : ExceptT ExpandError Trace α) = throw error := by
  funext asked
  exact congrArg (fun asked => pure (Except.error error, asked)) (List.append_nil asked)

@[simp] theorem embed_liftM (outcome : Except ExpandError α) :
    embed (liftM outcome : ExceptT ExpandError Trace α) = liftM outcome := by
  rcases outcome with error | a
  · exact embed_throw error
  · exact embed_pure a

theorem run_map_embed (f : α → β) (expansion : ExceptT ExpandError Trace α) (asked : List Query) :
    ((f <$> embed expansion).run.run asked : Scan _) =
      pure (expansion.run.answer.map f, asked ++ expansion.run.asked) := by
  rcases outcome : expansion.run.answer with error | a
  · simp only [embed, outcome]
    rfl
  · simp only [embed, outcome]
    rfl

end Embedding

/-! ## The constructs -/

/-- Expands a text inside of a construct in a mode, bound to a value. -/
abbrev Enter := Mode → List Char → List Char → Engine (List Char)

section Constructs

variable (ask : String → Trace String) (enter : Enter) (close : Bool → CloseAt) (bound text : List Char)

/-- What the body behind a tag with a sign shows. -/
def signed (sign : Option Char) (value : String) (body : List Char) : Engine (List Char) :=
  if sign = some '?' then
    if value = "" then pure [] else enter (.literal false) value.toList body
  else if value = "" then enter (.literal false) bound body else pure []

/-- What a tag behind a `$` shows, with the body that may stand at an index, and the index behind them. -/
def tagged (tag : List Char) (stop : ℕ) : Engine (List Char × ℕ) := do
  if opensBody text stop then
    match ← close false (stop + 1) with
    | none => return ([], text.length)
    | some final =>
      let body ← slice text (stop + 2) final
      let value ← put (ask (String.ofList tag))
      return (← signed enter bound text[stop]? value body, final + 1)
  let value ← put (ask (String.ofList tag))
  return (value.toList, stop)

/-- What the `$` at an index shows, and the index behind its construct. -/
def substitution (start : ℕ) : Engine (List Char × ℕ) := do
  match text[start + 1]? with
  | none => return (bound, start + 1)
  | some c =>
    if isBlank c || c.isDigit then
      return (bound, start + 1)
    if c = '{' then
      match ← close false (start + 1) with
      | none => return ([], text.length)
      | some final =>
        let list ← slice text (start + 2) final
        let values ← (words list).mapM fun tag => put (ask (String.ofList tag))
        return (shownJoined values, final + 1)
    match ← scanTagAt text (start + 1) with
    | none => return (['$'], start + 1)
    | some (tag, stop) => tagged ask enter close bound text tag stop

/-- What the `?` at an index shows, and the index behind its construct; none if it starts none. -/
def conditional (start : ℕ) : Engine (Option (List Char × ℕ)) := do
  match ← scanTagAt text (start + 1) with
  | none => return none
  | some (tag, stop) =>
    if text[stop]? ≠ some '{' then
      return none
    match ← close false stop with
    | none => return some ([], text.length)
    | some final =>
      let value ← put (ask (String.ofList tag))
      if value = "" then
        return some ([], final + 1)
      let body ← slice text (stop + 1) final
      return some (← enter (.literal false) value.toList body, final + 1)

/-- What a branch shows, if there is one. -/
def branch (body? : Option (List Char)) : Engine (List Char) :=
  match body? with
  | some body => enter .structural bound body
  | none => pure []

/-- What the `if` at an index shows, and the index behind it; none if its header is malformed. -/
def ifElse (start : ℕ) : Engine (Option (List Char × ℕ)) := do
  match ← parseIf (close true) text start with
  | none => return none
  | some construct =>
    match construct.yes? with
    | none => return some ([], text.length)
    | some yes =>
      let value ← put (ask (String.ofList construct.tag))
      let taken := if value = "" then construct.no? else some yes
      return some (← branch enter bound taken, construct.stop)

/-- What a text that opens at an index shows, and the index behind it. -/
def inside (stop : Option ℕ) (mode : Mode) (start : ℕ) : Engine (List Char × ℕ) := do
  let shown ← enter mode bound (← slice text (start + 1) (stop.getD text.length))
  return (shown, (stop.map (· + 1)).getD text.length)

/-- What the construct at an index shows, and the index behind it. Where there is none, the character is
shown as told. -/
def constructStep (silent : List Char) (c : Char) (i : ℕ) : Engine (List Char × ℕ) := do
  match c with
  | '$' => substitution ask enter close bound text i
  | '?' => return (← conditional ask enter close text i).getD (silent, i + 1)
  | 'i' =>
    if startsWord ['i', 'f'] text i then
      return (← ifElse ask enter close bound text i).getD (silent, i + 1)
    return (silent, i + 1)
  | _ => return (silent, i + 1)

/-- What the character at an index of a literal text shows, with the construct that it starts. -/
def literalStep (quoted : Bool) (c : Char) (i : ℕ) : Engine (List Char × ℕ) := do
  match c with
  | '\\' =>
    match text[i + 1]? with
    | some escaped => return ([unescape quoted escaped], i + 2)
    | none => return (['\\'], i + 1)
  | c => constructStep ask enter close bound text [c] c i

/-- What the character at an index of a branch shows, with the construct that it starts. -/
def structuralStep (quote : CloseAt) (c : Char) (i : ℕ) : Engine (List Char × ℕ) := do
  match c with
  | '"' => inside enter bound text (← quote (i + 1)) (.literal true) i
  | '{' => inside enter bound text (← close true i) .structural i
  | '\\' => return ([], i + 2)
  | c => constructStep ask enter close bound text [] c i

/-- What the character at an index shows, with the construct that it starts. -/
def step (quote : CloseAt) (mode : Mode) (c : Char) (i : ℕ) : Engine (List Char × ℕ) :=
  match mode with
  | .literal quoted => literalStep ask enter close bound text quoted c i
  | .structural => structuralStep ask enter close bound text quote c i

end Constructs

/-- Enters a text one level deeper, which has to be shorter. -/
def entering (expandIn : Mode → Depth → List Char → List Char → Engine (List Char)) (depth : Depth)
    (text : List Char) : Enter := fun mode bound inner => do
  if inner.length < text.length then
    expandIn mode (← depth.descend) bound inner
  else
    liftM (throw .growing : Scan (List Char))

/-- Expands a text from an index on. -/
def expandFrom (ask : String → Trace String) (fuel : ℕ) (mode : Mode) (depth : Depth)
    (bound text : List Char) (i : ℕ) : Engine (List Char) :=
  match fuel with
  | 0 => liftM (endless : Scan (List Char))
  | fuel + 1 => do
    match text[i]? with
    | none => return []
    | some c =>
      let enter := entering (fun mode depth bound inner => expandFrom ask fuel mode depth bound inner 0)
        depth text
      let close (quotes : Bool) : CloseAt := bodyEnd text (fuel + 1) quotes 0
      let (front, stop) ← step ask enter close bound text (quoteEndAt text (fuel + 1)) mode c i
      return front ++ (← expandFrom ask fuel mode depth bound text stop)

/-! ## The constructs as they are read -/

/-- An expansion that enters the texts inside of an end of a text. -/
def Enters (ask : String → Trace String) (depth : Depth) (behind : List Char) (enter : Enter) : Prop :=
  ∀ mode bound inner, inner <:+: behind →
    enter mode bound inner = embed (within ask depth bound mode inner)

/-- What a construct shows, and the index behind it. -/
def shownAt (ask : String → Trace String) (depth : Depth) (bound text : List Char) (cut : Cut) :
    Engine (List Char × ℕ) := do
  return (← embed (cut.piece.shown ask depth bound), position text cut.rest)

/-- A scan without a fault. -/
theorem liftM_scan {α : Type} (a : α) : (liftM (pure a : Scan α) : Engine α) = pure a := rfl

section Reading

variable {ask : String → Trace String} {depth : Depth} {enter : Enter} {close : Bool → CloseAt}
  {bound text behind : List Char}

theorem embed_values (tags : List (List Char)) :
    embed (tags.mapM fun tag => liftM (ask (String.ofList tag))) =
      tags.mapM fun tag => put (ask (String.ofList tag)) := by
  induction tags with
  | nil => exact embed_pure _
  | cons tag tags ih => simp only [List.mapM_cons, embed_bind, embed_ask, embed_pure, ih]

theorem shownAt_enclosing (glued : Bool) (rest : List Char) :
    shownAt ask depth bound text ⟨.enclosing, glued, rest⟩ = pure (bound, position text rest) := by
  simp only [shownAt, Piece.shown, embed_pure, pure_bind]

theorem shownAt_dollar (glued : Bool) (rest : List Char) :
    shownAt ask depth bound text ⟨.dollar, glued, rest⟩ = pure (['$'], position text rest) := by
  simp only [shownAt, Piece.shown, embed_pure, pure_bind]

theorem shownAt_unclosed (opening : Opening) (glued : Bool) :
    shownAt ask depth bound text ⟨.unclosed opening, glued, []⟩ = pure ([], text.length) := by
  simp only [shownAt, Piece.shown, embed_pure, pure_bind, position_nil]

/-- What a `$` shows that the body of a tag with a sign follows. -/
theorem signed_position (enters : Enters ask depth behind enter) {inner : List Char}
    (inside : inner <:+: behind) (sign : Option Char) (value : String) :
    signed enter bound sign value inner = embed (
      if sign = some '?' then
        if value = "" then pure [] else within ask depth value.toList (.literal false) inner
      else if value = "" then within ask depth bound (.literal false) inner else pure []) := by
  rw [signed, enters _ _ _ inside, enters _ _ _ inside]
  split <;> split <;> simp only [embed_pure]

theorem tagged_body (closes : Closes text behind close) (enters : Enters ask depth behind enter)
    {sign : Char} {inside : List Char} (signs : sign = '?' ∨ sign = '!')
    (within : sign :: '{' :: inside <:+ behind) (behindEnds : behind <:+ text) (tag : List Char)
    (opening : Opening) {piece : Closed → Piece}
    (shows : ∀ closed, (piece closed).shown ask depth bound = do
      let value ← ask (String.ofList tag)
      if sign = '?' then
        if value = "" then pure [] else Template.within ask depth value.toList (.literal false) closed.body
      else if value = "" then Template.within ask depth bound (.literal false) closed.body else pure []) :
    tagged ask enter close bound text tag (position text (sign :: '{' :: inside)) =
      shownAt ask depth bound text (cutBody opening piece inside) := by
  have ends := within.trans behindEnds
  have braceWithin : '{' :: inside <:+ behind := (List.suffix_cons sign _).trans within
  have braceEnds : '{' :: inside <:+ text := braceWithin.trans behindEnds
  have insideEnds : inside <:+ text := (List.suffix_cons '{' inside).trans braceEnds
  have opens : opensBody text (position text (sign :: '{' :: inside)) = true := by
    rw [opensBody_position ends]
    rcases signs with rfl | rfl <;> rfl
  rw [tagged, if_pos opens, position_succ ends, position_add_two ends, closes.literal braceWithin,
    liftM_scan, pure_bind, getElem?_position ends, cutBody]
  rcases found : close? .literal inside with _ | closed
  · exact (shownAt_unclosed opening false).symm
  · have within' : closed.body <:+: behind :=
      (infix_of_close? found).trans ((List.suffix_cons '{' inside).trans braceWithin).isInfix
    simp only [Option.map_some, slice_close? found insideEnds, liftM_scan, pure_bind,
      position_succ ((close?_suffix found).trans insideEnds), shownAt, shows, embed_bind, embed_ask,
      signed_position enters within', List.head?_cons, Option.some.injEq, bind_assoc]

theorem tagged_position {tag after : List Char} (within : after <:+ behind) (behindEnds : behind <:+ text)
    (closes : Closes text behind close) (enters : Enters ask depth behind enter) :
    tagged ask enter close bound text tag (position text after) =
      shownAt ask depth bound text (cutConstruct (dollarTag tag after).1 (dollarTag tag after).2) := by
  fun_cases dollarTag tag after with
  | case1 inside => exact tagged_body closes enters (.inl rfl) within behindEnds tag _ fun closed => rfl
  | case2 inside => exact tagged_body closes enters (.inr rfl) within behindEnds tag _ fun closed => rfl
  | case3 after noPresent noAbsent =>
    have noBody : opensBody text (position text after) = false := by
      rw [opensBody_position (within.trans behindEnds)]
      exact head?_noBody noPresent noAbsent
    simp only [tagged, noBody, cutConstruct, shownAt, Piece.shown, embed_bind, embed_ask, embed_pure,
      Bool.false_eq_true, if_false, bind_assoc, pure_bind]

theorem substitution_position (ends : '$' :: behind <:+ text) (closes : Closes text behind close)
    (enters : Enters ask depth behind enter) :
    substitution ask enter close bound text (position text ('$' :: behind)) =
      shownAt ask depth bound text (cutConstruct (scanDollar behind).1 (scanDollar behind).2) := by
  have behindEnds : behind <:+ text := (List.suffix_cons '$' behind).trans ends
  have two : position text ('$' :: behind) + 2 = position text behind + 1 := by
    rw [← position_succ ends]
  rw [substitution, two, position_succ ends, getElem?_position behindEnds]
  rcases behind with _ | ⟨c, rest⟩
  · exact (shownAt_enclosing false []).symm
  simp only [List.head?_cons]
  by_cases brace : c = '{'
  · subst brace
    have restEnds : rest <:+ text := (List.suffix_cons '{' rest).trans behindEnds
    have noBlank : (isBlank '{' || '{'.isDigit) = false := rfl
    have opened : cutConstruct (scanDollar ('{' :: rest)).1 (scanDollar ('{' :: rest)).2 =
      cutBody .joined (fun closed => .joined closed.body) rest := rfl
    simp only [noBlank, Bool.false_eq_true, if_false, if_true, opened, closes.literal (List.suffix_refl _),
      liftM_scan, pure_bind, cutBody, position_succ behindEnds]
    rcases found : close? .literal rest with _ | closed
    · exact (shownAt_unclosed .joined false).symm
    · simp only [Option.map_some, slice_close? found restEnds, liftM_scan, pure_bind,
        position_succ ((close?_suffix found).trans restEnds), shownAt,
        Piece.shown, embed_bind, embed_values, embed_pure, bind_assoc]
  rw [scanDollar_cons brace]
  by_cases silent : isBlank c || c.isDigit
  · simp only [silent, if_true]
    exact (shownAt_enclosing false _).symm
  simp only [silent, brace, if_false, Bool.false_eq_true]
  rw [scanTagAt_position behindEnds, liftM_scan, pure_bind]
  rcases found : scanTag? (c :: rest) with _ | ⟨tag, after⟩
  · exact (shownAt_dollar false _).symm
  exact tagged_position (scanTag?_suffix found) behindEnds closes enters

/-- What a `?` shows, if it starts a construct. -/
theorem conditional_position (ends : '?' :: behind <:+ text) (closes : Closes text behind close)
    (enters : Enters ask depth behind enter) (bound : List Char) :
    conditional ask enter close text (position text ('?' :: behind)) =
      match scanQuestion? behind with
      | none => pure none
      | some found => some <$> shownAt ask depth bound text (cutConstruct found.1 found.2) := by
  have behindEnds : behind <:+ text := (List.suffix_cons '?' behind).trans ends
  rw [conditional, position_succ ends, scanTagAt_position behindEnds, liftM_scan, pure_bind, scanQuestion?]
  rcases found : scanTag? behind with _ | ⟨tag, after⟩
  · rfl
  have within := scanTag?_suffix found
  have afterEnds : after <:+ text := within.trans behindEnds
  simp only [Option.map_some, getElem?_position afterEnds]
  rcases after with _ | ⟨c, inside⟩
  · rfl
  by_cases brace : c = '{'
  · subst brace
    have insideEnds : inside <:+ text := (List.suffix_cons '{' inside).trans afterEnds
    have opened : cutConstruct (.present tag) inside =
      cutBody (.present tag) (fun closed => .present tag (closed.read (.literal false))) inside := rfl
    simp only [List.head?_cons, ne_eq, not_true, if_false, closes.literal within, liftM_scan, pure_bind,
      position_succ afterEnds, opened, cutBody]
    rcases found : close? .literal inside with _ | closed
    · simp only [Option.map_none, shownAt_unclosed, map_pure]
    · have within' : closed.body <:+: behind :=
        (infix_of_close? found).trans ((List.suffix_cons '{' inside).trans within).isInfix
      simp only [Option.map_some, slice_close? found insideEnds, liftM_scan, pure_bind,
        position_succ ((close?_suffix found).trans insideEnds), shownAt, Piece.shown, embed_bind, embed_ask,
        enters _ _ _ within', bind_assoc, map_eq_pure_bind, Closed.read]
      refine bind_congr fun value => ?_
      split <;> simp only [embed_pure, pure_bind]
  · simp [brace]

/-- What the branch shows that the value of a tag tells, if there is such a branch. -/
def taken (ask : String → Trace String) (depth : Depth) (bound : List Char) (tag yes : List Char)
    (no? : Option (List Char)) : Expansion := do
  let value ← ask (String.ofList tag)
  match if value = "" then no? else some yes with
  | some body => Template.within ask depth bound .structural body
  | none => pure []

theorem branch_position (enters : Enters ask depth behind enter) {yes : List Char}
    (yesInside : yes <:+: behind) {no? : Option (List Char)} (noInside : ∀ no ∈ no?, no <:+: behind)
    (bound tag : List Char) :
    (do
      let value ← put (ask (String.ofList tag))
      branch enter bound (if value = "" then no? else some yes)) =
      embed (taken ask depth bound tag yes no?) := by
  simp only [taken, embed_bind, embed_ask]
  refine bind_congr fun value => ?_
  by_cases empty : value = ""
  · rw [if_pos empty]
    rcases no? with _ | no
    · exact (embed_pure []).symm
    · exact enters _ _ _ (noInside no rfl)
  · rw [if_neg empty]
    exact enters _ _ _ yesInside

/-- An `if` whose first branch is closed shows the branch that is taken. -/
theorem exists_taken_of_cutElse (ask : String → Trace String) (depth : Depth) (bound text tag : List Char)
    (yes : Closed) :
    ∃ no?, (∀ no ∈ no?, no <:+: yes.rest) ∧
      IfConstruct.ofCut text (cutElse tag yes) =
        ⟨tag, some yes.body, no?, position text (cutElse tag yes).rest⟩ ∧
      (cutElse tag yes).piece.shown ask depth bound = taken ask depth bound tag yes.body no? := by
  rw [cutElse]
  rcases other : scanElse? yes.rest with _ | inside
  · refine ⟨none, by simp, rfl, bind_congr fun value => ?_⟩
    split <;> rfl
  · simp only
    rcases second : close? .structural inside with _ | no
    · refine ⟨none, by simp, rfl, bind_congr fun value => ?_⟩
      split <;> rfl
    · refine ⟨no.body, ?_, rfl, bind_congr fun value => ?_⟩
      · rintro _ ⟨⟩
        exact (infix_of_close? second).trans (scanElse?_suffix other).isInfix
      · split <;> rfl

/-- What an `if` shows. -/
theorem ifElse_position {rest : List Char} {start : ℕ} (ends : rest <:+ text)
    (at' : start + 2 = position text rest) (closes : Closes text rest close)
    (enters : Enters ask depth ('f' :: rest) enter) :
    ifElse ask enter close bound text start =
      match scanIf? ('f' :: rest) with
      | none => pure none
      | some found => some <$> shownAt ask depth bound text (cutConstruct found.1 found.2) := by
  rw [ifElse, parseIf_position ends at' closes, liftM_scan, pure_bind]
  rcases found : scanIf? ('f' :: rest) with _ | ⟨opening, after⟩
  · rfl
  obtain ⟨tag, rfl⟩ := exists_branch_of_scanIf? found
  simp only [Option.map_some, cutConstruct]
  rcases first : close? .structural after with _ | yes
  · simp only [IfConstruct.ofCut, shownAt_unclosed, map_pure]
  have within : after <:+ 'f' :: rest := scanIf?_suffix found
  have behindYes : yes.rest <:+ 'f' :: rest :=
    ((List.suffix_cons '}' yes.rest).trans (close?_suffix first)).trans within
  have yesInside : yes.body <:+: 'f' :: rest := (infix_of_close? first).trans within.isInfix
  obtain ⟨no?, noInside, construct, shown⟩ := exists_taken_of_cutElse ask depth bound text tag yes
  have branches := branch_position enters yesInside
    (fun no member => (noInside no member).trans behindYes.isInfix) bound tag
  simp only [shownAt, construct, shown, ← branches, bind_assoc, map_eq_pure_bind, pure_bind]

/-- A construct shows what it holds, and any other character as told. -/
theorem constructStep_position {c : Char} (ends : c :: behind <:+ text) (closes : Closes text behind close)
    (enters : Enters ask depth behind enter) (silent : List Char) :
    constructStep ask enter close bound text silent c (position text (c :: behind)) =
      match scanOpening? (gluedAt text (position text (c :: behind))) (c :: behind) with
      | none => pure (silent, position text behind)
      | some found => shownAt ask depth bound text (cutConstruct found.1 found.2) := by
  rw [constructStep.eq_def]
  split
  · rw [substitution_position ends closes enters]
    rfl
  · rw [conditional_position ends closes enters bound, position_succ ends]
    change _ = match scanQuestion? behind with
      | none => pure (silent, position text behind)
      | some found => shownAt ask depth bound text (cutConstruct found.1 found.2)
    rcases scanQuestion? behind with _ | found
    · rfl
    · simp only [map_eq_pure_bind, bind_assoc, pure_bind, Option.getD_some, bind_pure]
  · simp only [startsWord_if ends, position_succ ends]
    rcases gluedAt text (position text ('i' :: behind)) with _ | _
    · change _ = match scanIf? behind with
        | none => pure (silent, position text behind)
        | some found => shownAt ask depth bound text (cutConstruct found.1 found.2)
      by_cases word : behind.head? = some 'f'
      · obtain ⟨rest, rfl⟩ := List.head?_eq_some_iff.1 word
        have restEnds : rest <:+ text := ((List.suffix_cons 'f' rest).trans (List.suffix_cons ..)).trans ends
        rw [if_pos (by simp), ifElse_position restEnds (position_add_two ends)
          (closes.of_suffix (List.suffix_cons 'f' rest)) enters]
        rcases scanIf? ('f' :: rest) with _ | found
        · rfl
        · simp only [map_eq_pure_bind, bind_assoc, pure_bind, Option.getD_some, bind_pure]
      · rw [if_neg (by simpa using word), scanIf?_of_head word]
    · rfl
  · have silent' : scanOpening? (gluedAt text (position text (c :: behind))) (c :: behind) = none := by
      unfold scanOpening?
      split <;> simp_all
    rw [silent', position_succ ends]

end Reading

section Steps

variable {ask : String → Trace String} {depth : Depth} {enter : Enter} {close : Bool → CloseAt}
  {quote : CloseAt} {bound text behind : List Char} {mode : Mode} {c : Char}

/-- No word goes on behind a construct, and how a text is read does not matter to its constructs. -/
theorem cutConstruct_uniform (opening : Opening) (after : List Char) :
    (cutConstruct opening after).glued = false ∧
      ∀ mode rest, (cutConstruct opening after).piece.tree mode rest =
        (cutConstruct opening after).piece.tree .structural rest := by
  cases opening with
  | enclosing | dollar | value => exact ⟨rfl, fun _ _ => rfl⟩
  | joined | present | absent =>
    rw [cutConstruct, cutBody]
    split <;> exact ⟨rfl, fun _ _ => rfl⟩
  | branch =>
    rw [cutConstruct]
    split
    · rw [cutElse]
      split
      · exact ⟨rfl, fun _ _ => rfl⟩
      · split <;> exact ⟨rfl, fun _ _ => rfl⟩
    · exact ⟨rfl, fun _ _ => rfl⟩

theorem expansion_cutConstruct (ask : String → Trace String) (mode : Mode) (depth : Depth)
    (bound : List Char) (opening : Opening) (after : List Char) :
    (cutConstruct opening after).piece.expansion ask depth bound mode =
      (cutConstruct opening after).piece.shown ask depth bound := by
  rw [← Piece.expansion_eq_shown ask depth bound (uniform_cutConstruct opening after), Piece.expansion,
    Piece.expansion, (cutConstruct_uniform opening after).2]

/-- Where a step leads to that reads a piece. -/
structure Leads (text : List Char) (cut : Cut) (stop : ℕ) : Prop where
  rest : text.drop stop = cut.rest
  glued : gluedAt text stop = cut.glued ∨ cut.rest.head? ≠ some 'i'

/-- A step that reads a piece shows what the piece shows. -/
def Reads (ask : String → Trace String) (mode : Mode) (depth : Depth) (bound text : List Char)
    (cut : Cut) (step : Engine (List Char × ℕ)) : Prop :=
  ∃ stop, Leads text cut stop ∧
    step = do return (← embed (cut.piece.expansion ask depth bound mode), stop)

theorem Leads.of_position {cut : Cut} (ends : cut.rest <:+ text)
    (glued : gluedAt text (position text cut.rest) = cut.glued ∨ cut.rest.head? ≠ some 'i') :
    Leads text cut (position text cut.rest) :=
  ⟨drop_position ends, glued⟩

/-- A step to behind the end. -/
theorem Leads.of_end {cut : Cut} (done : cut.rest = []) {stop : ℕ} (beyond : text.length ≤ stop) :
    Leads text cut stop := by
  refine ⟨?_, .inr ?_⟩
  · rw [done, List.drop_eq_nil_of_le beyond]
  · rw [done]
    exact nofun

/-- What a character shows that starts nothing. -/
def lone (mode : Mode) (c : Char) : List Char :=
  match mode with
  | .literal _ => [c]
  | .structural => []

theorem step_escape (ends : '\\' :: behind <:+ text) {glued : Bool} {cut : Cut}
    (found : piece? mode glued ('\\' :: behind) = some cut) :
    Reads ask mode depth bound text cut
      (step ask enter close bound text quote mode '\\' (position text ('\\' :: behind))) := by
  have behindEnds : behind <:+ text := (List.suffix_cons '\\' behind).trans ends
  rcases behind with _ | ⟨d, rest⟩
  · obtain rfl := Option.some.inj found
    have last : position text ['\\'] + 1 = text.length := position_succ ends
    rcases mode with quoted | _
    · refine ⟨_, .of_end rfl last.ge, ?_⟩
      have nothing : text[position text ['\\'] + 1]? = none := List.getElem?_eq_none last.ge
      have shows : Piece.expansion ask depth bound (.literal quoted) .backslash = pure ['\\'] := rfl
      rw [shows, embed_pure, pure_bind, step, literalStep, nothing]
    · refine ⟨_, .of_end rfl (Nat.le_succ_of_le last.ge), ?_⟩
      have shows : Piece.expansion ask depth bound .structural .backslash = pure [] := rfl
      rw [shows, embed_pure, pure_bind]
      rfl
  · obtain rfl := Option.some.inj found
    have next := position_add_two ends
    have glued' : gluedAt text (position text rest) = glues d := gluedAt_position behindEnds
    refine ⟨_, .of_position ((List.suffix_cons d rest).trans behindEnds) (.inl glued'), ?_⟩
    rcases mode with quoted | _
    · have shows : Piece.expansion ask depth bound (.literal quoted) (.escaped d) =
        pure [unescape quoted d] := rfl
      rw [shows, embed_pure, pure_bind, step, literalStep, position_succ ends, getElem?_position behindEnds,
        next]
      rfl
    · have shows : Piece.expansion ask depth bound .structural (.escaped d) = pure [] := rfl
      rw [shows, embed_pure, pure_bind, ← next]
      rfl

/-- A text that opens at an index and is closed behind what it holds. -/
theorem reads_closed {d : Char} {inner after : List Char} {piece : Piece} (ends : c :: behind <:+ text)
    (whole : inner ++ d :: after = behind) (stops : glues d = false)
    (enters : Enters ask depth behind enter)
    (shows : piece.expansion ask depth bound .structural = within ask depth bound mode inner) :
    Reads ask .structural depth bound text ⟨piece, false, after⟩
      (inside enter bound text (some (position text (d :: after))) mode (position text (c :: behind))) := by
  subst whole
  have behindEnds : inner ++ d :: after <:+ text := (List.suffix_cons c _).trans ends
  have closeEnds : d :: after <:+ text := (List.suffix_append inner _).trans behindEnds
  refine ⟨position text after, .of_position ((List.suffix_cons d after).trans closeEnds) (.inl ?_), ?_⟩
  · rw [← stops]
    exact gluedAt_position closeEnds
  · rw [inside, position_succ ends, Option.getD_some, slice_position behindEnds, liftM_scan, pure_bind,
      enters _ _ _ (List.prefix_append ..).isInfix, Option.map_some, Option.getD_some,
      position_succ closeEnds, shows]

/-- A text that opens at an index and is never closed. -/
theorem reads_unclosed {piece : Piece} (ends : c :: behind <:+ text)
    (enters : Enters ask depth behind enter)
    (shows : piece.expansion ask depth bound .structural = within ask depth bound mode behind) :
    Reads ask .structural depth bound text ⟨piece, false, []⟩
      (inside enter bound text none mode (position text (c :: behind))) := by
  have behindEnds : behind ++ [] <:+ text := by
    rw [List.append_nil]
    exact (List.suffix_cons c behind).trans ends
  have sliced := slice_position behindEnds
  rw [List.append_nil, position_nil] at sliced
  refine ⟨text.length, .of_end rfl le_rfl, ?_⟩
  rw [inside, position_succ ends, Option.getD_none, sliced, liftM_scan, pure_bind,
    enters _ _ _ List.infix_rfl, Option.map_none, Option.getD_none, shows]

theorem step_quotes (ends : '"' :: behind <:+ text)
    (quotes : quote (position text behind) =
      pure ((quoteEnd? behind).map fun after => position text ('"' :: after)))
    (enters : Enters ask depth behind enter) {glued : Bool} {cut : Cut}
    (found : piece? .structural glued ('"' :: behind) = some cut) :
    Reads ask .structural depth bound text cut
      (step ask enter close bound text quote .structural '"' (position text ('"' :: behind))) := by
  rw [step, structuralStep, position_succ ends, quotes, liftM_scan, pure_bind]
  have uniform := uniform_of_piece? found
  rw [piece?_cons (by decide), if_pos (by rfl)] at found
  rcases closed : quoteEnd? behind with _ | after
  · rw [closed] at found
    obtain rfl := Option.some.inj found
    exact reads_unclosed ends enters (Piece.expansion_eq_shown ask depth bound uniform)
  · rw [closed] at found
    obtain rfl := Option.some.inj found
    have whole : behind.take (behind.length - after.length - 1) ++ '"' :: after = behind := by
      rw [Nat.sub_sub, ← List.length_cons]
      exact List.suffix_iff_eq_append.1 (quoteEnd?_quote closed)
    exact reads_closed ends whole rfl enters (Piece.expansion_eq_shown ask depth bound uniform)

theorem step_block (ends : '{' :: behind <:+ text) (closes : Closes text ('{' :: behind) close)
    (enters : Enters ask depth behind enter) {glued : Bool} {cut : Cut}
    (found : piece? .structural glued ('{' :: behind) = some cut) :
    Reads ask .structural depth bound text cut
      (step ask enter close bound text quote .structural '{' (position text ('{' :: behind))) := by
  rw [step, structuralStep, closes.structural (List.suffix_refl _), liftM_scan, pure_bind]
  have uniform := uniform_of_piece? found
  rw [piece?_cons (by decide), if_neg (by decide), if_pos (by rfl)] at found
  rcases ended : close? .structural behind with _ | closed
  · rw [ended] at found
    obtain rfl := Option.some.inj found
    exact reads_unclosed ends enters (Piece.expansion_eq_shown ask depth bound uniform)
  · rw [ended] at found
    obtain rfl := Option.some.inj found
    have whole := (close?_eq_some_iff.1 ended).1.symm
    exact reads_closed ends whole rfl enters (Piece.expansion_eq_shown ask depth bound uniform)

theorem step_opening (ends : c :: behind <:+ text) (closes : Closes text behind close)
    (enters : Enters ask depth behind enter) (noEscape : c ≠ '\\')
    (noQuote : ¬(mode = .structural ∧ c = '"')) (noBlock : ¬(mode = .structural ∧ c = '{')) {cut : Cut}
    (found : piece? mode (gluedAt text (position text (c :: behind))) (c :: behind) = some cut) :
    Reads ask mode depth bound text cut
      (step ask enter close bound text quote mode c (position text (c :: behind))) := by
  have behindEnds : behind <:+ text := (List.suffix_cons c behind).trans ends
  have steps : step ask enter close bound text quote mode c (position text (c :: behind)) =
      constructStep ask enter close bound text (lone mode c) c (position text (c :: behind)) := by
    rcases mode with quoted | _
    · rw [step, literalStep]
      · rfl
      · exact noEscape
    · rw [step, structuralStep]
      · rfl
      · exact fun same => noQuote ⟨rfl, same⟩
      · exact fun same => noBlock ⟨rfl, same⟩
      · exact noEscape
  rw [piece?_of_opening noEscape noQuote noBlock] at found
  rw [steps, constructStep_position ends closes enters]
  rcases opened : scanOpening? (gluedAt text (position text (c :: behind))) (c :: behind) with
    _ | ⟨opening, after⟩
  · rw [opened] at found
    obtain rfl := Option.some.inj found
    have shows : Piece.expansion ask depth bound mode (.plain c) = pure (lone mode c) := by
      rcases mode with _ | _ <;> rfl
    refine ⟨_, .of_position behindEnds (.inl (gluedAt_position ends)), ?_⟩
    rw [shows, embed_pure, pure_bind]
  · rw [opened] at found
    obtain rfl := Option.some.inj found
    have restEnds : (cutConstruct opening after).rest <:+ text :=
      ((cutConstruct_suffix opening after).trans (scanOpening?_suffix opened)).trans behindEnds
    refine ⟨_, .of_position restEnds ?_, ?_⟩
    · rw [(cutConstruct_uniform opening after).1]
      exact gluedAt_cutConstruct ends opened
    · rw [expansion_cutConstruct]
      rfl

/-- A step shows what the first piece shows, and goes on behind that piece. -/
theorem step_reads (bound : List Char) (ends : c :: behind <:+ text)
    (closes : Closes text (c :: behind) close)
    (quotes : quote (position text behind) =
      pure ((quoteEnd? behind).map fun after => position text ('"' :: after)))
    (enters : Enters ask depth behind enter) {cut : Cut}
    (found : piece? mode (gluedAt text (position text (c :: behind))) (c :: behind) = some cut) :
    Reads ask mode depth bound text cut
      (step ask enter close bound text quote mode c (position text (c :: behind))) := by
  by_cases escape : c = '\\'
  · subst escape
    exact step_escape ends found
  by_cases quote : mode = .structural ∧ c = '"'
  · obtain ⟨rfl, rfl⟩ := quote
    exact step_quotes ends quotes enters found
  by_cases block : mode = .structural ∧ c = '{'
  · obtain ⟨rfl, rfl⟩ := block
    exact step_block ends closes enters found
  · exact step_opening ends (closes.of_suffix (List.suffix_cons c behind)) enters escape quote block found

end Steps

/-! ## Whole texts -/

section Whole

variable (ask : String → Trace String) {text : List Char} {fuel i : ℕ}

/-- An expansion by index shows and asks what that of the syntax tree does, from wherever it starts. So it
ends, and comes to no fault. -/
theorem expandFrom_eq (mode : Mode) (depth : Depth) (bound : List Char) (enough : text.length - i < fuel) :
    expandFrom ask fuel mode depth bound text i =
      embed (expandAt ask depth bound (parse mode (gluedAt text i) (text.drop i))) := by
  induction fuel generalizing mode depth bound text i with
  | zero => contradiction
  | succ fuel ih =>
    rw [expandFrom]
    rcases stands : text[i]? with _ | c
    · have done : text.drop i = [] := by
        rw [List.drop_eq_nil_iff]
        exact List.getElem?_eq_none_iff.1 stands
      rw [done, parse_nil, expandAt, embed_pure]
    obtain ⟨behind, ends, rfl⟩ := exists_suffix stands
    have shorter := ends.length_le
    rw [position, List.length_cons] at enough
    rw [List.length_cons] at shorter
    rw [drop_position ends]
    rcases found : piece? mode (gluedAt text (position text (c :: behind))) (c :: behind) with _ | cut
    · cases piece?_eq_none found
    have enters : Enters ask depth behind (entering
        (fun mode depth bound inner => expandFrom ask fuel mode depth bound inner 0) depth text) := by
      intro mode bound inner inside
      have short := inside.length_le
      rw [entering, if_pos (by omega), Template.within, embed_bind, embed_liftM]
      refine bind_congr fun deeper => ?_
      exact ih mode deeper bound (by omega)
    have quotes := quoteEndAt_position (fuel + 1) ((List.suffix_cons c behind).trans ends) (by omega)
    have braces : (c :: behind).length < fuel + 1 := by
      rw [List.length_cons]
      omega
    obtain ⟨stop, leads, reads⟩ :=
      step_reads bound ends (closes_of_lt text ends braces) quotes enters found
    have left : text.length - stop < fuel := by
      have shrinks := piece?_length_lt found
      rw [← leads.rest, List.length_drop, List.length_cons] at shrinks
      omega
    have onward : parse mode (gluedAt text stop) (text.drop stop) = parse mode cut.glued cut.rest := by
      rw [leads.rest]
      rcases leads.glued with same | other
      · rw [same]
      · exact parse_of_head other ..
    rw [parse_eq_piece?, found, Option.map_some, Option.getD_some, Cut.tree, Piece.expandAt_tree]
    simp only [reads, bind_assoc, pure_bind, ih mode depth bound left, onward, embed_bind, embed_pure]

/-- A template that is expanded by index shows and asks what its expansion does. -/
theorem expandFrom_template (ask : String → Trace String) (template : String) (more : ℕ) :
    (String.ofList <$> expandFrom ask (template.toList.length + 1 + more) (.literal false)
      (.limited maxDepth maxDepth) [] template.toList 0).run.run [] =
      pure ((expand? ask template).answer, (expand? ask template).asked) := by
  rw [expandFrom_eq ask _ _ _ (by omega), run_map_embed, List.nil_append]
  simp only [expand?, Trace.answer_bind, Trace.asked_bind, Trace.answer_pure, Trace.asked_pure,
    List.append_nil]
  rfl

/-- Scans by index make progress and stay in range: with one step more than a text has characters, and so
with any number above, none of them runs out of steps, wherever it starts. A search that starts anywhere
either ends or comes to a closing brace that it has not seen opened, which is the only fault it can come
to. What is stepped over as a whole at an index, and a conditional whose header stands there, end behind
the index and within the text. A search that starts at an opening brace counts no brace below zero, finds
what the search with a stack of braces finds, and that is a closing brace behind it. Expanding from any
index on, in either mode, takes no slice outside of the text and enters only shorter texts, and it shows
and asks what the expansion of the syntax tree does. -/
theorem scans_advance_and_end (text : List Char) (more : ℕ) :
    (∀ quotes depth i,
      bodyEnd text (text.length + 1 + more) quotes depth i = throw .unbalanced ∨
        ∃ found, bodyEnd text (text.length + 1 + more) quotes depth i = pure found) ∧
      (∀ i, ∃ found,
        constructEnd (bodyEnd text (text.length + 1 + more) false 0) text i = pure found ∧
          ∀ j ∈ found, i < j ∧ j ≤ text.length) ∧
      (∀ i, ∃ found,
        parseIf (bodyEnd text (text.length + 1 + more) true 0) text i = pure found ∧
          ∀ construct ∈ found, i < construct.stop ∧ construct.stop ≤ text.length) ∧
      (∀ quotes i, text[i]? = some '{' → ∃ found,
        bodyEnd text (text.length + 1 + more) quotes 0 i = pure found ∧
          found = (close? (closer quotes) (text.drop (i + 1))).map
            (fun closed => position text ('}' :: closed.rest)) ∧
          ∀ j ∈ found, i < j ∧ j < text.length ∧ text[j]? = some '}') ∧
      ∀ ask mode depth bound i,
        expandFrom ask (text.length + 1 + more) mode depth bound text i =
          embed (expandAt ask depth bound (parse mode (gluedAt text i) (text.drop i))) := by
  refine ⟨?_, ?_, ?_, ?_, ?_⟩
  · intro quotes depth i
    exact bodyEnd_ends quotes depth (by omega)
  · intro i
    exact constructEnd_advances (by omega)
  · intro i
    exact parseIf_advances (by omega)
  · intro quotes i stands
    refine ⟨_, bodyEnd_brace quotes (by omega) stands, rfl, ?_⟩
    intro j member
    obtain ⟨closed, found, rfl⟩ := Option.map_eq_some_iff.1 member
    exact position_close? found
  · intro ask mode depth bound i
    exact expandFrom_eq ask mode depth bound (by omega)

end Whole

end TitleBar.Template.Cursor
