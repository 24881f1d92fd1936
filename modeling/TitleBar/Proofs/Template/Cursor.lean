import TitleBar.Proofs.Template.Leap

/-! # Scanning by index

A template can be scanned without cutting it up: by an index into the whole text, a count of the braces
that are open, and jumps to where another scan has found an end. Nothing about such a scan tells that it
comes to an end, that its count stays above zero or that its slices lie within the text. So a scan is
given a number of steps here, and stops with a fault where it would leave these bounds. With more steps
than there are characters left no scan runs out of them, and one that starts at an opening brace finds
what the search with a stack finds, without a fault.
-/

namespace TitleBar.Template.Cursor

open Text

/-! ## Scans -/

/-- What a scan must not come to. -/
inductive Fault where
  /-- The count of open braces would fall below zero. -/
  | unbalanced
  /-- A slice does not lie within the text. -/
  | outside
  /-- A text that is entered is not shorter than the one around it. -/
  | growing
deriving DecidableEq, Repr

/-- A scan; there is none if its steps do not suffice. -/
abbrev Scan := ExceptT Fault Option

/-- A scan that has used up its steps. -/
def endless {α : Type} : Scan α := ExceptT.mk none

/-- The characters from `start` on, up to `stop`. -/
def slice (text : List Char) (start stop : ℕ) : Scan (List Char) :=
  if start ≤ stop ∧ stop ≤ text.length then pure ((text.take stop).drop start) else throw .outside

/-- The first index from `i` on at which no white space stands. -/
def skipBlanks (text : List Char) (i : ℕ) : ℕ := i + (text.drop i).findIdx (!isBlank ·)

/-- The first index from `i` on at which a character passes a test. -/
def findFrom (test : Char → Bool) (text : List Char) (i : ℕ) : Option ℕ :=
  ((text.drop i).findIdx? test).map (i + ·)

/-- Whether the character at an index continues a word. -/
def gluedAt (text : List Char) : ℕ → Bool
  | 0 => false
  | i + 1 => text[i]?.any glues

/-- Whether a keyword stands at an index. -/
def startsWord (word text : List Char) (i : ℕ) : Bool :=
  !gluedAt text i && word.isPrefixOf (text.drop i)

/-- The index behind the arguments that stand at an index, if there are any. -/
def argumentsEnd (text : List Char) (i : ℕ) : ℕ :=
  if text[i]? = some '(' then
    match findFrom (fun c => c == ')' || c == '(') text (i + 1) with
    | some final => if text[final]? = some ')' then final + 1 else i
    | none => i
  else i

/-- The tag at an index, and the index behind it. -/
def scanTagAt (text : List Char) (start : ℕ) : Scan (Option (List Char × ℕ)) := do
  let length := (Tag.scan (text.drop start)).1.length
  if length = 0 then
    return none
  let stop := argumentsEnd text (start + length)
  return some (← slice text start stop, stop)

/-- The index of the quote that ends a quoted run. -/
def quoteEndAt (text : List Char) : ℕ → ℕ → Scan (Option ℕ)
  | 0, _ => endless
  | fuel + 1, i =>
    match text[i]? with
    | none => return none
    | some '\\' => quoteEndAt text fuel (i + 2)
    | some '"' => return some i
    | some _ => quoteEndAt text fuel (i + 1)

/-- A scan for the brace that closes the one at an index. -/
abbrev CloseAt := ℕ → Scan (Option ℕ)

/-- The index behind the body that a brace opens. -/
def behindBody (close : CloseAt) (text : List Char) (brace : ℕ) : Scan ℕ := do
  return ((← close brace).map (· + 1)).getD text.length

/-- Whether `?{` or `!{` stands at an index. -/
def opensBody (text : List Char) (i : ℕ) : Bool :=
  (text[i]? == some '?' || text[i]? == some '!') && text[i + 1]? == some '{'

/-- The index behind the `$…` or `?tag{…}` at an index, if it is stepped over as a whole. -/
def constructEnd (close : CloseAt) (text : List Char) (start : ℕ) : Scan (Option ℕ) := do
  match text[start]? with
  | some '$' =>
    if text[start + 1]? = some '{' then
      return some (← behindBody close text (start + 1))
    match ← scanTagAt text (start + 1) with
    | none => return none
    | some (_, stop) =>
      if opensBody text stop then
        return some (← behindBody close text (stop + 1))
      return some stop
  | some '?' =>
    match ← scanTagAt text (start + 1) with
    | none => return none
    | some (_, stop) =>
      if text[stop]? = some '{' then
        return some (← behindBody close text stop)
      return none
  | _ => return none

/-- The parts of an `if` with its branches. -/
structure IfConstruct where
  tag : List Char
  /-- There is none if it is never closed. -/
  yes? : Option (List Char)
  no? : Option (List Char)
  /-- The index behind the construct. -/
  stop : ℕ
deriving DecidableEq, Repr

/-- The `else` branch behind the first branch of an `if`. -/
def parseElse (close : CloseAt) (text tag yes : List Char) (stop : ℕ) : Scan IfConstruct := do
  let after := skipBlanks text stop
  if startsWord ['e', 'l', 's', 'e'] text after then
    let brace := skipBlanks text (after + 4)
    if text[brace]? = some '{' then
      match ← close brace with
      | some final => return ⟨tag, yes, some (← slice text (brace + 1) final), final + 1⟩
      | none => return ⟨tag, yes, none, text.length⟩
  return ⟨tag, yes, none, stop⟩

/-- The branches of an `if`, the first of which opens at an index. -/
def parseBranches (close : CloseAt) (text tag : List Char) (brace : ℕ) : Scan IfConstruct := do
  match ← close brace with
  | none => return ⟨tag, none, none, text.length⟩
  | some stop =>
    let yes ← slice text (brace + 1) stop
    parseElse close text tag yes (stop + 1)

/-- The `if` at an index; none if its header is malformed. -/
def parseIf (close : CloseAt) (text : List Char) (start : ℕ) : Scan (Option IfConstruct) := do
  let paren := skipBlanks text (start + 2)
  if text[paren]? ≠ some '(' then
    return none
  match findFrom (· == ')') text (paren + 1) with
  | none => return none
  | some final =>
    let tag := trim (← slice text (paren + 1) final)
    if Tag.hyphenated tag = [] then
      return none
    let brace := skipBlanks text (final + 1)
    if text[brace]? ≠ some '{' then
      return none
    return some (← parseBranches close text tag brace)

/-- The index behind the construct at an index, if it is stepped over as a whole. `close` looks for the
end of a branch if it is told to step over quoted runs, and else for that of a literal body. -/
def unitEnd (close : Bool → CloseAt) (text : List Char) (i : ℕ) : Scan (Option ℕ) := do
  match text[i]? with
  | some '$' | some '?' => constructEnd (close false) text i
  | some 'i' =>
    if startsWord ['i', 'f'] text i then
      return (← parseIf (close true) text i).map (·.stop)
    return none
  | _ => return none

/-- The index of the brace at which the count of open braces, which is `depth` at `i`, falls to zero.
In a branch of an `if` quoted runs are stepped over. -/
def bodyEnd (text : List Char) : ℕ → Bool → ℕ → CloseAt
  | 0, _, _, _ => endless
  | fuel + 1, quotes, depth, i => do
    match text[i]? with
    | none => return none
    | some '\\' => bodyEnd text fuel quotes depth (i + 2)
    | some '{' => bodyEnd text fuel quotes (depth + 1) (i + 1)
    | some '}' =>
      match depth with
      | 0 => throw .unbalanced
      | 1 => return some i
      | depth + 2 => bodyEnd text fuel quotes (depth + 1) (i + 1)
    | some c =>
      if quotes && c == '"' then
        match ← quoteEndAt text fuel (i + 1) with
        | none => return none
        | some final => bodyEnd text fuel quotes depth (final + 1)
      else
        match ← unitEnd (fun quotes => bodyEnd text fuel quotes 0) text i with
        | none => bodyEnd text fuel quotes depth (i + 1)
        | some stop => bodyEnd text fuel quotes depth stop

/-! ## Positions -/

/-- The index at which an end of a text starts. -/
def position (text rest : List Char) : ℕ := text.length - rest.length

section Positions

variable {text rest after : List Char} {c : Char}

@[simp] theorem position_nil (text : List Char) : position text [] = text.length := rfl

theorem position_le (text rest : List Char) : position text rest ≤ text.length := Nat.sub_le _ _

theorem position_drop {i : ℕ} (inside : i ≤ text.length) : position text (text.drop i) = i := by
  rw [position, List.length_drop]
  omega

theorem drop_position (ends : rest <:+ text) : text.drop (position text rest) = rest :=
  (List.suffix_iff_eq_drop.1 ends).symm

theorem getElem?_position (ends : rest <:+ text) : text[position text rest]? = rest.head? := by
  rw [← List.head?_drop, drop_position ends]

/-- The next index is that of the next character. -/
theorem position_succ (ends : c :: rest <:+ text) :
    position text (c :: rest) + 1 = position text rest := by
  have shorter := ends.length_le
  rw [List.length_cons] at shorter
  simp only [position, List.length_cons]
  omega

theorem position_add_two {d : Char} (ends : c :: d :: rest <:+ text) :
    position text (c :: d :: rest) + 2 = position text rest := by
  have behind := (List.suffix_cons c (d :: rest)).trans ends
  rw [← position_succ behind, ← position_succ ends]

/-- Behind the last character nothing stands. -/
theorem getElem?_beyond (ends : [c] <:+ text) : text[position text [c] + 2]? = none := by
  have next := position_succ ends
  rw [position_nil] at next
  rw [List.getElem?_eq_none_iff]
  omega

theorem position_append {front : List Char} (ends : front ++ rest <:+ text) :
    position text (front ++ rest) + front.length = position text rest := by
  have shorter := ends.length_le
  rw [List.length_append] at shorter
  simp only [position, List.length_append]
  omega

theorem position_lt (ends : c :: rest <:+ text) (behind : after <:+ rest) :
    position text (c :: rest) < position text after := by
  have shorter := ends.length_le
  have shorter' := behind.length_le
  simp only [position, List.length_cons] at shorter ⊢
  omega

theorem slice_position {inside : List Char} (ends : inside ++ rest <:+ text) :
    slice text (position text (inside ++ rest)) (position text rest) = pure inside := by
  obtain ⟨front, rfl⟩ := ends
  have start : position (front ++ (inside ++ rest)) (inside ++ rest) = front.length := by
    simp [position]
  have stop : position (front ++ (inside ++ rest)) rest = front.length + inside.length := by
    simp only [position, List.length_append]
    omega
  rw [slice, if_pos ⟨by omega, position_le ..⟩, start, stop, ← List.append_assoc,
    ← List.length_append, List.take_left, List.drop_left]

/-- A run of characters is the slice up to where it ends. -/
theorem slice_takeWhile (ends : rest <:+ text) (test : Char → Bool) :
    slice text (position text rest) (position text (rest.dropWhile test)) =
      pure (rest.takeWhile test) := by
  have parts := List.takeWhile_append_dropWhile (p := test) (l := rest)
  rw [← parts] at ends
  have sliced := slice_position ends
  rwa [parts] at sliced

/-- Whether a word goes on is told by the character in front. -/
theorem gluedAt_position (ends : c :: rest <:+ text) :
    gluedAt text (position text rest) = glues c := by
  rw [← position_succ ends, gluedAt, getElem?_position ends]
  rfl

theorem skipBlanks_position (ends : rest <:+ text) :
    skipBlanks text (position text rest) = position text (trimStart rest) := by
  have shorter := ends.length_le
  have inside : rest.findIdx (!isBlank ·) ≤ rest.length := List.findIdx_le_length
  rw [skipBlanks, drop_position ends, trimStart, List.dropWhile_eq_drop_findIdx_not, position,
    position, List.length_drop]
  omega

/-- A search by a test stops where a run of characters that fail it ends. -/
theorem findFrom_eq (ends : rest <:+ text) (test : Char → Bool) :
    findFrom test text (position text rest) =
      if rest.dropWhile (!test ·) = [] then none
      else some (position text (rest.dropWhile (!test ·))) := by
  have shorter := ends.length_le
  have run : rest.dropWhile (!test ·) = rest.drop (rest.findIdx test) := by
    simp [List.dropWhile_eq_drop_findIdx_not]
  rw [findFrom, drop_position ends, List.findIdx?_eq_guard_findIdx_lt, run]
  by_cases found : rest.findIdx test < rest.length
  · have left : rest.drop (rest.findIdx test) ≠ [] := by
      rw [Ne, List.drop_eq_nil_iff]
      omega
    rw [if_neg left, Option.guard, if_pos (decide_eq_true found), Option.map_some, position, position,
      List.length_drop]
    congr 1
    omega
  · have none : rest.drop (rest.findIdx test) = [] := by
      rw [List.drop_eq_nil_iff]
      omega
    rw [if_pos none, Option.guard, if_neg (by rwa [decide_eq_true_eq])]
    rfl

end Positions

/-! ## Looking ahead -/

section Lookahead

variable {text rest : List Char}

/-- Behind the quote that ends a quoted run. -/
theorem quoteEnd?_quote {after : List Char} (found : quoteEnd? rest = some after) :
    '"' :: after <:+ rest := by
  fun_induction quoteEnd? rest with
  | case1 => contradiction
  | case2 c rest ih => exact ((ih found).trans (List.suffix_cons c rest)).trans (List.suffix_cons ..)
  | case3 rest =>
    obtain rfl := Option.some.inj found
    exact List.suffix_refl _
  | case4 c rest _ _ ih => exact (ih found).trans (List.suffix_cons c rest)

/-- A quoted run ends at the same quote. -/
theorem quoteEndAt_position (fuel : ℕ) (ends : rest <:+ text) (enough : rest.length < fuel) :
    quoteEndAt text fuel (position text rest) =
      pure ((quoteEnd? rest).map fun after => position text ('"' :: after)) := by
  induction fuel generalizing rest with
  | zero => contradiction
  | succ fuel ih =>
    rw [quoteEndAt, getElem?_position ends]
    rcases rest with _ | ⟨c, rest⟩
    · rfl
    have behind : rest <:+ text := (List.suffix_cons c rest).trans ends
    rw [List.length_cons] at enough
    by_cases escape : c = '\\'
    · subst escape
      rcases rest with _ | ⟨d, rest⟩
      · obtain ⟨fuel, rfl⟩ : ∃ left, fuel = left + 1 := ⟨fuel - 1, by simp at enough; omega⟩
        simp only [List.head?_cons]
        rw [quoteEndAt, getElem?_beyond ends]
        rfl
      · simp only [List.head?_cons, position_add_two ends]
        rw [ih ((List.suffix_cons d rest).trans behind) (by rw [List.length_cons] at enough; omega)]
        rfl
    by_cases quote : c = '"'
    · subst quote
      rfl
    · simp only [List.head?_cons, position_succ ends]
      rw [ih behind (by omega), quoteEnd?.eq_4 c rest (fun _ _ same _ => escape same) quote]

theorem startsWord_position (ends : rest <:+ text) (word : List Char) :
    startsWord word text (position text rest) =
      (!gluedAt text (position text rest) && word.isPrefixOf rest) := by
  rw [startsWord, drop_position ends]

theorem argumentsEnd_position (ends : rest <:+ text) :
    argumentsEnd text (position text rest) = position text (scanArguments rest).2 := by
  rw [argumentsEnd, getElem?_position ends]
  by_cases opens : rest.head? = some '('
  · obtain ⟨inside, rfl⟩ := List.head?_eq_some_iff.1 opens
    have insideEnds : inside <:+ text := (List.suffix_cons '(' inside).trans ends
    have run : (fun c => !(c == ')' || c == '(')) = fun c => c != ')' && c != '(' := by
      funext c
      rw [Bool.not_or]
      rfl
    rw [if_pos opens, position_succ ends, findFrom_eq insideEnds, run, scanArguments]
    have tail := List.dropWhile_suffix (l := inside) fun c => c != ')' && c != '('
    rcases left : inside.dropWhile fun c => c != ')' && c != '(' with _ | ⟨d, after⟩
    · rfl
    · rw [left] at tail
      rw [if_neg (List.cons_ne_nil d after)]
      simp only [getElem?_position (tail.trans insideEnds), List.head?_cons, Option.some.injEq]
      by_cases closes : d = ')'
      · subst closes
        simp only [if_true, position_succ (tail.trans insideEnds)]
      · rw [if_neg closes]
        split
        · rename_i same
          exact absurd (List.cons.inj same).1 closes
        · rfl
  · rw [if_neg opens, scanArguments_of_head opens]

/-- A tag is read as it is from a text that starts with it. -/
theorem scanTagAt_position (ends : rest <:+ text) :
    scanTagAt text (position text rest) =
      pure ((scanTag? rest).map fun found => (found.1, position text found.2)) := by
  rw [scanTagAt, drop_position ends, scanTag?]
  rcases scanned : Tag.scan rest with ⟨name, behind⟩
  have whole := Tag.scan_append rest
  rw [scanned] at whole
  obtain rfl : name ++ behind = rest := whole
  rcases name with _ | ⟨c, name⟩
  · rfl
  have behindEnds : behind <:+ text := (List.suffix_append ..).trans ends
  have stop : argumentsEnd text (position text (c :: name ++ behind) + (c :: name).length) =
      position text (scanArguments behind).2 := by
    rw [position_append ends, argumentsEnd_position behindEnds]
  have listed := scanArguments_append behind
  have sliced : slice text (position text (c :: name ++ behind))
      (position text (scanArguments behind).2) = pure (c :: name ++ (scanArguments behind).1) := by
    rw [← listed, ← List.append_assoc] at ends
    have inside := slice_position ends
    rwa [List.append_assoc, listed] at inside
  simp only [List.length_cons, Nat.add_one_ne_zero, if_false] at stop ⊢
  rw [stop, sliced]
  rfl

end Lookahead

/-! ## Stepping over constructs -/

/-- The brace that a scan for the end of a branch or of a literal body closes. -/
def closer (quotes : Bool) : Brace := if quotes then .structural else .literal

/-- A scan finds the end of every body in an end of a text. -/
def Closes (text behind : List Char) (close : Bool → CloseAt) : Prop :=
  ∀ quotes inside, '{' :: inside <:+ behind →
    close quotes (position text ('{' :: inside)) =
      pure ((close? (closer quotes) inside).map fun closed => position text ('}' :: closed.rest))

/-- Whether a construct is stepped over as a whole: a `$` without a tag is a character as any other. -/
def leaps : Opening → Bool
  | .enclosing | .dollar => false
  | _ => true

/-- What is left of a text behind the construct that it starts with, if that is stepped over as a
whole. -/
def leap? (glued : Bool) (text : List Char) : Option (List Char) :=
  (scanOpening? glued text).bind fun found =>
    if leaps found.1 then some (cutConstruct found.1 found.2).rest else none

section Constructs

variable {text behind : List Char} {close : Bool → CloseAt}

theorem Closes.of_suffix (closes : Closes text behind close) {inner : List Char}
    (ends : inner <:+ behind) : Closes text inner close :=
  fun quotes inside within => closes quotes inside (within.trans ends)

theorem Closes.literal (closes : Closes text behind close) {inside : List Char}
    (within : '{' :: inside <:+ behind) :
    close false (position text ('{' :: inside)) =
      pure ((close? .literal inside).map fun closed => position text ('}' :: closed.rest)) :=
  closes false inside within

theorem Closes.structural (closes : Closes text behind close) {inside : List Char}
    (within : '{' :: inside <:+ behind) :
    close true (position text ('{' :: inside)) =
      pure ((close? .structural inside).map fun closed => position text ('}' :: closed.rest)) :=
  closes true inside within

theorem close?_suffix {brace : Brace} {inside : List Char} {closed : Closed}
    (found : close? brace inside = some closed) : '}' :: closed.rest <:+ inside := by
  rw [(close?_eq_some_iff.1 found).1]
  exact List.suffix_append ..

theorem infix_of_close? {brace : Brace} {inside : List Char} {closed : Closed}
    (found : close? brace inside = some closed) : closed.body <:+: inside := by
  rw [(close?_eq_some_iff.1 found).1]
  exact (List.prefix_append ..).isInfix

/-- The body that a search finds is the slice up to its closing brace. -/
theorem slice_close? {brace : Brace} {inside : List Char} {closed : Closed}
    (found : close? brace inside = some closed) (ends : inside <:+ text) :
    slice text (position text inside) (position text ('}' :: closed.rest)) = pure closed.body := by
  have whole := (close?_eq_some_iff.1 found).1
  rw [whole] at ends ⊢
  exact slice_position ends

theorem behindBody_position (closes : Closes text behind close) {inside : List Char}
    (within : '{' :: inside <:+ behind) (ends : behind <:+ text) (opening : Opening)
    (piece : Closed → Piece) :
    behindBody (close false) text (position text ('{' :: inside)) =
      pure (position text (cutBody opening piece inside).rest) := by
  rw [behindBody, closes.literal within, pure_bind, cutBody]
  have insideEnds : inside <:+ text := (List.suffix_cons '{' inside).trans (within.trans ends)
  rcases found : close? .literal inside with _ | closed
  · simp
  · have next := position_succ ((close?_suffix found).trans insideEnds)
    simp [next]

theorem opensBody_position {after : List Char} (ends : after <:+ text) :
    opensBody text (position text after) =
      ((after.head? == some '?' || after.head? == some '!') && after.tail.head? == some '{') := by
  rw [opensBody, getElem?_position ends]
  rcases after with _ | ⟨c, after⟩
  · rfl
  · rw [position_succ ends, getElem?_position ((List.suffix_cons c after).trans ends)]
    rfl

/-- Without `?{` and `!{` no body is opened. -/
theorem head?_noBody {after : List Char} (noPresent : ∀ inside, after = '?' :: '{' :: inside → False)
    (noAbsent : ∀ inside, after = '!' :: '{' :: inside → False) :
    ((after.head? == some '?' || after.head? == some '!') && after.tail.head? == some '{') = false := by
  rcases after with _ | ⟨c, _ | ⟨d, after⟩⟩
  · rfl
  · simp
  · rw [Bool.eq_false_iff]
    simp only [List.head?_cons, List.tail_cons, ne_eq, Bool.and_eq_true, Bool.or_eq_true, beq_iff_eq,
      Option.some.injEq]
    rintro ⟨rfl | rfl, rfl⟩
    · exact noPresent _ rfl
    · exact noAbsent _ rfl

/-- No tag starts with white space, a digit or a brace, or at the end. -/
theorem scanDollar_eq (noBrace : behind.head? ≠ some '{') :
    (scanDollar behind).1 = .enclosing ∧ scanTag? behind = none ∨
      (scanDollar behind).1 = .dollar ∧ scanTag? behind = none ∨
      ∃ tag after, scanTag? behind = some (tag, after) ∧ scanDollar behind = dollarTag tag after := by
  rcases behind with _ | ⟨c, behind⟩
  · exact .inl ⟨rfl, rfl⟩
  have other : c ≠ '{' := fun same => noBrace (congrArg some same)
  rw [scanDollar_cons other]
  by_cases silent : isBlank c || c.isDigit
  · have noLetter : ¬Tag.isLetter c := by
      intro letter
      have := Tag.not_blank_of_isLetter letter
      simp_all
    rw [if_pos silent]
    exact .inl ⟨rfl, by rw [scanTag?, Tag.scan, if_neg noLetter]⟩
  · rw [if_neg silent]
    rcases tagged : scanTag? (c :: behind) with _ | ⟨tag, after⟩
    · exact .inr (.inl ⟨rfl, rfl⟩)
    · exact .inr (.inr ⟨tag, after, rfl, rfl⟩)

theorem constructEnd_dollar (glued : Bool) (ends : '$' :: behind <:+ text)
    (closes : Closes text behind close) :
    constructEnd (close false) text (position text ('$' :: behind)) =
      pure ((leap? glued ('$' :: behind)).map (position text)) := by
  have behindEnds : behind <:+ text := (List.suffix_cons '$' behind).trans ends
  have opened : leap? glued ('$' :: behind) = if leaps (scanDollar behind).1 then
    some (cutConstruct (scanDollar behind).1 (scanDollar behind).2).rest else none := rfl
  rw [constructEnd, getElem?_position ends, position_succ ends, getElem?_position behindEnds, opened]
  simp only [List.head?_cons]
  by_cases brace : behind.head? = some '{'
  · obtain ⟨inside, rfl⟩ := List.head?_eq_some_iff.1 brace
    rw [if_pos brace, behindBody_position closes (List.suffix_refl _) behindEnds .joined
      (fun closed => .joined closed.body)]
    rfl
  rw [if_neg brace, scanTagAt_position behindEnds, pure_bind]
  rcases scanDollar_eq brace with ⟨silent, none⟩ | ⟨silent, none⟩ | ⟨tag, after, found, same⟩
  · rw [silent, none]
    rfl
  · rw [silent, none]
    rfl
  · have afterEnds : after <:+ text := (scanTag?_suffix found).trans behindEnds
    have within := scanTag?_suffix found
    rw [found, same]
    simp only [Option.map_some, opensBody_position afterEnds]
    fun_cases dollarTag tag after with
    | case1 inside =>
      have bodyEnds : '{' :: inside <:+ behind := (List.suffix_cons '?' _).trans within
      simp only [List.head?_cons, List.tail_cons, beq_self_eq_true, Bool.true_or, Bool.true_and, if_true,
        position_succ afterEnds]
      rw [behindBody_position closes bodyEnds behindEnds (.present tag)
        (fun closed => .present tag (closed.read (.literal false)))]
      rfl
    | case2 inside =>
      have bodyEnds : '{' :: inside <:+ behind := (List.suffix_cons '!' _).trans within
      simp only [List.head?_cons, List.tail_cons, beq_self_eq_true, Bool.or_true, Bool.true_and, if_true,
        position_succ afterEnds]
      rw [behindBody_position closes bodyEnds behindEnds (.absent tag)
        (fun closed => .absent tag (closed.read (.literal false)))]
      rfl
    | case3 after noPresent noAbsent =>
      rw [if_neg (Bool.eq_false_iff.1 (head?_noBody noPresent noAbsent))]
      rfl

theorem constructEnd_question (glued : Bool) (ends : '?' :: behind <:+ text)
    (closes : Closes text behind close) :
    constructEnd (close false) text (position text ('?' :: behind)) =
      pure ((leap? glued ('?' :: behind)).map (position text)) := by
  have behindEnds : behind <:+ text := (List.suffix_cons '?' behind).trans ends
  have opened : leap? glued ('?' :: behind) = (scanQuestion? behind).bind fun found =>
    if leaps found.1 then some (cutConstruct found.1 found.2).rest else none := rfl
  rw [constructEnd, getElem?_position ends, position_succ ends, opened, scanQuestion?]
  simp only [List.head?_cons]
  rw [scanTagAt_position behindEnds, pure_bind]
  rcases found : scanTag? behind with _ | ⟨tag, after⟩
  · rfl
  have within := scanTag?_suffix found
  simp only [Option.map_some, getElem?_position (within.trans behindEnds)]
  by_cases brace : after.head? = some '{'
  · obtain ⟨inside, rfl⟩ := List.head?_eq_some_iff.1 brace
    rw [if_pos brace, behindBody_position closes within behindEnds (.present tag)
      (fun closed => .present tag (closed.read (.literal false)))]
    rfl
  · rw [if_neg brace]
    rcases after with _ | ⟨c, after⟩
    · rfl
    · have other : c ≠ '{' := fun same => brace (congrArg some same)
      split
      · rename_i same
        cases same
        exact absurd rfl other
      · rfl

/-! ## Conditionals with branches -/

/-- The parts of an `if` that was read. -/
def IfConstruct.ofCut (text : List Char) (cut : Cut) : IfConstruct :=
  match cut.piece with
  | .branch tag yes | .unclosedElse tag yes => ⟨tag, some yes.text, none, position text cut.rest⟩
  | .branches tag yes no => ⟨tag, some yes.text, some no.text, position text cut.rest⟩
  | .unclosed (.branch tag) => ⟨tag, none, none, position text cut.rest⟩
  | _ => ⟨[], none, none, position text cut.rest⟩

@[simp] theorem IfConstruct.ofCut_stop (text : List Char) (cut : Cut) :
    (IfConstruct.ofCut text cut).stop = position text cut.rest := by
  unfold ofCut
  split <;> rfl

theorem not_glues_of_isBlank {c : Char} (blank : isBlank c) : glues c = false := by
  simp only [isBlank, Bool.or_eq_true, Bool.and_eq_true, decide_eq_true_eq, beq_iff_eq] at blank
  have hyphen : c ≠ '-' := by
    rintro rfl
    contradiction
  have underscore : c ≠ '_' := by
    rintro rfl
    contradiction
  have upper : c.isUpper = decide (65 ≤ c.toNat ∧ c.toNat ≤ 90) := rfl
  have lower : c.isLower = (decide (97 ≤ c.toNat) && decide (c.toNat ≤ 122)) := rfl
  have digit : c.isDigit = (decide (48 ≤ c.toNat) && decide (c.toNat ≤ 57)) := rfl
  have noWord : (c.isUpper || c.isLower || c.isDigit) = false := by
    rw [upper, lower, digit]
    simp only [Bool.or_eq_false_iff, Bool.and_eq_false_iff, decide_eq_false_iff_not]
    omega
  change (c.isUpper || c.isLower || c.isDigit || c == '-' || c == '_') = false
  simp [noWord, hyphen, underscore]

/-- Behind white space no word goes on. -/
theorem gluedAt_trimStart {c : Char} {rest : List Char} (ends : c :: rest <:+ text)
    (stops : glues c = false) : gluedAt text (position text (trimStart rest)) = false := by
  induction rest generalizing c with
  | nil => rw [trimStart, List.dropWhile_nil, gluedAt_position ends, stops]
  | cons d rest ih =>
    by_cases blank : isBlank d
    · rw [trimStart, List.dropWhile_cons_of_pos blank]
      exact ih ((List.suffix_cons c _).trans ends) (not_glues_of_isBlank blank)
    · rw [trimStart, List.dropWhile_cons_of_neg blank, gluedAt_position ends, stops]

theorem strip?_eq_none {lead rest : List Char} (apart : ¬lead <+: rest) : strip? lead rest = none := by
  rw [Option.eq_none_iff_forall_ne_some]
  intro behind found
  exact apart ⟨behind, (strip?_eq_some_iff.1 found).symm⟩

theorem strip?_of_head {c : Char} {rest : List Char} (other : rest.head? ≠ some c) :
    strip? [c] rest = none := by
  apply strip?_eq_none
  rintro ⟨behind, rfl⟩
  exact other rfl

theorem parseElse_position {tag : List Char} {yes : Closed} (ends : '}' :: yes.rest <:+ text)
    (closes : Closes text yes.rest close) :
    parseElse (close true) text tag yes.body (position text yes.rest) =
      pure (.ofCut text (cutElse tag yes)) := by
  have restEnds : yes.rest <:+ text := (List.suffix_cons '}' yes.rest).trans ends
  have afterEnds : trimStart yes.rest <:+ text := (trimStart_suffix yes.rest).trans restEnds
  have unglued := gluedAt_trimStart ends (by decide)
  rw [parseElse, skipBlanks_position restEnds, startsWord_position afterEnds, unglued, cutElse, scanElse?]
  by_cases keyword : ['e', 'l', 's', 'e'] <+: trimStart yes.rest
  · obtain ⟨behind, word⟩ := keyword
    have stripped : strip? ['e', 'l', 's', 'e'] (trimStart yes.rest) = some behind :=
      strip?_eq_some_iff.2 word.symm
    have behindEnds : behind <:+ text := (strip?_suffix stripped).trans afterEnds
    have braceEnds : trimStart behind <:+ text := (trimStart_suffix behind).trans behindEnds
    have next : position text (trimStart yes.rest) + 4 = position text behind := by
      rw [← word] at afterEnds ⊢
      exact position_append afterEnds
    have stands : ['e', 'l', 's', 'e'].isPrefixOf (trimStart yes.rest) := by simp [← word]
    simp only [stands, stripped, next, skipBlanks_position behindEnds, getElem?_position braceEnds,
      Bool.not_false, Bool.and_true, if_true, Option.bind_eq_bind, Option.bind_some]
    by_cases brace : (trimStart behind).head? = some '{'
    · obtain ⟨inside, opens⟩ := List.head?_eq_some_iff.1 brace
      have within : '{' :: inside <:+ yes.rest := by
        rw [← opens]
        exact ((trimStart_suffix behind).trans (strip?_suffix stripped)).trans (trimStart_suffix yes.rest)
      have insideEnds : inside <:+ text := (List.suffix_cons '{' inside).trans (within.trans restEnds)
      rw [if_pos brace, opens, closes.structural within, pure_bind]
      simp only [strip?, if_true]
      rcases found : close? .structural inside with _ | no
      · rfl
      · simp only [Option.map_some, position_succ (within.trans restEnds), slice_close? found insideEnds,
          pure_bind, position_succ ((close?_suffix found).trans insideEnds)]
        rfl
    · rw [if_neg brace, strip?_of_head brace]
      rfl
  · have absent : ['e', 'l', 's', 'e'].isPrefixOf (trimStart yes.rest) = false := by
      rwa [Bool.eq_false_iff, Ne, List.isPrefixOf_iff_prefix]
    simp only [absent, strip?_eq_none keyword, Bool.and_false]
    rfl

theorem parseBranches_position {inside : List Char} (within : '{' :: inside <:+ behind)
    (ends : behind <:+ text) (closes : Closes text behind close) (tag : List Char) :
    parseBranches (close true) text tag (position text ('{' :: inside)) =
      pure (.ofCut text (cutConstruct (.branch tag) inside)) := by
  have insideWithin : inside <:+ behind := (List.suffix_cons '{' inside).trans within
  have insideEnds : inside <:+ text := insideWithin.trans ends
  rw [parseBranches, closes.structural within, pure_bind, position_succ (within.trans ends), cutConstruct]
  rcases first : close? .structural inside with _ | yes
  · rfl
  · have restWithin : '}' :: yes.rest <:+ inside := close?_suffix first
    have restEnds : '}' :: yes.rest <:+ text := restWithin.trans insideEnds
    have behindYes : yes.rest <:+ behind :=
      (List.suffix_cons '}' yes.rest).trans (restWithin.trans insideWithin)
    simp only [Option.map_some, slice_close? first insideEnds, pure_bind, position_succ restEnds,
      parseElse_position restEnds (closes.of_suffix behindYes)]

/-- The conditional of a header, by what follows its `i`. -/
theorem parseIf_position {rest : List Char} {start : ℕ} (ends : rest <:+ text)
    (at' : start + 2 = position text rest) (closes : Closes text rest close) :
    parseIf (close true) text start =
      pure ((scanIf? ('f' :: rest)).map fun found => .ofCut text (cutConstruct found.1 found.2)) := by
  have parenEnds : trimStart rest <:+ text := (trimStart_suffix rest).trans ends
  have stripped : strip? ['f'] ('f' :: rest) = some rest := rfl
  rw [parseIf, at', skipBlanks_position ends, getElem?_position parenEnds, scanIf?, stripped]
  simp only [Option.bind_eq_bind, Option.bind_some]
  by_cases paren : (trimStart rest).head? = some '('
  · obtain ⟨inside, opens⟩ := List.head?_eq_some_iff.1 paren
    rw [opens] at parenEnds
    have insideEnds : inside <:+ text := (List.suffix_cons '(' inside).trans parenEnds
    have left : strip? ['('] ('(' :: inside) = some inside := rfl
    have run : inside.dropWhile (fun c => !(c == ')')) = inside.dropWhile (· != ')') := rfl
    have tail := List.dropWhile_suffix (l := inside) (· != ')')
    have sliced := slice_takeWhile insideEnds (· != ')')
    simp only [opens, List.head?_cons, ne_eq, not_true, if_false, position_succ parenEnds,
      findFrom_eq insideEnds, run, left, Option.bind_some]
    rcases found : inside.dropWhile (· != ')') with _ | ⟨d, behind⟩
    · rfl
    have closes' : d = ')' := by
      have stops := List.head?_dropWhile_not (· != ')') inside
      rw [found] at stops
      simpa using stops
    subst closes'
    rw [found] at tail sliced
    have finalEnds : ')' :: behind <:+ text := tail.trans insideEnds
    have behindEnds : behind <:+ text := (List.suffix_cons ')' behind).trans finalEnds
    have braceEnds : trimStart behind <:+ text := (trimStart_suffix behind).trans behindEnds
    have right : strip? [')'] (')' :: behind) = some behind := rfl
    simp only [reduceCtorEq, if_false, sliced, pure_bind, position_succ finalEnds,
      skipBlanks_position behindEnds, getElem?_position braceEnds, right, Option.bind_some]
    by_cases named : Tag.hyphenated (trim (inside.takeWhile (· != ')'))) = []
    · rw [if_pos named]
      simp only [named, if_true]
      rcases strip? ['{'] (trimStart behind) <;> rfl
    by_cases brace : (trimStart behind).head? = some '{'
    · obtain ⟨body, opens'⟩ := List.head?_eq_some_iff.1 brace
      have within : '{' :: body <:+ rest := by
        rw [← opens']
        refine (trimStart_suffix behind).trans ((List.suffix_cons ')' behind).trans (tail.trans ?_))
        refine (List.suffix_cons '(' inside).trans ?_
        rw [← opens]
        exact trimStart_suffix rest
      have opened : strip? ['{'] ('{' :: body) = some body := rfl
      simp only [named, if_false, opens', List.head?_cons, not_true,
        parseBranches_position within ends closes, pure_bind, opened, Option.bind_some, Option.map_some]
    · rw [if_neg named, if_pos brace, strip?_of_head brace]
      rfl
  · rw [if_pos paren, strip?_of_head paren]
    rfl

theorem scanIf?_of_head (other : behind.head? ≠ some 'f') : scanIf? behind = none := by
  rw [scanIf?, strip?_of_head other]
  rfl

theorem startsWord_if (ends : 'i' :: behind <:+ text) :
    startsWord ['i', 'f'] text (position text ('i' :: behind)) =
      (!gluedAt text (position text ('i' :: behind)) && behind.head? == some 'f') := by
  rw [startsWord_position ends]
  rcases behind with _ | ⟨c, rest⟩
  · rfl
  · have word : ['i', 'f'].isPrefixOf ('i' :: c :: rest) = (c == 'f') := by
      simp [List.isPrefixOf, eq_comm]
    rw [word]
    rfl

theorem exists_branch_of_scanIf? {rest after : List Char} {opening : Opening}
    (found : scanIf? rest = some (opening, after)) : ∃ tag, opening = .branch tag := by
  simp only [scanIf?, Option.bind_eq_bind, Option.bind_eq_some_iff] at found
  obtain ⟨_, -, _, -, _, -, _, -, final⟩ := found
  split at final
  · contradiction
  · obtain ⟨rfl, -⟩ := Prod.mk.inj (Option.some.inj final)
    exact ⟨_, rfl⟩

/-- A construct that is stepped over as a whole ends where reading goes on behind it. -/
theorem unitEnd_position {c : Char} (ends : c :: behind <:+ text) (closes : Closes text behind close) :
    unitEnd close text (position text (c :: behind)) =
      pure ((leap? (gluedAt text (position text (c :: behind))) (c :: behind)).map (position text)) := by
  rw [unitEnd, getElem?_position ends, List.head?_cons]
  by_cases dollar : c = '$'
  · subst dollar
    exact constructEnd_dollar _ ends closes
  by_cases question : c = '?'
  · subst question
    exact constructEnd_question _ ends closes
  by_cases letter : c = 'i'
  · subst letter
    simp only [startsWord_if ends]
    rcases gluedAt text (position text ('i' :: behind)) with _ | _
    · have opened : leap? false ('i' :: behind) = (scanIf? behind).bind fun found =>
        if leaps found.1 then some (cutConstruct found.1 found.2).rest else none := rfl
      by_cases word : behind.head? = some 'f'
      · obtain ⟨rest, rfl⟩ := List.head?_eq_some_iff.1 word
        have restEnds : rest <:+ text := ((List.suffix_cons 'f' rest).trans (List.suffix_cons ..)).trans ends
        rw [if_pos (by simp), parseIf_position restEnds (position_add_two ends)
          (closes.of_suffix (List.suffix_cons ..)), pure_bind, opened]
        rcases found : scanIf? ('f' :: rest) with _ | ⟨opening, after⟩
        · rfl
        · obtain ⟨tag, rfl⟩ := exists_branch_of_scanIf? found
          simp [leaps]
      · rw [if_neg (by simpa using word), opened, scanIf?_of_head word]
        rfl
    · rfl
  · have silent : scanOpening? (gluedAt text (position text (c :: behind))) (c :: behind) = none := by
      unfold scanOpening?
      split <;> simp_all
    rw [leap?, silent]
    split <;> simp_all

end Constructs

end TitleBar.Template.Cursor
