import TitleBar.Path
import TitleBar.Proofs.Text.Pieces

/-! # Parts of paths

A path has the parts that its pieces stand for, behind a separator or a `.` at its very start. A path that
is seen from another one has the parts of that one and then the names of its own.
-/

namespace TitleBar.Path

open Text

/-- What a text starts with, if that counts at the start of a path only. -/
def front : List Char → List Part
  | '/' :: _ => [.root]
  | ['.'] | '.' :: '/' :: _ => [.here]
  | _ => []

theorem front_cases (text : List Char) :
    front text = [] ∨ front text = [.root] ∨ front text = [.here] := by
  unfold front
  split <;> simp

/-- The parts that the pieces of a text stand for. -/
def names (text : List Char) : List Part := (splitAt (· == '/') text).filterMap Part.ofPiece?

theorem names_nil : names [] = [] := rfl

theorem names_dot : names ['.'] = [] := rfl

theorem names_append_cons (first second : List Char) :
    names (first ++ '/' :: second) = names first ++ names second := by
  rw [names, splitAt_append_cons first (by decide), List.filterMap_append]
  rfl

theorem names_of_piece {piece : List Char} (whole : '/' ∉ piece) :
    names piece = (Part.ofPiece? piece).toList := by
  rw [names, splitAt_of_uncut (uncut_of_not_mem whole)]
  cases part : Part.ofPiece? piece <;> simp [part]

theorem front_append_cons {first : List Char} (some : first ≠ []) (second : List Char) :
    front (first ++ '/' :: second) = front first := by
  obtain ⟨c, first, rfl⟩ := List.exists_cons_of_ne_nil some
  by_cases root : c = '/'
  · subst root
    rfl
  by_cases dot : c = '.'
  · subst dot
    rcases first with _ | ⟨d, first⟩
    · rfl
    · by_cases slash : d = '/'
      · subst slash
        rfl
      · simp [front, slash]
  · simp [front, root, dot]

/-- Nothing counts at the start of a piece that stands for a part. -/
theorem front_of_piece {piece : List Char} {part : Part} (whole : '/' ∉ piece)
    (stands : Part.ofPiece? piece = some part) : front piece = [] := by
  rcases piece with _ | ⟨c, piece⟩
  · rfl
  have noSlash : c ≠ '/' := fun same => whole (same ▸ List.mem_cons_self)
  by_cases dot : c = '.'
  · subst dot
    rcases piece with _ | ⟨d, piece⟩
    · contradiction
    · have noSlash' : d ≠ '/' := fun same => whole (by simp [same])
      simp [front, noSlash']
  · simp [front, noSlash, dot]

/-- Only a text that starts with the piece `.` starts with what `.` stands for. -/
theorem splitAt_of_front (text : List Char) (relative : text.head? ≠ some '/') :
    ∃ first more, splitAt (· == '/') text = first :: more ∧
      (first = ['.'] ∧ front text = [.here] ∨ first ≠ ['.'] ∧ front text = []) := by
  rcases text with _ | ⟨c, text⟩
  · exact ⟨[], [], rfl, .inr ⟨by decide, rfl⟩⟩
  have noSlash : c ≠ '/' := fun same => relative (congrArg some same)
  obtain ⟨piece, pieces, split⟩ := List.exists_cons_of_ne_nil (splitAt_ne_nil (· == '/') text)
  refine ⟨c :: piece, pieces, by simp [splitAt, noSlash, split], ?_⟩
  by_cases dot : c = '.'
  · subst dot
    rcases text with _ | ⟨d, text⟩
    · obtain ⟨rfl, -⟩ := List.cons.inj split
      exact .inl ⟨rfl, rfl⟩
    · by_cases slash : d = '/'
      · subst slash
        rw [splitAt_cons_of_cut (by decide)] at split
        obtain ⟨rfl, -⟩ := List.cons.inj split
        exact .inl ⟨rfl, rfl⟩
      · obtain ⟨next, later, behind⟩ := List.exists_cons_of_ne_nil (splitAt_ne_nil (· == '/') text)
        rw [splitAt, if_neg (by simpa using slash), behind] at split
        obtain ⟨rfl, -⟩ := List.cons.inj split
        exact .inr ⟨by simp, by simp [front, slash]⟩
  · exact .inr ⟨by simp [dot], by simp [front, noSlash, dot]⟩

/-- A path starts with what counts at its start, and goes on with what its pieces stand for. -/
theorem parts_eq (path : Path) :
    path.parts = front path.text.toList ++ names path.text.toList := by
  rw [parts]
  generalize path.text.toList = text
  by_cases absolute : text.head? = some '/'
  · obtain ⟨rest, rfl⟩ := List.head?_eq_some_iff.1 absolute
    exact (congrArg _ (names_append_cons [] rest)).symm
  · obtain ⟨first, more, pieces, starts⟩ := splitAt_of_front text absolute
    split
    · exact absurd rfl absolute
    rcases starts with ⟨rfl, dotted⟩ | ⟨other, plain⟩
    · rw [dotted, names, pieces, List.filterMap_cons_none rfl]
      rfl
    · rw [plain, names, pieces, List.nil_append]
      split
      · rename_i dotted
        exact absurd (List.cons.inj dotted).1 other
      · rfl

/-! ## Joined paths -/

/-- A text that starts with no separator, behind a path. -/
theorem parts_join {path : Path} (some : path.text.toList ≠ []) {other : String}
    (relative : other.toList.head? ≠ .some '/') :
    (path.join other).parts = path.parts ++ names other.toList := by
  rw [parts_eq, parts_eq path, join, if_neg relative]
  obtain ⟨before, c, whole⟩ := (List.eq_nil_or_concat path.text.toList).resolve_left some
  rw [List.concat_eq_append] at whole
  by_cases slash : c = '/'
  · subst slash
    rw [if_pos (by simp [whole])]
    simp only [String.toList_append, whole, List.append_assoc, List.singleton_append]
    rcases before with _ | ⟨d, before⟩
    · exact congrArg _ (names_append_cons [] other.toList)
    · rw [front_append_cons (List.cons_ne_nil d before), names_append_cons,
        front_append_cons (List.cons_ne_nil d before), names_append_cons, names_nil, List.append_nil]
  · have inside : ¬(path.text.isEmpty ∨ path.text.toList.getLast? = .some '/') := by
      rw [not_or, whole, List.getLast?_concat]
      exact ⟨by simpa using some, by simpa using slash⟩
    rw [if_neg inside]
    have text : (path.text ++ "/" ++ other).toList = path.text.toList ++ '/' :: other.toList := by simp
    simp only [text, front_append_cons some, names_append_cons, List.append_assoc]

/-- A name behind a path. -/
theorem parts_join_name (path : Path) {name : String} {part : Part} (whole : '/' ∉ name.toList)
    (stands : Part.ofPiece? name.toList = some part) :
    (path.join name).parts = path.parts ++ [part] := by
  have relative : name.toList.head? ≠ some '/' :=
    fun first => whole (List.mem_of_mem_head? first)
  have only : names name.toList = [part] := by
    rw [names_of_piece whole, stands, Option.toList_some]
  by_cases none : path.text.toList = []
  · have same : path.join name = ⟨name⟩ := by
      have nothing : path.text = "" := by simpa using none
      simp [join, relative, nothing]
    rw [same, parts_eq, parts_eq path, none, front_of_piece whole stands, only]
    rfl
  · rw [parts_join none relative, only]

theorem name_mem_names_iff (path : Path) (name : String) :
    .name name ∈ names path.text.toList ↔ .name name ∈ path.parts := by
  rw [parts_eq, List.mem_append]
  rcases front_cases path.text.toList with none | root | here
  · simp [none]
  · simp [root]
  · simp [here]

/-! ## The path above -/

/-- Two texts that start paths with the same parts. -/
def Same (text other : List Char) : Prop := front text = front other ∧ names text = names other

/-- A text with no separator and no `.` at its end that could be left out. -/
def Tight (text : List Char) : Prop :=
  (∀ before, before ≠ [] → text ≠ before ++ ['/']) ∧ ∀ before, text ≠ before ++ ['/', '.']

theorem same_append_slash {before : List Char} (some : before ≠ []) :
    Same before (before ++ ['/']) := by
  constructor
  · rw [front_append_cons some]
  · rw [names_append_cons, names_nil, List.append_nil]

theorem same_append_dot {before : List Char} (some : before ≠ []) :
    Same (before ++ ['/']) (before ++ ['/', '.']) := by
  constructor
  · rw [front_append_cons some, front_append_cons some]
  · rw [names_append_cons, names_append_cons, names_nil, names_dot]

theorem Same.trans {first second third : List Char} (same : Same first second)
    (next : Same second third) : Same first third :=
  ⟨same.1.trans next.1, same.2.trans next.2⟩

theorem Same.parts_eq {text other : List Char} (same : Same text other) :
    parts ⟨String.ofList text⟩ = parts ⟨String.ofList other⟩ := by
  simp only [Path.parts_eq, String.toList_ofList, same.1, same.2]

/-- Trimming a text leaves the parts of its path alone and leaves nothing to trim. -/
theorem trimmed_go {fuel : Nat} {text : List Char} (enough : text.length ≤ fuel) :
    Same (trimmed.go fuel text) text ∧ Tight (trimmed.go fuel text) := by
  induction fuel generalizing text with
  | zero =>
    obtain rfl := List.length_eq_zero_iff.1 (Nat.le_zero.1 enough)
    exact ⟨⟨rfl, rfl⟩, by simp [trimmed.go], by simp [trimmed.go]⟩
  | succ fuel ih =>
    obtain ⟨back, rfl⟩ : ∃ back, text = back.reverse := ⟨text.reverse, text.reverse_reverse.symm⟩
    rw [List.length_reverse] at enough
    rw [trimmed.go, List.reverse_reverse]
    split
    case h_1 c rest =>
      have shorter : (c :: rest).reverse.length ≤ fuel := by
        simp only [List.length_cons, List.length_reverse] at enough ⊢
        omega
      obtain ⟨same, tight⟩ := ih shorter
      rw [List.reverse_cons (a := '/')]
      exact ⟨same.trans (same_append_slash (by simp)), tight⟩
    case h_2 c rest =>
      have shorter : ('/' :: c :: rest).reverse.length ≤ fuel := by
        simp only [List.length_cons, List.length_reverse] at enough ⊢
        omega
      obtain ⟨same, tight⟩ := ih shorter
      have whole : ('.' :: '/' :: c :: rest).reverse = (c :: rest).reverse ++ ['/', '.'] := by simp
      rw [whole]
      rw [List.reverse_cons (a := '/')] at same tight ⊢
      exact ⟨same.trans (same_append_dot (by simp)), tight⟩
    case h_3 =>
      exact ⟨⟨rfl, rfl⟩, by simp, by simp [List.cons_eq_append_iff]⟩
    case h_4 slash dot root =>
      refine ⟨⟨rfl, rfl⟩, ?_, ?_⟩
      · intro before some whole
        obtain ⟨rest, c, rfl⟩ := (List.eq_nil_or_concat before).resolve_left some
        exact slash c rest.reverse (by simpa using congrArg List.reverse whole)
      · intro before whole
        have ends := congrArg List.reverse whole
        rcases List.eq_nil_or_concat before with rfl | ⟨rest, c, rfl⟩
        · exact root (by simpa using ends)
        · exact dot c rest.reverse (by simpa using ends)

theorem trimmed_same (text : List Char) : Same (trimmed text) text := (trimmed_go le_rfl).1

theorem trimmed_tight (text : List Char) : Tight (trimmed text) := (trimmed_go le_rfl).2

theorem ofPiece?_eq_none_iff {piece : List Char} :
    Part.ofPiece? piece = none ↔ piece = [] ∨ piece = ['.'] := by
  rw [Part.ofPiece?]
  split_ifs with skipped <;> simp [skipped]

/-- A text is a piece, or it has a last piece. -/
theorem exists_last_piece (text : List Char) :
    '/' ∉ text ∨ ∃ before piece, text = before ++ '/' :: piece ∧ '/' ∉ piece := by
  by_cases slash : '/' ∈ text
  · obtain ⟨back, rest, whole, absent⟩ := List.eq_append_cons_of_mem (List.mem_reverse.2 slash)
    refine .inr ⟨rest.reverse, back.reverse, ?_, by simpa using absent⟩
    simpa using congrArg List.reverse whole
  · exact .inl slash

/-- What is left of a text without its last piece. -/
def kept (text : List Char) : List Char := (text.reverse.dropWhile (· != '/')).reverse

theorem kept_of_piece {piece : List Char} (whole : '/' ∉ piece) : kept piece = [] := by
  rw [kept, List.dropWhile_eq_nil_iff.2, List.reverse_nil]
  intro c member
  rw [bne_iff_ne]
  rintro rfl
  exact whole (List.mem_reverse.1 member)

theorem kept_append_cons (before : List Char) {piece : List Char} (whole : '/' ∉ piece) :
    kept (before ++ '/' :: piece) = before ++ ['/'] := by
  have back : '/' ∉ piece.reverse := by simpa using whole
  rw [kept, List.reverse_append, List.reverse_cons, List.append_assoc, List.singleton_append,
    (span_of_not_mem back before.reverse).2, List.reverse_cons, List.reverse_reverse]

/-- Without its last piece, a tight text has lost the last part of its path. -/
theorem parts_kept {text : List Char} (tight : Tight text)
    (below : (parts ⟨String.ofList text⟩).getLast? ≠ some .root) :
    parts ⟨String.ofList (kept text)⟩ = (parts ⟨String.ofList text⟩).dropLast := by
  simp only [parts_eq, String.toList_ofList] at below ⊢
  rcases exists_last_piece text with whole | ⟨before, piece, rfl, whole⟩
  · rw [kept_of_piece whole, names_of_piece whole]
    rcases stands : Part.ofPiece? text with _ | part
    · rcases ofPiece?_eq_none_iff.1 stands with rfl | rfl
      · rfl
      · rfl
    · rw [front_of_piece whole stands]
      rfl
  · rw [kept_append_cons before whole, names_append_cons, names_append_cons, names_nil, List.append_nil,
      names_of_piece whole]
    have start : front (before ++ '/' :: piece) = front (before ++ ['/']) := by
      rcases before with _ | ⟨c, before⟩
      · rfl
      · rw [front_append_cons (List.cons_ne_nil c before), front_append_cons (List.cons_ne_nil c before)]
    rw [start]
    rcases stands : Part.ofPiece? piece with _ | part
    · rcases ofPiece?_eq_none_iff.1 stands with rfl | rfl
      · rcases before with _ | ⟨c, before⟩
        · exact absurd rfl below
        · exact absurd rfl (tight.1 (c :: before) (List.cons_ne_nil c before))
      · exact absurd rfl (tight.2 before)
    · rw [Option.toList_some, ← List.append_assoc, List.dropLast_concat]

/-- There is no path above the root, and none above the empty path. -/
theorem parent?_eq_none_iff {path : Path} :
    path.parent? = none ↔ path.parts = [] ∨ path.parts.getLast? = some .root := by
  rw [← List.getLast?_eq_none_iff, parent?]
  rcases last : path.parts.getLast? with _ | (_ | _ | _ | name) <;> simp

/-- The path above a path has all its parts but the last. -/
theorem parts_parent? {path above : Path} (found : path.parent? = some above) :
    above.parts = path.parts.dropLast := by
  have same : parts ⟨String.ofList (trimmed path.text.toList)⟩ = path.parts := by
    rw [(trimmed_same _).parts_eq, String.ofList_toList]
  have below : path.parts.getLast? ≠ some .root := by
    intro root
    rw [parent?_eq_none_iff.2 (.inr root)] at found
    contradiction
  rw [parent?] at found
  split at found
  · contradiction
  · contradiction
  · obtain rfl := Option.some.inj found
    change parts ⟨String.ofList (trimmed (kept (trimmed path.text.toList)))⟩ = _
    rw [(trimmed_same _).parts_eq, parts_kept (trimmed_tight _) (by rwa [same]), same]

end TitleBar.Path
