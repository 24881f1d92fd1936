import Mathlib.Data.List.DropRight
import Mathlib.Data.List.Forall2
import TitleBar.Proofs.Tag.Slice
import TitleBar.Repository.Perforce

/-! # Views of clients

The description of a client holds its mappings, one on a line, each with a sign or without one and with
its path plain or in quotes. They are read back as they are meant, however they are written, and a slice
is taken from the first of them that has enough segments.
-/

namespace TitleBar.Perforce

open Text

/-- Characters at the end of a text are dropped behind one that is kept. -/
theorem rdropWhile_append_cons {drops : Char → Bool} {c : Char} (kept : drops c = false)
    (front behind : List Char) :
    (front ++ c :: behind).rdropWhile drops = front ++ c :: behind.rdropWhile drops := by
  induction behind using List.reverseRecOn with
  | nil => exact List.rdropWhile_concat_neg _ _ _ (by simp [kept])
  | append_singleton behind d ih =>
    rw [← List.cons_append, ← List.append_assoc, List.rdropWhile_concat, List.rdropWhile_concat, ih]
    split <;> simp

/-! ## Mappings -/

/-- A mapping: a sign or none, and the segments of a path in the depot. -/
structure Mapping where
  sign : List Char
  segments : List (List Char)
  sign_cases : sign = [] ∨ sign = ['+'] ∨ sign = ['-']
  segments_ne_nil : segments ≠ []
  segments_plain : ∀ segment ∈ segments, '/' ∉ segment ∧ '"' ∉ segment

namespace Mapping

/-- The path in the depot. -/
def path (mapping : Mapping) : List Char := '/' :: '/' :: join ['/'] mapping.segments

/-- The sign and the path. -/
def text (mapping : Mapping) : List Char := mapping.sign ++ mapping.path

/-- Any path in the depot without a quote is that of a mapping with any sign. -/
theorem exists_path_eq {sign path : List Char} (signed : sign = [] ∨ sign = ['+'] ∨ sign = ['-'])
    (rooted : ['/', '/'] <+: path) (unquoted : '"' ∉ path) :
    ∃ mapping : Mapping, mapping.sign = sign ∧ mapping.path = path := by
  obtain ⟨rest, rfl⟩ := rooted
  refine ⟨⟨sign, splitAt (· == '/') rest, signed, splitAt_ne_nil _ rest, ?_⟩, rfl, ?_⟩
  · intro segment member
    constructor
    · intro slash
      have uncut := uncut_of_mem_splitAt member '/' slash
      contradiction
    · intro quote
      exact unquoted (List.mem_append_right _ ((infix_of_mem_splitAt member).subset quote))
  · rw [path, join_splitAt]
    rfl

/-- The ways to write a mapping: with a plain path, which white space ends, or with quotes around the path
and its sign, or around the path alone. Anything may stand behind it. -/
inductive Spells (mapping : Mapping) : List Char → Prop
  | plain (solid : ∀ c ∈ mapping.path, isBlank c = false) (behind : List Char)
      (parted : ∀ c ∈ behind.head?, isBlank c) : Spells mapping (mapping.text ++ behind)
  | quoted (behind : List Char) : Spells mapping ('"' :: (mapping.text ++ '"' :: behind))
  | signed (behind : List Char) :
      Spells mapping (mapping.sign ++ '"' :: (mapping.path ++ '"' :: behind))

variable {mapping : Mapping} {written : List Char}

theorem mem_sign {c : Char} (member : c ∈ mapping.sign) : c = '+' ∨ c = '-' := by
  rcases mapping.sign_cases with none | plus | minus
  · simp [none] at member
  · exact .inl (by simpa [plus] using member)
  · exact .inr (by simpa [minus] using member)

theorem quote_not_mem_path (mapping : Mapping) : '"' ∉ mapping.path := by
  have inside : ∀ c ∈ join ['/'] mapping.segments, c ≠ '"' := by
    refine forall_mem_join (by decide : '/' ≠ '"') ?_
    rintro segment member c inside rfl
    exact (mapping.segments_plain segment member).2 inside
  intro member
  simp only [path, List.mem_cons] at member
  rcases member with same | same | member
  · contradiction
  · contradiction
  · exact inside _ member rfl

theorem quote_not_mem_text (mapping : Mapping) : '"' ∉ mapping.text := by
  rw [text, List.mem_append, not_or]
  exact ⟨fun member => absurd (mem_sign member) (by decide), mapping.quote_not_mem_path⟩

/-- A sign is split off what is no sign. -/
theorem splitSign_append (mapping : Mapping) {c : Char} (other : c ≠ '+' ∧ c ≠ '-') (rest : List Char) :
    splitSign (mapping.sign ++ c :: rest) = (mapping.sign, c :: rest) := by
  rcases mapping.sign_cases with none | plus | minus
  · rw [none, List.nil_append, splitSign]
    · exact fun _ same => other.1 (List.cons.inj same).1
    · exact fun _ same => other.2 (List.cons.inj same).1
  · rw [plus]
    rfl
  · rw [minus]
    rfl

theorem pathAt_quoted {text : List Char} (unquoted : '"' ∉ text) (behind : List Char) :
    pathAt ('"' :: (text ++ '"' :: behind)) = text :=
  (span_of_not_mem unquoted behind).1

theorem pathAt_plain (solid : ∀ c ∈ mapping.path, isBlank c = false) {behind : List Char}
    (parted : ∀ c ∈ behind.head?, isBlank c) : pathAt (mapping.path ++ behind) = mapping.path := by
  change (mapping.path ++ behind).takeWhile (fun c => !isBlank c) = mapping.path
  rw [List.takeWhile_append_of_pos (by simpa using solid)]
  rcases behind with _ | ⟨c, behind⟩
  · simp
  · rw [List.takeWhile_cons_of_neg (by simpa using parted c rfl), List.append_nil]

/-- However a mapping is written, it is read as it is meant. -/
theorem Spells.read (spells : mapping.Spells written) :
    (splitSign written).1 ++ pathAt (splitSign written).2 = mapping.text := by
  cases spells with
  | plain solid behind parted =>
    have split : splitSign (mapping.text ++ behind) = (mapping.sign, mapping.path ++ behind) := by
      rw [Mapping.text, List.append_assoc]
      exact mapping.splitSign_append (by decide) _
    rw [split]
    exact congrArg _ (pathAt_plain solid parted)
  | quoted behind => exact pathAt_quoted mapping.quote_not_mem_text behind
  | signed behind =>
    rw [mapping.splitSign_append (by decide)]
    exact congrArg _ (pathAt_quoted mapping.quote_not_mem_path behind)

/-- The segments of what is read are those of the mapping. -/
theorem viewSegments_text (mapping : Mapping) :
    viewSegments (String.ofList mapping.text) = mapping.segments := by
  have bare : mapping.text.dropWhile (fun c => c == '+' || c == '-') = mapping.path := by
    rw [text, List.dropWhile_append_of_pos]
    · exact List.dropWhile_cons_of_neg (by decide)
    · simpa using fun c => mem_sign
  have rooted : strip? ['/', '/'] mapping.path = some (join ['/'] mapping.segments) :=
    strip?_eq_some_iff.2 rfl
  rw [viewSegments, String.toList_ofList, bare]
  simp only [rooted, Option.getD_some]
  exact splitAt_join (by decide) mapping.segments_ne_nil
    fun segment member => uncut_of_not_mem (mapping.segments_plain segment member).1

/-! ## Lines -/

/-- What is dropped at the end of a line stands behind the mapping, so that a spelling of it is left. -/
theorem Spells.rdropWhile {drops : Char → Bool} (blank : ∀ c, drops c → isBlank c)
    (spells : mapping.Spells written) (front : List Char) :
    ∃ kept, (front ++ written).rdropWhile drops = front ++ kept ∧ mapping.Spells kept := by
  have stays {c : Char} (solid : isBlank c = false) : drops c = false := by
    rw [← Bool.not_eq_true] at solid ⊢
    exact mt (blank c) solid
  -- Each spelling ends in a character that stays: the last one of the path, or the closing quote.
  cases spells with
  | plain solid behind parted =>
    obtain ⟨body, c, whole⟩ := List.eq_nil_or_concat mapping.path |>.resolve_left (List.cons_ne_nil _ _)
    have same : mapping.text = mapping.sign ++ body ++ [c] := by
      rw [text, whole, List.concat_eq_append, List.append_assoc]
    have last : isBlank c = false := solid c (by simp [whole])
    refine ⟨mapping.text ++ behind.rdropWhile drops, ?_, .plain solid _ ?_⟩
    · simpa [same] using rdropWhile_append_cons (stays last) (front ++ (mapping.sign ++ body)) behind
    · intro d first
      obtain ⟨rest, whole⟩ := behind.rdropWhile_prefix drops
      apply parted
      rw [← whole, List.head?_append, first]
      rfl
  | quoted behind =>
    refine ⟨_, ?_, .quoted (behind.rdropWhile drops)⟩
    have cut := rdropWhile_append_cons (stays (c := '"') (by decide))
      (front ++ '"' :: mapping.text) behind
    simpa using cut
  | signed behind =>
    refine ⟨_, ?_, .signed (behind.rdropWhile drops)⟩
    have cut := rdropWhile_append_cons (stays (c := '"') (by decide))
      (front ++ (mapping.sign ++ '"' :: mapping.path)) behind
    simpa using cut

theorem Spells.trimStart (spells : mapping.Spells written) : Text.trimStart written = written := by
  have sign {c : Char} (solid : isBlank c = false) (rest : List Char) :
      Text.trimStart (mapping.sign ++ c :: rest) = mapping.sign ++ c :: rest := by
    rcases whole : mapping.sign with _ | ⟨d, more⟩
    · exact trimStart_of_solid solid rest
    · rcases mem_sign (whole ▸ List.mem_cons_self) with rfl | rfl
      · exact trimStart_of_solid (by decide) _
      · exact trimStart_of_solid (by decide) _
  cases spells with
  | plain solid behind parted =>
    rw [text, List.append_assoc]
    exact sign (by decide) _
  | quoted behind => exact trimStart_of_solid (by decide) _
  | signed behind => exact sign (by decide) _

/-- Whether a line is one of a mapping: indented, with more white space or without, and with the mapping
in one of its spellings. -/
def Line (mapping : Mapping) (line : List Char) : Prop :=
  ∃ gap written, line = '\t' :: (gap ++ written) ∧ (∀ c ∈ gap, isBlank c) ∧ mapping.Spells written

variable {line : List Char}

/-- A line of a mapping is read as the mapping. -/
theorem Line.view (written : mapping.Line line) :
    Perforce.view line = String.ofList mapping.text := by
  obtain ⟨gap, written, rfl, blank, spells⟩ := written
  obtain ⟨kept, trimmed, spelled⟩ := spells.rdropWhile (fun _ => id) []
  have start : Text.trimStart ('\t' :: (gap ++ written)) = written := by
    rw [← List.cons_append, trimStart_of_blank (by simpa using ⟨by decide, blank⟩), spells.trimStart]
  have whole : trim ('\t' :: (gap ++ written)) = kept := by
    rw [trim, start]
    exact trimmed
  simp only [Perforce.view, whole]
  exact congrArg String.ofList spelled.read

/-- Carriage returns at the end of a line do not matter to its mapping. -/
theorem Line.dropReturns (written : mapping.Line line) :
    mapping.Line (line.rdropWhile (· == '\r')) := by
  obtain ⟨gap, written, rfl, blank, spells⟩ := written
  have returns (c : Char) (same : (c == '\r') = true) : isBlank c := by
    rw [eq_of_beq same]
    decide
  obtain ⟨kept, cut, spelled⟩ := spells.rdropWhile returns ('\t' :: gap)
  exact ⟨gap, kept, cut, blank, spelled⟩

end Mapping

/-! ## Descriptions -/

/-- Whether lines describe a client with the given mappings: they have a line each behind the first header
for them, and no other indented line follows. -/
def Describes (lines : List String) (mappings : List Mapping) : Prop :=
  ∃ before header written after, lines = before ++ header :: (written ++ after) ∧
    (∀ line ∈ before, ¬"View:".toList <+: line.toList) ∧ "View:".toList <+: header.toList ∧
    List.Forall₂ (fun mapping line => mapping.Line line.toList) mappings written ∧
    ∀ line ∈ after.head?, line.toList.head? ≠ some '\t'

variable {lines : List String} {mappings : List Mapping}

theorem strip?_withoutReturns_ne_none_iff {line : String} :
    strip? "View:".toList (withoutReturns line) ≠ none ↔ "View:".toList <+: line.toList := by
  rw [Option.ne_none_iff_exists']
  constructor
  · rintro ⟨rest, found⟩
    have front : "View:".toList <+: withoutReturns line := ⟨rest, (strip?_eq_some_iff.1 found).symm⟩
    exact front.trans (List.rdropWhile_prefix _ _)
  · rintro ⟨rest, whole⟩
    refine ⟨rest.rdropWhile (· == '\r'), strip?_eq_some_iff.2 ?_⟩
    -- To drop from the reversed line is to drop from its end; the colon of the header stops it.
    change line.toList.rdropWhile (· == '\r') = _
    rw [← whole]
    exact rdropWhile_append_cons (by decide) "View".toList rest

/-- Line by line the mappings are read, up to the first line that is not indented. -/
theorem map_view_takeWhile {written after : List (List Char)}
    (each : List.Forall₂ Mapping.Line mappings written)
    (next : ∀ line ∈ after.head?, line.head? ≠ some '\t') :
    ((written ++ after).takeWhile fun line => line.head? == some '\t').map view =
      mappings.map fun mapping => String.ofList mapping.text := by
  induction each with
  | nil =>
    rcases after with _ | ⟨line, after⟩
    · rfl
    · rw [List.nil_append, List.takeWhile_cons_of_neg (by simpa using next line rfl)]
      rfl
  | cons line more ih =>
    rw [List.cons_append, List.takeWhile_cons_of_pos, List.map_cons, List.map_cons, line.view, ih]
    obtain ⟨gap, written, rfl, -⟩ := line
    rfl

/-- The views that are read are the mappings that are described. -/
theorem views_of_describes (described : Describes lines mappings) :
    views lines = mappings.map fun mapping => String.ofList mapping.text := by
  obtain ⟨before, header, written, after, rfl, others, head, each, next⟩ := described
  have behind : ((before ++ header :: (written ++ after)).map withoutReturns).dropWhile
      (fun line => (strip? "View:".toList line).isNone) =
        withoutReturns header :: (written.map withoutReturns ++ after.map withoutReturns) := by
    rw [List.map_append, List.dropWhile_append_of_pos, List.map_cons, List.map_append,
      List.dropWhile_cons_of_neg]
    · simpa using strip?_withoutReturns_ne_none_iff.2 head
    · intro text member
      obtain ⟨line, earlier, rfl⟩ := List.mem_map.1 member
      simpa using strip?_withoutReturns_ne_none_iff.not.2 (others line earlier)
  rw [views]
  simp only [behind, List.drop_one, List.tail_cons]
  apply map_view_takeWhile
  · rw [List.forall₂_map_right_iff]
    exact each.imp fun _ _ => Mapping.Line.dropReturns
  · intro text cleaned
    rw [List.head?_map] at cleaned
    obtain ⟨line, first, rfl⟩ := Option.map_eq_some_iff.1 cleaned
    intro tab
    obtain ⟨rest, whole⟩ := line.toList.rdropWhile_prefix (· == '\r')
    apply next line first
    rw [← whole, List.head?_append]
    change ((withoutReturns line).head?.or _) = _
    rw [tab]
    rfl

/-! ## Slices -/

/-- Whether a text is the slice of the first mapping with enough segments, or empty if none has enough. -/
def FirstSlice (mappings : List Mapping) (skipped count : Nat) (text : String) : Prop :=
  (∃ before mapping after, mappings = before ++ mapping :: after ∧
    (∀ other ∈ before, other.segments.length < skipped + count) ∧
    skipped + count ≤ mapping.segments.length ∧
    text = String.ofList (join ['/'] ((mapping.segments.drop skipped).take count))) ∨
  ((∀ mapping ∈ mappings, mapping.segments.length < skipped + count) ∧ text = "")

/-- What a slice needs is exact as long as it can be asked for in 64 bits. -/
theorem needed_eq {skipped count : Nat} (bound : skipped + count ≤ Tag.maxCount) :
    needed skipped count = skipped + count := by
  change skipped + count ≤ 18446744073709551615 at bound
  rw [needed, UInt64.toNat_add, UInt64.toNat_ofNat', UInt64.toNat_ofNat']
  omega

theorem firstSlice_sliceViews (mappings : List Mapping) {skipped count : Nat}
    (bound : skipped + count ≤ Tag.maxCount) :
    FirstSlice mappings skipped count
      (sliceViews (mappings.map fun mapping => String.ofList mapping.text) skipped count) := by
  have read : (mappings.map fun mapping => String.ofList mapping.text).map viewSegments =
      mappings.map Mapping.segments := by
    rw [List.map_map]
    exact List.map_congr_left fun mapping _ => mapping.viewSegments_text
  rw [sliceViews, read, needed_eq bound, List.find?_map]
  rcases found : mappings.find? _ with _ | mapping
  · right
    refine ⟨?_, rfl⟩
    simpa using found
  · left
    obtain ⟨enough, before, after, rfl, others⟩ := List.find?_eq_some_iff_append.1 found
    exact ⟨before, mapping, after, rfl, by simpa using others, by simpa using enough, rfl⟩

/-- The tag for a slice. -/
def viewTag (skipped count : Nat) : String :=
  "p4-view(" ++ toString skipped ++ "," ++ toString count ++ ")"

theorem viewTag_eq_call (skipped count : Nat) :
    viewTag skipped count = Tag.call "p4-view" [Nat.toDigits 10 skipped, Nat.toDigits 10 count] := by
  apply String.toList_injective
  simp [viewTag, Tag.call, join, Nat.toList_repr]

/-- The tag for a slice is answered with it, as long as its numbers can be read. -/
theorem value_viewTag {state : State} {discovery : Discovery} {skipped count : Nat}
    (bound : skipped + count ≤ Tag.maxCount) :
    backend.value state discovery (viewTag skipped count) = sliceViews state.views skipped count := by
  have name : Tag.Hyphenated "p4-view".toList :=
    .word rfl (.hyphen rfl (.word rfl (.word rfl (.word rfl (.last rfl)))))
  have based : Tag.base? (viewTag skipped count) = some "p4-view" := by
    rw [viewTag_eq_call, Tag.base?, Tag.call, String.toList_ofList,
      Tag.hyphenated_append name (Tag.ends_cons (by decide) _)]
    rfl
  have called : viewTag skipped count ≠ "p4-view" := by
    intro same
    rw [viewTag_eq_call, Tag.call] at same
    have whole := congrArg String.toList same
    simp at whole
  have asked : Tag.slice? (viewTag skipped count) "p4-view" 1 = some (skipped, count) := by
    rw [viewTag_eq_call, Tag.slice?_call (by omega) (by omega)]
  change value state discovery (viewTag skipped count) = _
  rw [value, based]
  simp only [if_neg called, asked]

/-! ## Readings -/

/-- The views of a client are read as its description tells them, and a slice is the one of the first of
its mappings that has enough segments, or is empty if none has. -/
theorem read_description {program : Path} {discovery : Discovery} {files : Files}
    {installed : String → Option Path} {output : Command → Option (List String)} {client : String}
    (named : discovery.workspace = some client)
    (answered : output ⟨discovery.root, program, ["client", "-o", client]⟩ = some lines)
    (described : Describes lines mappings) :
    ∃ state, (backend.read program discovery).eval files installed output = some state ∧
      state.views = (mappings.map fun mapping => String.ofList mapping.text) ∧
      ∀ skipped count, skipped + count ≤ Tag.maxCount →
        FirstSlice mappings skipped count
          (backend.value state discovery (viewTag skipped count)) := by
  have read : (backend.read program discovery).eval files installed output = some ⟨views lines⟩ := by
    change (read program discovery).eval files installed output = _
    rw [Perforce.read, named]
    change (output ⟨discovery.root, program, ["client", "-o", client]⟩).map _ = _
    rw [answered]
    rfl
  refine ⟨_, read, views_of_describes described, ?_⟩
  intro skipped count bound
  rw [value_viewTag bound, views_of_describes described]
  exact firstSlice_sliceViews mappings bound

/-- A mapping without a sign. -/
def engine : Mapping where
  sign := []
  segments := ["depot".toList, "main".toList, "engine".toList, "...".toList]
  sign_cases := by decide
  segments_ne_nil := by decide
  segments_plain := by decide

/-- A mapping that leaves out a path with a blank in it. -/
def olden : Mapping where
  sign := ['-']
  segments := ["depot".toList, "old docs".toList, "...".toList]
  sign_cases := by decide
  segments_ne_nil := by decide
  segments_plain := by decide

/-- A mapping that adds to those before it. -/
def tools : Mapping where
  sign := ['+']
  segments := ["depot".toList, "tools".toList]
  sign_cases := by decide
  segments_ne_nil := by decide
  segments_plain := by decide

/-- The description of a client with a mapping in each spelling. -/
def description : List String :=
  ["Client:\tbox", "View:\r", "\t//depot/main/engine/... //box/engine/...\r",
    "\t-\"//depot/old docs/...\" //box/docs/...", "\t \"+//depot/tools\" \"//box/more tools\"", "",
    "Options:\tallwrite"]

theorem describes_description : Describes description [engine, olden, tools] := by
  refine ⟨["Client:\tbox"], "View:\r", [_, _, _], ["", "Options:\tallwrite"], rfl, by decide, by decide,
    ?_, by decide⟩
  have solid : engine.path.all (!isBlank ·) := by decide
  refine .cons ⟨[], _, rfl, by simp, ?_⟩ (.cons ⟨[], _, rfl, by simp, ?_⟩
    (.cons ⟨[' '], _, rfl, List.forall_mem_singleton.2 (by decide), ?_⟩ .nil))
  · refine .plain (by simpa using solid) " //box/engine/...\r".toList ?_
    rintro _ ⟨⟩
    decide
  · exact .signed " //box/docs/...".toList
  · exact .quoted " \"//box/more tools\"".toList

/-- Each spelling is read, and two segments behind the depot are sliced from the first mapping. -/
theorem read_description_spellings :
    let box : Discovery := ⟨⟨"/w"⟩, none, some "box"⟩
    let output : Command → Option (List String) := fun _ => some description
    ∃ state, (backend.read ⟨"p4"⟩ box).eval ⟨[]⟩ (fun _ => none) output = some state ∧
      state.views = ["//depot/main/engine/...", "-//depot/old docs/...", "+//depot/tools"] ∧
      backend.value state box (viewTag 1 2) = "main/engine" := by
  intro box output
  have answered : output ⟨box.root, ⟨"p4"⟩, ["client", "-o", "box"]⟩ = some description := rfl
  have told : ∃ state, (backend.read ⟨"p4"⟩ box).eval ⟨[]⟩ (fun _ => none) output = some state ∧ _ ∧ _ :=
    read_description rfl answered describes_description
  obtain ⟨state, read, views, slices⟩ := told
  refine ⟨state, read, views, ?_⟩
  rcases slices 1 2 (by decide) with ⟨before, mapping, after, whole, shorter, -, same⟩ | ⟨none, -⟩
  · rcases before with _ | ⟨first, before⟩
    · obtain ⟨rfl, -⟩ := List.cons.inj whole
      exact same
    · obtain ⟨rfl, -⟩ := List.cons.inj whole
      exact absurd (shorter engine List.mem_cons_self) (by decide)
  · exact absurd (none engine List.mem_cons_self) (by decide)

end TitleBar.Perforce
