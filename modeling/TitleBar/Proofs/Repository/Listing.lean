import Mathlib.Data.List.Basic
import Mathlib.Data.List.Forall2
import TitleBar.Proofs.Text.Pieces
import TitleBar.Repository.Perforce

/-! # Listed clients

A line of the listing tells the name of a client, a date, its root and a description. The name is read
as it is written. The root is taken from behind the last mark for one that a quote follows: if neither
the root nor the description holds such a mark, that is the root of the client, and else it is whatever
stands behind the last of them.
-/

namespace TitleBar.Perforce

open Text

/-! ## Marks for a root -/

section Splitting

variable {mark : List Char}

theorem splitBefore?_cons_of_strip? {c : Char} {taken rest after : List Char} (some : taken ≠ [])
    (found : strip? mark (c :: rest) = .some after) :
    splitBefore? mark taken (c :: rest) = .some (taken.reverse, after) := by
  obtain ⟨t, taken, rfl⟩ := List.exists_cons_of_ne_nil some
  simp [splitBefore?, found]

theorem splitBefore?_cons_of_not {c : Char} {taken rest : List Char}
    (not : taken = [] ∨ strip? mark (c :: rest) = none) :
    splitBefore? mark taken (c :: rest) = splitBefore? mark (c :: taken) rest := by
  rcases not with rfl | none
  · rfl
  · rcases taken with _ | ⟨t, taken⟩
    · rfl
    · simp [splitBefore?, none]

/-- A text is split before the first mark that has some text before it. -/
theorem splitBefore?_eq_some {taken text before after : List Char}
    (found : splitBefore? mark taken text = some (before, after)) :
    ∃ piece, before = taken.reverse ++ piece ∧ before ≠ [] ∧ text = piece ++ (mark ++ after) ∧
      ∀ shorter rest, taken.reverse ++ shorter ≠ [] → text = shorter ++ (mark ++ rest) →
        piece.length ≤ shorter.length := by
  induction text generalizing taken with
  | nil => simp [splitBefore?] at found
  | cons c text ih =>
    by_cases here : taken ≠ [] ∧ ∃ rest, strip? mark (c :: text) = some rest
    · obtain ⟨some, rest, stripped⟩ := here
      rw [splitBefore?_cons_of_strip? some stripped] at found
      obtain ⟨rfl, rfl⟩ := Prod.mk.inj (Option.some.inj found)
      refine ⟨[], by simp, by simpa using some, ?_, ?_⟩
      · rw [List.nil_append]
        exact strip?_eq_some_iff.1 stripped
      · intro shorter rest _ _
        exact Nat.zero_le _
    · have not : taken = [] ∨ strip? mark (c :: text) = none := by
        by_contra both
        obtain ⟨some, stripped⟩ := not_or.1 both
        exact here ⟨some, Option.ne_none_iff_exists'.1 stripped⟩
      rw [splitBefore?_cons_of_not not] at found
      obtain ⟨piece, rfl, some, rfl, least⟩ := ih found
      refine ⟨c :: piece, by simp, some, rfl, ?_⟩
      intro shorter rest kept same
      rcases shorter with _ | ⟨d, shorter⟩
      · rw [List.append_nil, ne_eq, List.reverse_eq_nil_iff] at kept
        rw [List.nil_append] at same
        have stripped := not.resolve_left kept
        rw [strip?_eq_some_iff.2 same] at stripped
        contradiction
      · rw [List.cons_append] at same
        obtain ⟨rfl, behind⟩ := List.cons.inj same
        have bound := least shorter rest (by simp) behind
        simp only [List.length_cons]
        omega

/-- A text with a mark that has some text before it is split. -/
theorem splitBefore?_ne_none {taken piece after : List Char} (some : mark ≠ [])
    (kept : taken.reverse ++ piece ≠ []) :
    splitBefore? mark taken (piece ++ (mark ++ after)) ≠ none := by
  induction piece generalizing taken with
  | nil =>
    obtain ⟨m, mark, rfl⟩ := List.exists_cons_of_ne_nil some
    have front : taken ≠ [] := by simpa using kept
    have stripped : strip? (m :: mark) (m :: (mark ++ after)) = .some after :=
      strip?_eq_some_iff.2 rfl
    rw [List.nil_append, List.cons_append, splitBefore?_cons_of_strip? front stripped]
    simp
  | cons c piece ih =>
    rw [List.cons_append]
    by_cases here : taken ≠ [] ∧ ∃ rest, strip? mark (c :: (piece ++ (mark ++ after))) = .some rest
    · obtain ⟨front, rest, stripped⟩ := here
      rw [splitBefore?_cons_of_strip? front stripped]
      simp
    · have not : taken = [] ∨ strip? mark (c :: (piece ++ (mark ++ after))) = none := by
        by_contra both
        obtain ⟨front, stripped⟩ := not_or.1 both
        exact here ⟨front, Option.ne_none_iff_exists'.1 stripped⟩
      rw [splitBefore?_cons_of_not not]
      apply ih
      simp

end Splitting

/-- Whether a text starts with a mark for a root and this root: what stands between the mark and the
first quote behind it, the blank in front of the quote aside. -/
def Marks (text root : List Char) : Prop :=
  root ≠ [] ∧ ∃ after, text = " root ".toList ++ (root ++ (" '".toList ++ after)) ∧
    ∀ shorter rest, shorter ≠ [] →
      root ++ (" '".toList ++ after) = shorter ++ (" '".toList ++ rest) →
        root.length ≤ shorter.length

/-- Whether a mark for a root and a root stand in a text somewhere behind its start. -/
def Remarked (text : List Char) : Prop :=
  ∃ before root after, before ≠ [] ∧ root ≠ [] ∧
    text = before ++ (" root ".toList ++ (root ++ (" '".toList ++ after)))

/-- Whether a root stands behind the last mark of a text. A mark at its very start does not count. -/
def LastRoot (text root : List Char) : Prop :=
  ∃ before mark, before ≠ [] ∧ text = before ++ mark ∧ Marks mark root ∧ ¬Remarked mark

/-- The root at the start of a text. -/
def rootAt? (text : List Char) : Option (List Char) := do
  let after ← strip? " root ".toList text
  let (root, _) ← splitBefore? " '".toList [] after
  return root

theorem lastRoot?_cons (c : Char) (rest : List Char) :
    lastRoot? (c :: rest) = (lastRoot? rest).or (rootAt? rest) := rfl

theorem rootAt?_eq_some {text root : List Char} (found : rootAt? text = some root) :
    Marks text root := by
  simp only [rootAt?, Option.bind_eq_bind, Option.bind_eq_some_iff] at found
  obtain ⟨behind, stripped, ⟨before, after⟩, split, same⟩ := found
  obtain rfl := Option.some.inj same
  obtain ⟨piece, rfl, some, rfl, least⟩ := splitBefore?_eq_some split
  exact ⟨some, after, strip?_eq_some_iff.1 stripped, least⟩

theorem rootAt?_ne_none {root after : List Char} (some : root ≠ []) :
    rootAt? (" root ".toList ++ (root ++ (" '".toList ++ after))) ≠ none := by
  have split : splitBefore? " '".toList [] (root ++ (" '".toList ++ after)) ≠ none :=
    splitBefore?_ne_none (by decide) (by simpa using some)
  obtain ⟨⟨piece, rest⟩, found⟩ := Option.ne_none_iff_exists'.1 split
  rw [rootAt?, strip?_eq_some_iff.2 rfl]
  simp only [Option.bind_eq_bind, Option.bind_some, found]
  exact Option.some_ne_none piece

theorem lastRoot?_eq_none_iff {text : List Char} : lastRoot? text = none ↔ ¬Remarked text := by
  induction text with
  | nil =>
    constructor
    · rintro - ⟨before, root, after, some, -, same⟩
      exact some (List.append_eq_nil_iff.1 same.symm).1
    · intro
      rfl
  | cons c text ih =>
    rw [lastRoot?_cons, Option.or_eq_none_iff, ih]
    constructor
    · rintro ⟨unmarked, none⟩ ⟨before, root, after, some, held, same⟩
      obtain ⟨d, before, rfl⟩ := List.exists_cons_of_ne_nil some
      obtain ⟨rfl, rfl⟩ := List.cons.inj same
      rcases before with _ | ⟨e, before⟩
      · exact rootAt?_ne_none held none
      · exact unmarked ⟨e :: before, root, after, by simp, held, rfl⟩
    · intro unmarked
      constructor
      · rintro ⟨before, root, after, some, held, rfl⟩
        exact unmarked ⟨c :: before, root, after, by simp, held, rfl⟩
      · by_contra some
        obtain ⟨root, found⟩ := Option.ne_none_iff_exists'.1 some
        obtain ⟨held, after, rfl, -⟩ := rootAt?_eq_some found
        exact unmarked ⟨[c], root, after, by simp, held, rfl⟩

/-- The root that is found stands behind the last mark. -/
theorem lastRoot?_eq_some {text root : List Char} (found : lastRoot? text = some root) :
    LastRoot text root := by
  induction text with
  | nil => simp [lastRoot?] at found
  | cons c text ih =>
    rw [lastRoot?_cons, Option.or_eq_some_iff] at found
    rcases found with later | ⟨none, here⟩
    · obtain ⟨before, mark, some, rfl, marks, last⟩ := ih later
      exact ⟨c :: before, mark, by simp, rfl, marks, last⟩
    · exact ⟨[c], text, by simp, rfl, rootAt?_eq_some here, lastRoot?_eq_none_iff.1 none⟩

/-- What stands in front of a root that was found does not matter. -/
theorem lastRoot?_append {text root : List Char} (found : lastRoot? text = some root)
    (front : List Char) : lastRoot? (front ++ text) = some root := by
  induction front with
  | nil => exact found
  | cons c front ih => rw [List.cons_append, lastRoot?_cons, ih, Option.some_or]

/-! ## Lines -/

/-- A client as a line of the listing describes it. -/
structure Listing where
  name : List Char
  date : List Char
  root : List Char
  description : List Char
  name_ne_nil : name ≠ []
  name_solid : ' ' ∉ name
  date_ne_nil : date ≠ []
  root_ne_nil : root ≠ []
  root_trimmed : Trimmed root
  root_unquoted : '\x27' ∉ root
  line : '\n' ∉ name ++ date ++ root ++ description

namespace Listing

/-- What stands behind the date: the root and the description. -/
def tail (listing : Listing) : List Char :=
  " root ".toList ++ (listing.root ++ (" '".toList ++ (listing.description ++ ['\x27'])))

/-- The line of a client. -/
def text (listing : Listing) : List Char :=
  "Client ".toList ++ (listing.name ++ ' ' :: (listing.date ++ listing.tail))

end Listing

/-- A quote ends a root that holds none. -/
theorem marks_of_unquoted {root after : List Char} (some : root ≠ []) (unquoted : '\x27' ∉ root) :
    Marks (" root ".toList ++ (root ++ (" '".toList ++ after))) root := by
  refine ⟨some, after, rfl, ?_⟩
  intro shorter rest _ same
  by_contra longer
  have quote : (root ++ (" '".toList ++ after))[shorter.length + 1]? = .some '\x27' := by
    rw [same]
    simp
  rcases Nat.lt_or_ge (shorter.length + 1) root.length with inside | edge
  · rw [List.getElem?_append_left inside] at quote
    exact unquoted (List.mem_of_getElem? quote)
  · have last : shorter.length + 1 = root.length := by omega
    rw [last] at quote
    simp at quote

/-- Two roots at the start of a text are the same. -/
theorem Marks.unique {text root other : List Char} (marks : Marks text root) (also : Marks text other) :
    root = other := by
  obtain ⟨some, after, rfl, least⟩ := marks
  obtain ⟨some', after', same, least'⟩ := also
  have behind := List.append_cancel_left same
  have first := least other after' some' behind
  have second := least' root after some behind.symm
  exact List.append_inj_left behind (by omega)

/-- The root at the start of a text is found. -/
theorem Marks.rootAt?_eq {text root : List Char} (marks : Marks text root) :
    rootAt? text = some root := by
  have found : rootAt? text ≠ none := by
    obtain ⟨some, after, rfl, -⟩ := marks
    exact rootAt?_ne_none some
  obtain ⟨other, here⟩ := Option.ne_none_iff_exists'.1 found
  rw [here, (rootAt?_eq_some here).unique marks]

/-- The root behind the last mark is found. -/
theorem LastRoot.lastRoot?_eq {text root : List Char} (last : LastRoot text root) :
    lastRoot? text = some root := by
  obtain ⟨before, mark, some, rfl, marks, unmarked⟩ := last
  obtain ⟨front, c, rfl⟩ := (List.eq_nil_or_concat before).resolve_left some
  have here : lastRoot? (c :: mark) = .some root := by
    rw [lastRoot?_cons, lastRoot?_eq_none_iff.2 unmarked, marks.rootAt?_eq, Option.none_or]
  rw [List.concat_eq_append, List.append_assoc, List.singleton_append]
  exact lastRoot?_append here front

theorem describedAt?_name {name taken rest : List Char} (solid : ' ' ∉ name)
    (some : taken ++ name ≠ []) {root : List Char} (found : lastRoot? rest = .some root) :
    describedAt? taken (name ++ ' ' :: rest) =
      .some ⟨String.ofList (taken.reverse ++ name), ⟨String.ofList (trim root)⟩⟩ := by
  induction name generalizing taken with
  | nil =>
    rw [List.append_nil] at some
    simp [describedAt?, some, found]
  | cons c name ih =>
    rw [List.mem_cons, not_or] at solid
    have more := ih solid.2 (show c :: taken ++ name ≠ [] by simp)
    simp only [List.cons_append, describedAt?, if_neg (show ¬(c = ' ' ∧ taken ≠ []) from
      fun blank => solid.1 blank.1.symm), Option.none_or, more]
    simp

theorem clientIn?_of_strip? {text after : List Char} {client : Client}
    (found : strip? "Client ".toList text = some after) (described : describedAt? [] after = some client) :
    clientIn? text = some client := by
  rcases text with _ | ⟨c, rest⟩
  · contradiction
  · rw [clientIn?, found, Option.bind_some, described, Option.some_or]

namespace Listing

variable (listing : Listing)

/-- The root that is found behind the name: one of the root and the description, or else the one that
is written. -/
theorem lastRoot?_date_tail : lastRoot? (listing.date ++ listing.tail) =
    some ((lastRoot? listing.tail).getD listing.root) := by
  rcases found : lastRoot? listing.tail with _ | root
  · have marks : Marks listing.tail listing.root :=
      marks_of_unquoted listing.root_ne_nil listing.root_unquoted
    exact LastRoot.lastRoot?_eq
      ⟨listing.date, listing.tail, listing.date_ne_nil, rfl, marks, lastRoot?_eq_none_iff.1 found⟩
  · exact lastRoot?_append found listing.date

theorem newline_not_mem_text : '\n' ∉ listing.text := by
  have absent := listing.line
  simp only [List.mem_append, not_or] at absent
  obtain ⟨⟨⟨name, date⟩, root⟩, description⟩ := absent
  have word : '\n' ∉ "Client ".toList := by decide
  have mark : '\n' ∉ " root ".toList := by decide
  have quote : '\n' ∉ " '".toList := by decide
  have blank : '\n' ≠ ' ' := by decide
  have close : '\n' ≠ '\x27' := by decide
  show '\n' ∉ "Client ".toList ++ (listing.name ++ ' ' :: (listing.date ++ (" root ".toList ++
    (listing.root ++ (" '".toList ++ (listing.description ++ ['\x27']))))))
  simp only [List.mem_append, List.mem_cons, List.not_mem_nil, or_false, not_or]
  exact ⟨word, name, blank, date, mark, root, quote, description, close⟩

end Listing

/-- What is read from a line that does not break. -/
theorem client?_of_line {text : List Char} (line : '\n' ∉ text) :
    client? (String.ofList text) = clientIn? text := by
  rw [client?, String.toList_ofList, splitAt_of_uncut (uncut_of_not_mem line)]
  simp

/-- A client is read from the line of one. -/
theorem Listing.client?_text (listing : Listing) :
    client? (String.ofList listing.text) = some ⟨String.ofList listing.name,
      ⟨String.ofList (trim ((lastRoot? listing.tail).getD listing.root))⟩⟩ := by
  have described := describedAt?_name listing.name_solid
    (show [] ++ listing.name ≠ [] from listing.name_ne_nil) listing.lastRoot?_date_tail
  have word : strip? "Client ".toList listing.text =
      some (listing.name ++ ' ' :: (listing.date ++ listing.tail)) :=
    strip?_eq_some_iff.2 rfl
  rw [client?_of_line listing.newline_not_mem_text, clientIn?_of_strip? word described,
    List.reverse_nil, List.nil_append]

theorem clientIn?_eq_none {text : List Char} (free : ¬"Client ".toList <:+: text) :
    clientIn? text = none := by
  induction text with
  | nil => rfl
  | cons c rest ih =>
    have unmarked : strip? "Client ".toList (c :: rest) = none := by
      by_contra some
      obtain ⟨after, found⟩ := Option.ne_none_iff_exists'.1 some
      exact free ⟨[], after, (strip?_eq_some_iff.1 found).symm⟩
    have further : ¬"Client ".toList <:+: rest :=
      fun inside => free (inside.trans (List.suffix_cons c rest).isInfix)
    rw [clientIn?, unmarked, Option.bind_none, Option.none_or, ih further]

/-! ## Listings -/

/-- A line of a listing: of a client, or without the word for one. -/
inductive Line where
  | described (listing : Listing)
  | other (text : List Char) (free : ¬"Client ".toList <:+: text)

namespace Line

/-- How a line is written. -/
def text : Line → List Char
  | .described listing => listing.text
  | .other text _ => text

/-- The client of a line. -/
def listing? : Line → Option Listing
  | .described listing => some listing
  | .other .. => none

theorem client?_text (line : Line) : client? (String.ofList line.text) =
    line.listing?.map fun listing => ⟨String.ofList listing.name,
      ⟨String.ofList (trim ((lastRoot? listing.tail).getD listing.root))⟩⟩ := by
  cases line with
  | described listing => exact listing.client?_text
  | other text free =>
    rw [client?, Line.text, String.toList_ofList, listing?, Option.map_none, List.findSome?_eq_none_iff]
    intro piece member
    exact clientIn?_eq_none fun inside => free (inside.trans (infix_of_mem_splitAt member))

end Line

/-- Whether a client is read as a line tells it: with the name that is written, and with the root that
is written unless another mark for one follows. -/
structure Listing.Read (listing : Listing) (client : Client) : Prop where
  name : client.name = String.ofList listing.name
  root : ¬Remarked listing.tail → client.root = ⟨String.ofList listing.root⟩
  last : Remarked listing.tail →
    ∃ root, LastRoot listing.tail root ∧ client.root = ⟨String.ofList (trim root)⟩

/-- The clients of a listing are those of its lines, in their order. Each has its own root if no line
holds a second mark for one. -/
theorem clients_of_lines (lines : List Line) :
    List.Forall₂ Listing.Read (lines.filterMap Line.listing?)
        (clients (lines.map fun line => String.ofList line.text)) ∧
      ((∀ listing ∈ lines.filterMap Line.listing?, ¬Remarked listing.tail) →
        clients (lines.map fun line => String.ofList line.text) =
          (lines.filterMap Line.listing?).map fun listing =>
            ⟨String.ofList listing.name, ⟨String.ofList listing.root⟩⟩) := by
  have read : clients (lines.map fun line => String.ofList line.text) =
      (lines.filterMap Line.listing?).map fun listing => ⟨String.ofList listing.name,
        ⟨String.ofList (trim ((lastRoot? listing.tail).getD listing.root))⟩⟩ := by
    rw [clients, List.filterMap_map, List.map_filterMap]
    exact List.filterMap_congr fun line _ => line.client?_text
  have own (listing : Listing) (unmarked : ¬Remarked listing.tail) :
      trim ((lastRoot? listing.tail).getD listing.root) = listing.root := by
    rw [lastRoot?_eq_none_iff.2 unmarked, Option.getD_none, listing.root_trimmed.trim]
  rw [read]
  constructor
  · rw [List.forall₂_map_right_iff, List.forall₂_same]
    intro listing _
    constructor
    case name => rfl
    case root =>
      intro unmarked
      rw [own listing unmarked]
    case last =>
      intro marked
      obtain ⟨root, found⟩ := Option.ne_none_iff_exists'.1
        (lastRoot?_eq_none_iff.not_left.2 marked)
      refine ⟨root, lastRoot?_eq_some found, ?_⟩
      rw [found, Option.getD_some]
  · intro unmarked
    apply List.map_congr_left
    intro listing member
    rw [own listing (unmarked listing member)]


/-- A client whose description tells of an older root. -/
def moved : Listing where
  name := "box".toList
  date := "2023/01/05".toList
  root := "/work/depot".toList
  description := "Moved from root /old ".toList
  name_ne_nil := by decide
  name_solid := by decide
  date_ne_nil := by decide
  root_ne_nil := by decide
  root_trimmed := by
    constructor <;>
    · rintro _ ⟨⟩
      decide
  root_unquoted := by decide
  line := by decide

/-- A client with a word of description. -/
def steady : Listing where
  name := "other".toList
  date := "2022/11/01".toList
  root := "/elsewhere".toList
  description := "x".toList
  name_ne_nil := by decide
  name_solid := by decide
  date_ne_nil := by decide
  root_ne_nil := by decide
  root_trimmed := by
    constructor <;>
    · rintro _ ⟨⟩
      decide
  root_unquoted := by decide
  line := by decide

/-- A line that describes no client. -/
def garbage : Line :=
  .other "garbage line".toList fun inside =>
    absurd (inside.subset (show 'C' ∈ "Client ".toList by decide)) (by decide)

/-- The older root is taken for the root of the first client. -/
theorem clients_of_lines_moved :
    clients ([.described moved, garbage, .described steady].map fun line => String.ofList line.text) =
      [⟨"box", ⟨"/old"⟩⟩, ⟨"other", ⟨"/elsewhere"⟩⟩] := by
  have read := (clients_of_lines [.described moved, garbage, .described steady]).1
  have listed : [.described moved, garbage, .described steady].filterMap Line.listing? =
      [moved, steady] := rfl
  rw [listed] at read
  obtain ⟨⟨name, root⟩, _, first, rest, whole⟩ := List.forall₂_cons_left_iff.1 read
  obtain ⟨⟨name', root'⟩, _, second, none, rfl⟩ := List.forall₂_cons_left_iff.1 rest
  obtain rfl := List.forall₂_nil_left_iff.1 none
  have older : lastRoot? moved.tail = some "/old".toList := by decide
  have marked : Remarked moved.tail := lastRoot?_eq_none_iff.not_left.1 (by simp [older])
  have only : ¬Remarked steady.tail := lastRoot?_eq_none_iff.1 (by decide)
  have trimmed : trim "/old".toList = "/old".toList := by decide
  obtain rfl : name = String.ofList moved.name := first.name
  obtain ⟨found, last, rfl⟩ := first.last marked
  obtain rfl : "/old".toList = found := Option.some.inj (older.symm.trans last.lastRoot?_eq)
  obtain rfl : name' = String.ofList steady.name := second.name
  obtain rfl : root' = ⟨String.ofList steady.root⟩ := second.root only
  rw [whole, trimmed]
  simp [moved, steady]

end TitleBar.Perforce
