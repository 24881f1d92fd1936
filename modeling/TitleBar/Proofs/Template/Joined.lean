import TitleBar.Proofs.Resolver.Agreement
import TitleBar.Proofs.Template.Condition

/-! # Joined tags

`$tag` reads one tag up to its end, `${…}` splits what stands between its braces at white space. Both
ask for the same texts if no tag holds white space. A list of arguments that does, as `path(0, 2)`, is
one tag to the first and several texts, none of them this tag, to the second.
-/

namespace TitleBar

open Text

namespace Trace

variable {α β : Type}

/-- The questions for a list are those for its elements. -/
theorem asked_mapM (ask : α → Trace β) (list : List α) :
    (list.mapM ask).asked = list.flatMap fun a => (ask a).asked := by
  induction list with
  | nil => rfl
  | cons a rest ih =>
    rw [List.mapM_cons, List.flatMap_cons, ← ih]
    exact congrArg ((ask a).asked ++ ·) (List.append_nil _)

end Trace

namespace Tag.Token

/-- Whether the arguments of a tag are plain text, such as numbers with commas and blanks between. -/
def Plain (token : Token) : Prop := ∀ list ∈ token.arguments, ∀ c ∈ list, Template.isPlain c

/-- Whether a tag is written without white space. -/
def Solid (token : Token) : Prop := ∀ c ∈ token.text, isBlank c = false

/-- Whether a `$` in front of a tag shows its value if this text follows. -/
def ShownBefore (token : Token) (rest : List Char) : Prop :=
  token.EndsBefore rest ∧ ∀ inside, rest ≠ '?' :: '{' :: inside ∧ rest ≠ '!' :: '{' :: inside

theorem text_ne_nil (token : Token) : token.text ≠ [] := by
  obtain ⟨c, rest, text, -⟩ := token.exists_cons
  rw [text]
  exact List.cons_ne_nil c rest

theorem isPlain_of_isWord_or {c : Char} (word : isWord c ∨ c = '-') : Template.isPlain c := by
  rw [Template.isPlain_iff]
  refine ⟨?_, ?_, ?_, ?_, ?_, ?_⟩ <;>
  · rintro rfl
    contradiction

theorem Plain.text {token : Token} (plain : token.Plain) : ∀ c ∈ token.text, Template.isPlain c := by
  have name : ∀ c ∈ token.name, Template.isPlain c := by
    intro c member
    exact isPlain_of_isWord_or (token.hyphenated.isWord_or c member)
  rw [Token.text]
  split
  · exact name
  · rename_i list arguments
    rw [List.forall_mem_append, List.forall_mem_cons, List.forall_mem_append, List.forall_mem_singleton]
    exact ⟨name, by decide, plain list arguments, by decide⟩

/-- The parentheses of a tag are its own. -/
theorem paired (token : Token) : Template.Paired token.text := by
  have name : Template.Paired token.name := by
    apply Template.paired_of_unopened
    intro opens
    have word := token.hyphenated.isWord_or _ opens
    contradiction
  rw [Token.text]
  split
  · exact name
  · rename_i list arguments
    have unopened : '(' ∉ list ++ [')'] := by
      rw [List.mem_append, not_or]
      exact ⟨(token.flat list arguments).1, by decide⟩
    apply name.append
    rw [Template.paired_cons]
    constructor
    · intro _
      exact List.mem_append_right list List.mem_cons_self
    · exact Template.paired_of_unopened unopened

end Tag.Token

namespace Template

/-- A tag whose value is shown. -/
def singleForm (token : Tag.Token) : List Char := '$' :: token.text

/-- A list of tags whose values are shown. -/
def joinedForm (tags : List Tag.Token) : List Char :=
  '$' :: '{' :: (join [' '] (tags.map Tag.Token.text) ++ ['}'])

/-- What is shown for a list of values: those that are not empty, with blanks between them. -/
def shownJoined (values : List String) : List Char :=
  join [' '] ((values.map String.toList).filter (!·.isEmpty))

/-- The tags of a list expanded one by one, and what they show joined. -/
def oneByOne (ask : String → Trace String) (tags : List Tag.Token) :
    Trace (Except ExpandError String) := do
  let values ← tags.mapM fun tag => expand ask (String.ofList (singleForm tag))
  return .ok (String.ofList (shownJoined values))

/-! ## Reading -/

theorem paired_join {texts : List (List Char)} (paired : ∀ text ∈ texts, Paired text) :
    Paired (join [' '] texts) := by
  induction texts with
  | nil => exact paired_nil
  | cons text texts ih =>
    obtain ⟨first, others⟩ := List.forall_mem_cons.1 paired
    rcases texts with _ | ⟨next, texts⟩
    · exact first
    · rw [join_cons_cons]
      exact first.append (paired_cons.2 ⟨nofun, ih others⟩)

/-- Between the braces everything stands for itself, so that white space parts the texts of the tags. -/
theorem parse_joined {tags : List Tag.Token} (plain : ∀ tag ∈ tags, tag.Plain) (mode : Mode)
    (glued : Bool) (rest : List Char) :
    parse mode glued (joinedForm tags ++ rest) =
      .joined ((tags.map Tag.Token.text).flatMap words) (parse mode false rest) := by
  have chars : ∀ c ∈ join [' '] (tags.map Tag.Token.text), isPlain c := by
    refine forall_mem_join (by decide) ?_
    rw [List.forall_mem_map]
    intro tag member
    exact (plain tag member).text
  have paired : Paired (join [' '] (tags.map Tag.Token.text)) := by
    apply paired_join
    rw [List.forall_mem_map]
    intro tag _
    exact tag.paired
  have closes : close? .literal (join [' '] (tags.map Tag.Token.text) ++ ['}']) =
      some ⟨join [' '] (tags.map Tag.Token.text), []⟩ := by
    apply close?_of_plain
    intro c member
    obtain ⟨noEscape, noDollar, noQuestion, noOpening, noClosing, -⟩ := isPlain_iff.1 (chars c member)
    exact ⟨noEscape, noDollar, noQuestion, noOpening, noClosing⟩
  have whole : joinedForm tags ++ rest =
      '$' :: '{' :: (join [' '] (tags.map Tag.Token.text) ++ '}' :: rest) := by
    simp [joinedForm]
  have opened : scanOpening? glued
      ('$' :: '{' :: (join [' '] (tags.map Tag.Token.text) ++ '}' :: rest)) =
        some (.joined, join [' '] (tags.map Tag.Token.text) ++ '}' :: rest) := rfl
  rw [whole, parse_of_opening opened, cutConstruct, cutBody_extend paired closes, ← words_join]
  rfl

theorem parse_single (token : Tag.Token) {rest : List Char} (shown : token.ShownBefore rest)
    (mode : Mode) (glued : Bool) :
    parse mode glued (singleForm token ++ rest) = .value token.text (parse mode false rest) := by
  obtain ⟨ends, plain⟩ := shown
  have value : dollarTag token.text rest = (.value token.text, rest) :=
    dollarTag.eq_3 _ _ (fun inside => (plain inside).1) (fun inside => (plain inside).2)
  have opened : scanOpening? glued ('$' :: (token.text ++ rest)) = some (.value token.text, rest) :=
    congrArg some ((scanDollar_token token ends).trans value)
  rw [singleForm, List.cons_append, parse_of_opening opened]
  rfl

/-! ## Expanding -/

section Expansion

variable (ask : String → Trace String)

theorem run_mapM_bind (texts : List (List Char)) (behind : List String → Expansion) :
    ((texts.mapM fun text => liftM (ask (String.ofList text))) >>= behind : Expansion).run =
      (texts.mapM fun text => ask (String.ofList text)) >>= fun values => (behind values).run := by
  induction texts generalizing behind with
  | nil => rfl
  | cons text texts ih =>
    simp only [List.mapM_cons, bind_assoc, pure_bind, run_ask_bind, ih]

theorem expand?_joined {tags : List Tag.Token} (plain : ∀ tag ∈ tags, tag.Plain) :
    expand? ask (String.ofList (joinedForm tags)) = do
      let values ← ((tags.map Tag.Token.text).flatMap words).mapM fun text => ask (String.ofList text)
      return .ok (String.ofList (shownJoined values)) := by
  have parsed := parse_joined plain (.literal false) false []
  rw [List.append_nil, parse_nil] at parsed
  rw [expand?, ofString, String.toList_ofList, parsed, expandAt, run_mapM_bind, bind_assoc]
  simp only [expandAt, pure_bind, List.append_nil]
  rfl

theorem expand?_single (token : Tag.Token) :
    expand? ask (String.ofList (singleForm token)) = do
      return .ok (← ask (String.ofList token.text)) := by
  have parsed := parse_single token ⟨fun _ => ⟨Tag.ends_nil, by simp⟩, by simp⟩ (.literal false) false
  rw [List.append_nil, parse_nil] at parsed
  rw [expand?, ofString, String.toList_ofList, parsed, expandAt, run_ask_bind, bind_assoc]
  simp only [expandAt, pure_bind, List.append_nil]
  apply bind_congr
  intro value
  exact congrArg (fun shown => pure (Except.ok shown)) String.ofList_toList

theorem oneByOne_eq (tags : List Tag.Token) : oneByOne ask tags = do
    let values ← (tags.map Tag.Token.text).mapM fun text => ask (String.ofList text)
    return .ok (String.ofList (shownJoined values)) := by
  have single (tag : Tag.Token) :
      expand ask (String.ofList (singleForm tag)) = ask (String.ofList tag.text) := by
    rw [expand, expand?_single, bind_assoc]
    simp only [pure_bind, bind_pure]
  simp only [oneByOne, single, List.mapM_map, Function.comp_def]

end Expansion

/-! ## Agreement -/

/-- A source that tells which texts it is asked for. -/
def echo (text : String) : Trace String := ⟨"", [⟨"", text⟩]⟩

theorem asked_echo (texts : List (List Char)) :
    (texts.mapM fun text => echo (String.ofList text)).asked =
      texts.map fun text => ⟨"", String.ofList text⟩ := by
  rw [Trace.asked_mapM, List.map_eq_flatMap]
  rfl

theorem expand?_joined_eq_oneByOne_iff {tags : List Tag.Token} (plain : ∀ tag ∈ tags, tag.Plain) :
    (∀ ask, expand? ask (String.ofList (joinedForm tags)) = oneByOne ask tags) ↔
      ∀ tag ∈ tags, tag.Solid := by
  have whole : (tags.map Tag.Token.text).flatMap words = tags.map Tag.Token.text ↔
      ∀ tag ∈ tags, tag.Solid := by
    rw [flatMap_words_eq_self_iff, List.forall_mem_map]
    · rfl
    · rw [List.forall_mem_map]
      intro tag _
      exact tag.text_ne_nil
  rw [← whole]
  constructor
  · intro agree
    have asked := congrArg Trace.asked (agree echo)
    rw [expand?_joined echo plain, oneByOne_eq, Trace.asked_bind, Trace.asked_bind, asked_echo,
      asked_echo, Trace.asked_pure, Trace.asked_pure, List.append_nil, List.append_nil] at asked
    apply (List.map_inj_right _).1 asked
    intro first second same
    exact String.ofList_injective (congrArg Query.tag same)
  · intro same ask
    rw [expand?_joined ask plain, oneByOne_eq, same]

theorem oneByOne_singleton (ask : String → Trace String) (tag : Tag.Token) :
    oneByOne ask [tag] = expand? ask (String.ofList (singleForm tag)) := by
  have shown (value : String) : String.ofList (shownJoined [value]) = value := by
    by_cases empty : value = ""
    · rw [empty]
      rfl
    · have held : shownJoined [value] = value.toList := by simp [shownJoined, join, empty]
      rw [held, String.ofList_toList]
  rw [oneByOne_eq, expand?_single]
  simp [shown]

/-- Joined tags are asked for by the words between the braces, a tag behind a `$` by its text. The two
show the same, and ask for the same, if no tag holds white space, and only then: the arguments of a tag
that does are taken apart between braces. -/
theorem joined_agrees_iff {tags : List Tag.Token} (plain : ∀ tag ∈ tags, tag.Plain) :
    (∀ (ask : String → Trace String) mode glued depth bound rest,
      expandAt ask depth bound (parse mode glued (joinedForm tags ++ rest)) = do
        let values ← ((tags.map Tag.Token.text).flatMap words).mapM fun text =>
          ask (String.ofList text)
        return shownJoined values ++ (← expandAt ask depth bound (parse mode false rest))) ∧
    (∀ (ask : String → Trace String) mode glued depth bound rest, ∀ tag ∈ tags, tag.ShownBefore rest →
      expandAt ask depth bound (parse mode glued (singleForm tag ++ rest)) = do
        let value ← ask (String.ofList tag.text)
        return value.toList ++ (← expandAt ask depth bound (parse mode false rest))) ∧
    ((∀ ask, expand? ask (String.ofList (joinedForm tags)) = oneByOne ask tags) ↔
      ∀ tag ∈ tags, tag.Solid) ∧
    ∀ tag ∈ tags, (∀ ask, expand? ask (String.ofList (joinedForm [tag])) =
      expand? ask (String.ofList (singleForm tag))) ↔ tag.Solid := by
  refine ⟨?_, ?_, expand?_joined_eq_oneByOne_iff plain, ?_⟩
  · intro ask mode glued depth bound rest
    rw [parse_joined plain]
    rfl
  · intro ask mode glued depth bound rest tag _ shown
    rw [parse_single tag shown]
    rfl
  · intro tag member
    have alone := expand?_joined_eq_oneByOne_iff (List.forall_mem_singleton.2 (plain tag member))
    simp only [oneByOne_singleton, List.forall_mem_singleton] at alone
    exact alone

theorem flat_spaced : ∀ list ∈ some ['0', ',', ' ', '2'], '(' ∉ list ∧ ')' ∉ list := by simp

/-- The tag `path(0, 2)`. -/
def spacedToken : Tag.Token :=
  { pathToken with arguments := some ['0', ',', ' ', '2'], flat := flat_spaced }

/-- The path of a solution is shown behind a `$`, and not between braces. -/
theorem joined_agrees_iff_path :
    (∀ tag ∈ [pathToken, spacedToken], tag.Plain) ∧ pathToken.Solid ∧ ¬spacedToken.Solid ∧
      (∀ ask, expand? ask (String.ofList (joinedForm [pathToken])) =
        expand? ask (String.ofList (singleForm pathToken))) ∧
      ¬(∀ ask, expand? ask (String.ofList (joinedForm [spacedToken])) =
        expand? ask (String.ofList (singleForm spacedToken))) ∧
      (expand? solutionLookup.value (String.ofList (singleForm spacedToken))).answer = .ok "src/app" ∧
      (expand? solutionLookup.value (String.ofList (joinedForm [spacedToken]))).answer = .ok "" := by
  have plain : ∀ tag ∈ [pathToken, spacedToken], tag.Plain := by
    rw [List.forall_mem_cons, List.forall_mem_singleton]
    constructor <;>
    · rintro _ ⟨⟩
      simp [isPlain]
  have solid : pathToken.Solid := by
    have all : pathToken.text.all fun c => !isBlank c := by decide
    simpa [Tag.Token.Solid] using all
  have spaced : ¬spacedToken.Solid := by
    intro solid
    exact absurd (solid ' ' (by decide)) (by decide)
  obtain ⟨-, -, -, alone⟩ := joined_agrees_iff plain
  refine ⟨plain, solid, spaced, ?_, ?_, ?_, ?_⟩
  · exact (alone pathToken (by simp)).2 solid
  · exact (alone spacedToken (by simp)).not.2 spaced
  · decide +kernel
  · decide +kernel

end Template

end TitleBar
