import TitleBar.Proofs.Resolver.Agreement
import TitleBar.Resolver.Table
import Mathlib.Data.List.Nodup

/-! # The owner of a tag

No tag of a registry is claimed twice, so one resolver at most owns the identifier that a tag starts
with, and it alone decides every query about the tag: the order of the resolvers does not matter. A
list of resolvers in which a tag is claimed twice makes no registry, and the first such claim is the
one that is reported.
-/

namespace TitleBar

namespace DuplicateTag

/-- Of a list of claims, the first one on a tag that was claimed already is the second claim that an
error reports. -/
def IsFirst (claims : List (String × String)) (error : DuplicateTag) : Prop :=
  ∃ before after, claims = before ++ (error.tag, error.second) :: after ∧
    (before.map Prod.fst).Nodup ∧ (error.tag, error.first) ∈ before

theorem find?_eq_some_iff {seen claims : List (String × String)} {error : DuplicateTag} :
    find? seen claims = some error ↔
      ∃ before after, claims = before ++ (error.tag, error.second) :: after ∧
        find? seen before = none ∧ (before.reverse ++ seen).lookup error.tag = some error.first := by
  induction claims generalizing seen with
  | nil => simp [find?]
  | cons claim rest ih =>
    obtain ⟨tag, name⟩ := claim
    cases earlier : seen.lookup tag with
    | some first =>
      simp only [find?, earlier, Option.some.injEq]
      constructor
      · rintro rfl
        exact ⟨[], rest, rfl, rfl, earlier⟩
      · rintro ⟨_ | ⟨other, before⟩, after, split, fresh, found⟩
        · obtain ⟨same, -⟩ := List.cons.inj split
          obtain ⟨rfl, rfl⟩ := Prod.mk.inj same
          rw [List.reverse_nil, List.nil_append, earlier] at found
          rw [Option.some.inj found]
        · obtain ⟨rfl, -⟩ := List.cons.inj split
          simp only [find?, earlier, reduceCtorEq] at fresh
    | none =>
      simp only [find?, earlier, ih]
      constructor
      · rintro ⟨before, after, rfl, fresh, found⟩
        refine ⟨(tag, name) :: before, after, rfl, ?_, ?_⟩
        · simpa only [find?, earlier] using fresh
        · simpa using found
      · rintro ⟨_ | ⟨other, before⟩, after, split, fresh, found⟩
        · obtain ⟨same, -⟩ := List.cons.inj split
          obtain ⟨rfl, -⟩ := Prod.mk.inj same
          rw [List.reverse_nil, List.nil_append, earlier] at found
          contradiction
        · obtain ⟨rfl, rfl⟩ := List.cons.inj split
          refine ⟨before, after, rfl, ?_, ?_⟩
          · simpa only [find?, earlier] using fresh
          · simpa using found

/-- Where no key comes twice, looking up a key finds the entries with that key. -/
theorem lookup_reverse_eq_some_iff {entries : List (String × String)} {key value : String}
    (distinct : (entries.map Prod.fst).Nodup) :
    entries.reverse.lookup key = some value ↔ (key, value) ∈ entries := by
  rw [List.lookup_eq_some_iff, ← List.mem_reverse]
  constructor
  · rintro ⟨before, after, split, -⟩
    rw [split]
    exact List.mem_append_right _ List.mem_cons_self
  · intro member
    obtain ⟨before, after, split⟩ := List.append_of_mem member
    refine ⟨before, after, split, fun entry earlier => ?_⟩
    rw [← List.nodup_reverse, ← List.map_reverse, split, List.map_append, List.map_cons,
      List.nodup_append] at distinct
    have apart := distinct.2.2 entry.1 (List.mem_map_of_mem earlier) key List.mem_cons_self
    simpa using Ne.symm apart

theorem find?_nil_eq_some_iff {claims : List (String × String)} {error : DuplicateTag} :
    find? [] claims = some error ↔ error.IsFirst claims := by
  rw [find?_eq_some_iff, IsFirst]
  refine exists_congr fun before => exists_congr fun after => and_congr_right fun _ => ?_
  rw [find?_eq_none_iff, List.append_nil]
  constructor
  · rintro ⟨⟨distinct, -⟩, found⟩
    exact ⟨distinct, (lookup_reverse_eq_some_iff distinct).1 found⟩
  · rintro ⟨distinct, found⟩
    exact ⟨⟨distinct, fun _ _ => rfl⟩, (lookup_reverse_eq_some_iff distinct).2 found⟩

end DuplicateTag

namespace Registry

variable {resolvers : List Resolver}

theorem ofList?_eq_error_iff {error : DuplicateTag} :
    ofList? resolvers = .error error ↔ error.IsFirst (Resolver.claims resolvers) := by
  rw [← DuplicateTag.find?_nil_eq_some_iff, ofList?]
  split
  · rename_i found
    rw [found, Except.error.injEq, Option.some.injEq]
  · rename_i fresh
    refine ⟨nofun, fun clash => ?_⟩
    rw [fresh] at clash
    contradiction

/-- A list of resolvers is the registry of itself if no tag is claimed twice. -/
theorem ofList?_eq_ok_iff {registry : Registry} :
    ofList? resolvers = .ok registry ↔
      (resolvers.flatMap (·.tags)).Nodup ∧ registry.resolvers = resolvers := by
  rw [ofList?]
  split
  · rename_i error clash
    have shared : ¬(resolvers.flatMap (·.tags)).Nodup := by
      intro distinct
      rw [← claims_map_fst] at distinct
      rw [DuplicateTag.find?_eq_none_iff.2 ⟨distinct, fun _ _ => rfl⟩] at clash
      contradiction
    simp [shared]
  · rename_i fresh
    have distinct := (DuplicateTag.find?_eq_none_iff.1 fresh).1
    rw [claims_map_fst] at distinct
    rw [Except.ok.injEq]
    constructor
    · rintro rfl
      exact ⟨distinct, rfl⟩
    · rintro ⟨-, rfl⟩
      rfl

/-- A registry splits at the owner of a tag: no other resolver of it owns the tag. -/
theorem exists_split_of_applicable (registry : Registry) {resolver : Resolver} {tag : String}
    (member : resolver ∈ registry.resolvers) (owns : resolver.applicable tag) :
    ∃ before after, registry.resolvers = before ++ resolver :: after ∧
      ∀ other ∈ before ++ after, other.applicable tag = false := by
  obtain ⟨before, after, split⟩ := List.append_of_mem member
  refine ⟨before, after, split, fun other elsewhere => ?_⟩
  have distinct := registry.unshared
  rw [split, (List.perm_middle.flatMap_right _).nodup_iff, List.flatMap_cons, List.nodup_append]
    at distinct
  rcases base : Tag.base? tag with _ | name
  · rw [Resolver.applicable, base]
  · rw [Bool.eq_false_iff]
    intro shared
    rw [Resolver.applicable_iff base] at owns shared
    exact distinct.2.2 name owns name (List.mem_flatMap_of_mem elsewhere shared) rfl

end Registry

namespace Lookup

variable {lookup : Lookup} {resolver : Resolver} {tag : String}

/-- The owner of a tag is the resolver that its identifier belongs to, wherever that stands. -/
theorem owner?_eq_some_iff :
    lookup.owner? tag = some resolver ↔
      resolver ∈ lookup.resolvers ∧ resolver.applicable tag = true := by
  constructor
  · intro found
    rw [owner?] at found
    have owns := List.find?_some found
    exact ⟨List.mem_of_find?_eq_some found, owns⟩
  · rintro ⟨member, owns⟩
    obtain ⟨before, after, split, others⟩ := lookup.registry.exists_split_of_applicable member owns
    rw [owner?, resolvers, split, List.find?_eq_some_iff_append]
    refine ⟨owns, before, after, rfl, fun other earlier => ?_⟩
    rw [others other (List.mem_append_left _ earlier)]
    rfl

/-- The owner of a tag gives its value, if it has one. -/
theorem resolve?_eq_owner? (lookup : Lookup) (tag : String) :
    lookup.resolve? tag =
      match lookup.owner? tag with
      | some owner =>
        if owner.resolvable lookup.situation tag then
          do return some (← owner.resolve lookup.situation tag)
        else pure none
      | none => pure none := by
  have only {other : Resolver} (found : lookup.resolvers.find? (·.resolvable lookup.situation tag) =
      some other) : lookup.owner? tag = some other ∧ other.resolvable lookup.situation tag = true := by
    have resolvable := List.find?_some found
    refine ⟨owner?_eq_some_iff.2 ⟨List.mem_of_find?_eq_some found, ?_⟩, resolvable⟩
    rw [Resolver.resolvable, Bool.and_eq_true, Bool.and_eq_true] at resolvable
    exact resolvable.1.1
  rcases found : lookup.resolvers.find? (·.resolvable lookup.situation tag) with _ | other
  · rcases owned : lookup.owner? tag with _ | owner
    · simp only [resolve?, found]
    · have unresolvable := List.find?_eq_none.1 found owner (owner?_eq_some_iff.1 owned).1
      simp only [resolve?, found, if_neg unresolvable]
  · obtain ⟨owned, resolvable⟩ := only found
    simp only [resolve?, found, owned, if_pos resolvable]

/-- A predicate is decided by the owner of its tag. -/
theorem satisfies_eq_owner? (lookup : Lookup) (predicate : Predicate) :
    lookup.satisfies predicate =
      match lookup.owner? predicate.tag with
      | some owner => owner.satisfies lookup.situation predicate.tag predicate.glob
      | none => pure false := by
  have fails {other : Resolver} (foreign : other.applicable predicate.tag = false) :
      other.satisfies lookup.situation predicate.tag predicate.glob = pure false := by
    rw [Resolver.satisfies, foreign, Bool.false_and]
    rfl
  rw [satisfies]
  rcases owned : lookup.owner? predicate.tag with _ | owner
  · exact Trace.anyOf_eq_pure_false fun other member =>
      fails (Bool.eq_false_iff.2 (List.find?_eq_none.1 owned other member))
  · obtain ⟨member, owns⟩ := owner?_eq_some_iff.1 owned
    obtain ⟨before, after, split, others⟩ := lookup.registry.exists_split_of_applicable member owns
    rw [resolvers, split]
    exact Trace.anyOf_append_cons fun other member => fails (others other member)

/-- Two lookups give the same answers to every query, and put the same questions to resolvers. -/
structure Alike (first second : Lookup) : Prop where
  owner : first.owner? = second.owner?
  resolve : first.resolve? = second.resolve?
  condition : first.condition = second.condition
  satisfies : first.satisfies = second.satisfies
  expand : Template.expand? first.value = Template.expand? second.value
  titleBar : first.titleBar = second.titleBar

/-- Lookups in one situation with the same owners are alike. -/
theorem Alike.of_owner {first second : Lookup} (situation : first.situation = second.situation)
    (owner : first.owner? = second.owner?) : Alike first second := by
  have resolve : first.resolve? = second.resolve? := by
    funext tag
    rw [resolve?_eq_owner?, owner, situation, resolve?_eq_owner?]
  have satisfied : first.satisfies = second.satisfies := by
    funext predicate
    rw [satisfies_eq_owner?, owner, situation, satisfies_eq_owner?]
  refine ⟨owner, resolve, ?_, satisfied, ?_, ?_⟩
  · funext tag
    rw [Lookup.condition, resolve, Lookup.condition]
  · rw [value_congr resolve]
  · exact titleBar_congr (value_congr resolve) satisfied

/-- The order of resolvers does not matter for their owners. -/
theorem owner?_eq_of_perm {first second : Lookup} (perm : first.resolvers.Perm second.resolvers) :
    first.owner? = second.owner? := by
  funext tag
  refine Option.ext fun resolver => ?_
  rw [owner?_eq_some_iff, owner?_eq_some_iff, perm.mem_iff]

theorem answer_rows (lookup : Lookup) :
    lookup.rows.answer = lookup.resolvers.flatMap fun resolver =>
      resolver.tags.map fun tag => (lookup.row resolver tag).answer := by
  simp only [rows, Trace.answer_bind, Trace.answer_pure, Trace.answer_mapM, List.flatMap_def]

theorem answer_row (lookup : Lookup) (resolver : Resolver) (tag : String) :
    (lookup.row resolver tag).answer =
      ⟨tag, resolver.name, if resolver.resolvable lookup.situation tag then
        some (resolver.resolve lookup.situation tag).answer else none⟩ := by
  rw [row]
  split <;> rfl

/-- The row of a tag that is an identifier shows its owner and its value. -/
theorem row_of_base? {lookup : Lookup} {resolver : Resolver} {tag : String}
    (member : resolver ∈ lookup.resolvers) (claimed : tag ∈ resolver.tags)
    (whole : Tag.base? tag = some tag) :
    (lookup.owner? (lookup.row resolver tag).answer.tag).map (·.name) =
        some (lookup.row resolver tag).answer.owner ∧
      (lookup.resolve? (lookup.row resolver tag).answer.tag).answer =
        (lookup.row resolver tag).answer.value? := by
  have owned : lookup.owner? tag = some resolver := by
    rw [owner?_eq_some_iff, Resolver.applicable_iff whole]
    exact ⟨member, claimed⟩
  simp only [answer_row, resolve?_eq_owner?, owned, Option.map_some, true_and]
  split <;> rfl

end Lookup

/-- Resolvers make a registry exactly if no tag is claimed twice; otherwise the first claim on a tag
that was claimed already is reported. The registry answers alike in whatever order the resolvers
stand, and if all tags are identifiers, the listing shows each of them with its owner and its
value. -/
theorem Registry.ofList?_order_free (resolvers : List Resolver) :
    ((∃ registry, ofList? resolvers = .ok registry) ↔ (resolvers.flatMap (·.tags)).Nodup) ∧
    (∀ error, ofList? resolvers = .error error ↔ error.IsFirst (Resolver.claims resolvers)) ∧
    ∀ registry, ofList? resolvers = .ok registry → registry.resolvers = resolvers ∧
      ∀ situation : Situation,
        (∀ permuted : List Resolver, permuted.Perm resolvers →
          ∃ other, ofList? permuted = .ok other ∧ other.resolvers = permuted ∧
            Lookup.Alike ⟨other, situation⟩ ⟨registry, situation⟩) ∧
        (Lookup.rows ⟨registry, situation⟩).answer.map (fun row => (row.tag, row.owner)) =
          Resolver.claims resolvers ∧
        ((∀ tag ∈ resolvers.flatMap (·.tags), Tag.base? tag = some tag) →
          ∀ row ∈ (Lookup.rows ⟨registry, situation⟩).answer,
            (Lookup.owner? ⟨registry, situation⟩ row.tag).map (·.name) = some row.owner ∧
              (Lookup.resolve? ⟨registry, situation⟩ row.tag).answer = row.value?) := by
  refine ⟨⟨?_, fun distinct => ⟨⟨resolvers, distinct⟩, ofList?_eq_ok_iff.2 ⟨distinct, rfl⟩⟩⟩,
    fun error => ofList?_eq_error_iff, fun registry made => ?_⟩
  · rintro ⟨registry, made⟩
    exact (ofList?_eq_ok_iff.1 made).1
  obtain ⟨distinct, rfl⟩ := ofList?_eq_ok_iff.1 made
  refine ⟨rfl, fun situation => ⟨fun permuted perm => ?_, ?_, fun whole row listed => ?_⟩⟩
  · have unshared := (perm.flatMap_right (·.tags)).nodup_iff.2 distinct
    exact ⟨⟨permuted, unshared⟩, ofList?_eq_ok_iff.2 ⟨unshared, rfl⟩, rfl,
      .of_owner rfl (Lookup.owner?_eq_of_perm perm)⟩
  · simp only [Lookup.answer_rows, Lookup.answer_row, List.map_flatMap, List.map_map, Resolver.claims,
      Lookup.resolvers, Function.comp_def]
  · rw [Lookup.answer_rows, List.mem_flatMap] at listed
    obtain ⟨resolver, member, listed⟩ := listed
    obtain ⟨tag, claimed, rfl⟩ := List.mem_map.1 listed
    exact Lookup.row_of_base? member claimed (whole tag (List.mem_flatMap_of_mem member claimed))

/-- Two resolvers whose tags start alike. -/
def Registry.forks : List Resolver := [
  Table.resolver ⟨"git", ["git", "git-branch"], [("git-branch", "main")], true, []⟩,
  Table.resolver ⟨"p4", ["git-p4"], [("git-p4(1,2)", "X/Y")], true, ["git-p4"]⟩]

theorem Registry.ofList?_forks_order_free :
    ∃ registry other, ofList? forks = .ok registry ∧ ofList? forks.reverse = .ok other ∧
      Lookup.Alike ⟨other, .design, none⟩ ⟨registry, .design, none⟩ ∧
      ∀ row ∈ (Lookup.rows ⟨registry, .design, none⟩).answer,
        (Lookup.owner? ⟨registry, .design, none⟩ row.tag).map (·.name) = some row.owner ∧
          (Lookup.resolve? ⟨registry, .design, none⟩ row.tag).answer = row.value? := by
  obtain ⟨accepted, -, answers⟩ := ofList?_order_free forks
  obtain ⟨registry, made⟩ := accepted.2 (by decide)
  obtain ⟨alike, -, listed⟩ := (answers registry made).2 ⟨.design, none⟩
  obtain ⟨other, remade, -, alike⟩ := alike forks.reverse (List.reverse_perm forks)
  exact ⟨registry, other, made, remade, alike, listed (by decide +kernel)⟩

end TitleBar
