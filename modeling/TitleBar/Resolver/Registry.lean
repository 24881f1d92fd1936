import TitleBar.Resolver

/-! # The registry of resolvers

Resolvers are queried in the order of a list in which no tag is claimed twice, so that every tag
has one owner at most.
-/

namespace TitleBar

/-- A tag that two resolvers claim. -/
structure DuplicateTag where
  tag : String
  first : String
  second : String
deriving DecidableEq, Repr

def DuplicateTag.message (error : DuplicateTag) : String :=
  "Tag '" ++ error.tag ++ "' is claimed by both '" ++ error.first ++ "' and '" ++ error.second ++
    "'."

/-- The claims of a list of resolvers: each tag with the name of the resolver that claims it. -/
def Resolver.claims (resolvers : List Resolver) : List (String × String) :=
  resolvers.flatMap fun resolver => resolver.tags.map fun tag => (tag, resolver.name)

/-- The first claim on a tag that an earlier claim, the most recent of which come first in `seen`,
was made on already. -/
def DuplicateTag.find? (seen : List (String × String)) :
    List (String × String) → Option DuplicateTag
  | [] => none
  | (tag, name) :: rest =>
    match seen.lookup tag with
    | some first => some ⟨tag, first, name⟩
    | none => find? ((tag, name) :: seen) rest

theorem DuplicateTag.find?_eq_none_iff {seen claims : List (String × String)} :
    find? seen claims = none ↔
      (claims.map Prod.fst).Nodup ∧ ∀ claim ∈ claims, seen.lookup claim.1 = none := by
  induction claims generalizing seen with
  | nil => simp [find?]
  | cons claim rest ih =>
    obtain ⟨tag, name⟩ := claim
    cases earlier : seen.lookup tag with
    | some first =>
      simp only [find?, earlier, reduceCtorEq, false_iff, not_and]
      intro _ unseen
      have := unseen (tag, name) List.mem_cons_self
      simp only [earlier, reduceCtorEq] at this
    | none =>
      simp only [find?, earlier, ih, List.map_cons, List.nodup_cons, List.mem_map, List.mem_cons,
        forall_eq_or_imp, true_and]
      constructor
      · rintro ⟨distinct, unseen⟩
        refine ⟨⟨?_, distinct⟩, fun claim member => ?_⟩
        · rintro ⟨claim, member, rfl⟩
          simpa using unseen claim member
        · have fresh := unseen claim member
          rw [List.lookup_cons] at fresh
          split at fresh
          · simp at fresh
          · exact fresh
      · rintro ⟨⟨fresh, distinct⟩, unseen⟩
        refine ⟨distinct, fun claim member => ?_⟩
        have differs : claim.1 ≠ tag := fun same => fresh ⟨claim, member, same⟩
        rw [List.lookup_cons, beq_false_of_ne differs]
        exact unseen claim member

/-- Resolvers in query order, of which no two claim the same tag. -/
structure Registry where
  resolvers : List Resolver
  unshared : (resolvers.flatMap (·.tags)).Nodup

namespace Registry

theorem claims_map_fst (resolvers : List Resolver) :
    (Resolver.claims resolvers).map Prod.fst = resolvers.flatMap (·.tags) := by
  simp [Resolver.claims, List.map_flatMap, Function.comp_def]

def ofList? (resolvers : List Resolver) : Except DuplicateTag Registry :=
  match clash : DuplicateTag.find? [] (Resolver.claims resolvers) with
  | some error => .error error
  | none => .ok ⟨resolvers, by
      rw [← claims_map_fst]
      exact (DuplicateTag.find?_eq_none_iff.1 clash).1⟩

def names (registry : Registry) : List String := registry.resolvers.map (·.name)

end Registry

end TitleBar
