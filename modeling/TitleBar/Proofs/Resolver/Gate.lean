import TitleBar.Session
import Mathlib.Data.List.Nodup
import Mathlib.Tactic.Common

/-! # Predicates and the gate of values

A tag has a value only where the gate of its resolver lets it through. Predicates stand behind the same
gate, and the empty pattern asks for nothing but that, with two exceptions: the resolver of the open
solution answers predicates in a situation without a solution, and a client without views fails the
bare tag for them, whatever the pattern is.
-/

namespace TitleBar

theorem Glob.isMatch_of_isEmpty {glob : Glob} (empty : glob.isEmpty = true) (text : String) :
    glob.isMatch text = true := by
  rw [isMatch, empty, Bool.true_or]

namespace Resolver

variable {resolver : Resolver} {situation : Situation} {tag : String} {glob : Glob}

/-- A resolver owns the tags that it lists, as long as they are identifiers. -/
theorem applicable_of_mem (listed : tag ∈ resolver.tags) (whole : Tag.base? tag = some tag) :
    resolver.applicable tag = true :=
  (applicable_iff whole).2 listed

theorem answer_satisfies (resolver : Resolver) (situation : Situation) (tag : String) (glob : Glob) :
    (resolver.satisfies situation tag glob).answer =
      (resolver.applicable tag && resolver.available &&
        (resolver.verdict situation tag glob).answer) := by
  rw [satisfies]
  split
  · rename_i asked
    rw [asked, Bool.true_and]
  · rename_i unasked
    rw [Bool.eq_false_iff.2 unasked, Bool.false_and]
    rfl

/-- A resolver whose verdict is negative where its gate is shut. -/
theorem resolvable_of_satisfies
    (shut : resolver.gate situation tag = false → (resolver.verdict situation tag glob).answer = false)
    (satisfied : (resolver.satisfies situation tag glob).answer = true) :
    resolver.resolvable situation tag = true := by
  rw [answer_satisfies, Bool.and_eq_true] at satisfied
  have passed : resolver.gate situation tag = true := by
    by_contra closed
    rw [shut (Bool.eq_false_iff.2 closed)] at satisfied
    exact absurd satisfied.2 Bool.false_ne_true
  rw [resolvable, satisfied.1, passed, Bool.true_and]

/-- A resolver whose verdict is positive where its gate is open. -/
theorem satisfies_of_resolvable
    (opens : resolver.available = true → resolver.gate situation tag = true →
      (resolver.verdict situation tag glob).answer = true)
    (resolvable : resolver.resolvable situation tag = true) :
    (resolver.satisfies situation tag glob).answer = true := by
  simp only [Resolver.resolvable, Bool.and_eq_true] at resolvable
  obtain ⟨⟨owns, available⟩, passed⟩ := resolvable
  rw [answer_satisfies, owns, available, opens available passed]
  rfl

theorem answer_gatedVerdict (name : String) (gate : Situation → String → Bool)
    (value : Situation → String → String) (situation : Situation) (tag : String) (glob : Glob) :
    (gatedVerdict name gate value situation tag glob).answer =
      (gate situation tag && glob.isMatch (value situation tag)) := by
  rw [gatedVerdict]
  cases gate situation tag <;> rfl

end Resolver

theorem OpenSolution.answer_verdict (held : OpenSolution) (situation : Situation) (tag : String)
    (glob : Glob) :
    (held.verdict situation tag glob).answer =
      (tag = "solution" || glob.isMatch (held.value situation tag)) := by
  rw [verdict]
  split
  · rename_i named
    rw [decide_eq_true named, Bool.true_or]
    rfl
  · rename_i other
    rw [decide_eq_false other, Bool.false_or]

section Trackers

variable {σ : Type} {situation : Situation} {tag : String} {glob : Glob}

theorem Backend.matchesOrNames_of_isEmpty {name : String} {value : σ → Discovery → String → String}
    (empty : glob.isEmpty = true) (state : σ) (discovery : Discovery) :
    matchesOrNames name value state discovery tag glob = true := by
  rw [matchesOrNames, Glob.isMatch_of_isEmpty empty, Bool.or_true]

theorem Backend.matchesOrNames_of_ne {name : String} {value : σ → Discovery → String → String}
    (other : tag ≠ name) (state : σ) (discovery : Discovery) :
    matchesOrNames name value state discovery tag glob = glob.isMatch (value state discovery tag) := by
  rw [matchesOrNames, decide_eq_false other, Bool.false_or]

variable {backend : Backend σ} {tracker : Tracker σ}

/-- The verdict of a tracker is that of its kind of source control about the repository that it is
bound to. -/
theorem Tracker.exists_verdict (available : (tracker.resolver backend).available = true) :
    ∃ bound, tracker.bound = some bound ∧ ∀ situation tag glob,
      (tracker.resolver backend).verdict situation tag glob =
        pure (backend.satisfies bound.snapshot bound.discovery tag glob) := by
  obtain ⟨bound, held⟩ := Option.isSome_iff_exists.1 available
  refine ⟨bound, held, fun situation tag glob => ?_⟩
  simp only [Tracker.resolver, held]

/-- Where a kind of source control decides predicates on a tag by its value, so does a tracker of it,
which has no other gate. -/
theorem Tracker.answer_verdict_of_value (available : (tracker.resolver backend).available = true)
    (decided : ∀ state discovery, backend.satisfies state discovery tag glob =
      glob.isMatch (backend.value state discovery tag)) :
    ((tracker.resolver backend).verdict situation tag glob).answer =
      ((tracker.resolver backend).gate situation tag &&
        glob.isMatch ((tracker.resolver backend).value situation tag)) := by
  obtain ⟨bound, held, verdict⟩ := Tracker.exists_verdict available
  have value : (tracker.resolver backend).value situation tag =
      backend.value bound.snapshot bound.discovery tag := by
    simp only [Tracker.resolver, held]
  rw [verdict, value, ← decided]
  rfl

end Trackers

namespace Session

variable {session : Session} {situation : Situation} {resolver : Resolver} {tag : String} {glob : Glob}

/-- The open solution's resolver is asked for a tag of its own while it holds a solution, in a
situation without one. -/
def Ungated (session : Session) (situation : Situation) (resolver : Resolver) (tag : String) : Prop :=
  resolver.name = "solution" ∧ resolver.applicable tag = true ∧
    session.held.solution?.isSome ∧ situation.solution = none

/-- The resolver of a client that no views are known of is asked for all of them. -/
def Viewless (session : Session) (resolver : Resolver) (tag : String) : Prop :=
  resolver.name = "p4" ∧ tag = "p4-view" ∧
    ∃ bound, session.p4.bound = some bound ∧ bound.snapshot.views = []

theorem mem_resolvers : resolver ∈ session.resolvers ↔
    resolver = session.ide.resolver ∨ resolver = session.held.resolver ∨
      resolver = session.git.resolver Git.backend ∨ resolver = session.vsr.resolver Versionr.backend ∨
      resolver = session.svn.resolver Subversion.backend ∨
      resolver = session.p4.resolver Perforce.backend := by
  simp only [resolvers, List.mem_cons, List.not_mem_nil, or_false]

theorem names_resolvers (session : Session) :
    session.resolvers.map (·.name) = ["ide", "solution", "git", "vsr", "svn", "p4"] := rfl

/-- The resolvers of a session are told apart by their names. -/
theorem eq_of_name {other : Resolver} (member : resolver ∈ session.resolvers)
    (otherMember : other ∈ session.resolvers) (named : resolver.name = other.name) :
    resolver = other := by
  have distinct : (session.resolvers.map (·.name)).Nodup := by
    rw [names_resolvers]
    decide
  exact List.inj_on_of_nodup_map distinct member otherMember named

/-- All resolvers but that of the open solution keep predicates behind their gate. -/
theorem verdict_of_shut (member : resolver ∈ session.resolvers) (other : resolver.name ≠ "solution")
    (shut : resolver.gate situation tag = false) :
    (resolver.verdict situation tag glob).answer = false := by
  rcases mem_resolvers.1 member with rfl | rfl | rfl | rfl | rfl | rfl
  · change (Resolver.gatedVerdict "ide" Ide.gate session.ide.value situation tag glob).answer = false
    rw [Resolver.answer_gatedVerdict, show Ide.gate situation tag = false from shut, Bool.false_and]
  · exact absurd rfl other
  all_goals contradiction

/-- Behind the gate, the empty pattern is refused only for missing views. -/
theorem verdict_of_open (member : resolver ∈ session.resolvers)
    (viewed : ¬session.Viewless resolver tag) (empty : glob.isEmpty = true)
    (available : resolver.available = true) (passed : resolver.gate situation tag = true) :
    (resolver.verdict situation tag glob).answer = true := by
  rcases mem_resolvers.1 member with rfl | rfl | rfl | rfl | rfl | rfl
  · change (Resolver.gatedVerdict "ide" Ide.gate session.ide.value situation tag glob).answer = true
    rw [Resolver.answer_gatedVerdict, show Ide.gate situation tag = true from passed,
      Glob.isMatch_of_isEmpty empty, Bool.true_and]
  · change (session.held.verdict situation tag glob).answer = true
    rw [OpenSolution.answer_verdict, Glob.isMatch_of_isEmpty empty, Bool.or_true]
  · obtain ⟨bound, -, verdict⟩ := Tracker.exists_verdict available
    rw [verdict]
    exact Backend.matchesOrNames_of_isEmpty empty bound.snapshot bound.discovery
  · obtain ⟨bound, -, verdict⟩ := Tracker.exists_verdict available
    rw [verdict]
    exact Backend.matchesOrNames_of_isEmpty empty bound.snapshot bound.discovery
  · obtain ⟨bound, -, verdict⟩ := Tracker.exists_verdict available
    rw [verdict]
    exact Backend.matchesOrNames_of_isEmpty empty bound.snapshot bound.discovery
  · obtain ⟨bound, held, verdict⟩ := Tracker.exists_verdict available
    rw [verdict]
    change Perforce.satisfies bound.snapshot bound.discovery tag glob = true
    rw [Perforce.satisfies]
    split
    · rename_i bare
      have views : bound.snapshot.views ≠ [] := fun none => viewed ⟨rfl, bare, bound, held, none⟩
      obtain ⟨view, member⟩ := List.exists_mem_of_ne_nil _ views
      exact List.any_eq_true.2 ⟨view, member, Glob.isMatch_of_isEmpty empty view⟩
    · exact Backend.matchesOrNames_of_isEmpty empty bound.snapshot bound.discovery

theorem ungated_held_iff : session.Ungated situation session.held.resolver tag ↔
    (session.held.resolver.applicable tag && session.held.resolver.available) = true ∧
      situation.solution = none := by
  rw [Bool.and_eq_true]
  constructor
  · rintro ⟨-, owns, holds, closed⟩
    exact ⟨⟨owns, holds⟩, closed⟩
  · rintro ⟨⟨owns, holds⟩, closed⟩
    exact ⟨rfl, owns, holds, closed⟩

/-- What is satisfied without having a value. -/
theorem satisfied_ungated_iff (member : resolver ∈ session.resolvers) (situation : Situation)
    (tag : String) (glob : Glob) :
    (resolver.satisfies situation tag glob).answer = true ∧ resolver.resolvable situation tag = false ↔
      session.Ungated situation resolver tag ∧
        (tag = "solution" ∨ glob.isMatch (resolver.value situation tag) = true) := by
  by_cases named : resolver.name = "solution"
  · obtain rfl := eq_of_name member (mem_resolvers.2 (.inr (.inl rfl))) named
    have decided : (session.held.resolver.verdict situation tag glob).answer = true ↔
        (tag = "solution" ∨ glob.isMatch (session.held.resolver.value situation tag) = true) := by
      change (session.held.verdict situation tag glob).answer = true ↔ _
      rw [OpenSolution.answer_verdict, Bool.or_eq_true, decide_eq_true_iff]
      rfl
    rw [Resolver.answer_satisfies, Bool.and_eq_true, decided, Resolver.resolvable, ungated_held_iff]
    constructor
    · rintro ⟨⟨asked, matched⟩, shut⟩
      rw [asked, Bool.true_and] at shut
      exact ⟨⟨asked, Option.isNone_iff_eq_none.1 (Option.isSome_eq_false_iff.1 shut)⟩, matched⟩
    · rintro ⟨⟨asked, closed⟩, matched⟩
      have shut : session.held.resolver.gate situation tag = false :=
        Option.isSome_eq_false_iff.2 (Option.isNone_iff_eq_none.2 closed)
      exact ⟨⟨asked, matched⟩, by rw [shut, Bool.and_false]⟩
  · constructor
    · rintro ⟨satisfied, unresolvable⟩
      rw [Resolver.resolvable_of_satisfies (verdict_of_shut member named) satisfied] at unresolvable
      contradiction
    · exact fun ungated => absurd ungated.1.1 named

/-- What has a value and yet does not satisfy the empty pattern. -/
theorem unsatisfied_viewless_iff (member : resolver ∈ session.resolvers) (situation : Situation)
    (tag : String) (empty : glob.isEmpty = true) :
    (resolver.satisfies situation tag glob).answer = false ∧ resolver.resolvable situation tag = true ↔
      session.Viewless resolver tag := by
  constructor
  · rintro ⟨unsatisfied, resolvable⟩
    by_contra viewed
    rw [Resolver.satisfies_of_resolvable (verdict_of_open member viewed empty) resolvable]
      at unsatisfied
    contradiction
  · rintro ⟨named, rfl, bound, held, none⟩
    have p4 : session.p4.resolver Perforce.backend ∈ session.resolvers := by simp [mem_resolvers]
    obtain rfl := eq_of_name member p4 named
    have owns : (session.p4.resolver Perforce.backend).applicable "p4-view" = true :=
      Resolver.applicable_of_mem (by simp [Tracker.resolver, Perforce.backend]) (by decide +kernel)
    have refused :
        ((session.p4.resolver Perforce.backend).verdict situation "p4-view" glob).answer = false := by
      simp [Tracker.resolver, held, Perforce.backend, Perforce.satisfies, none]
    have available : (session.p4.resolver Perforce.backend).available = true := by
      rw [Tracker.resolver, held]
      rfl
    rw [Resolver.answer_satisfies, refused, Resolver.resolvable, owns, available]
    exact ⟨rfl, rfl⟩

/-- For all resolvers of a session, whatever they have cached and in every situation: a predicate is
satisfied without its tag having a value only if the open solution's resolver is asked beside its gate,
and the empty pattern tells whether the tag has a value unless that is so or there are no views. -/
theorem satisfies_unlike_resolvable_iff (session : Session) (situation : Situation)
    {resolver : Resolver} (member : resolver ∈ session.resolvers) (tag : String) (glob : Glob) :
    let satisfied := (resolver.satisfies situation tag glob).answer
    let resolvable := resolver.resolvable situation tag
    (satisfied = true ∧ resolvable = false ↔
      session.Ungated situation resolver tag ∧
        (tag = "solution" ∨ glob.isMatch (resolver.value situation tag) = true)) ∧
      (glob.isEmpty = true → (satisfied ≠ resolvable ↔
        session.Ungated situation resolver tag ∨ session.Viewless resolver tag)) := by
  intro satisfied resolvable
  refine ⟨satisfied_ungated_iff member situation tag glob, fun empty => ?_⟩
  have ungated := satisfied_ungated_iff member situation tag glob
  rw [Glob.isMatch_of_isEmpty empty, eq_self, or_true, and_true] at ungated
  rw [← ungated, ← unsatisfied_viewless_iff member situation tag empty]
  change satisfied ≠ resolvable ↔
    satisfied = true ∧ resolvable = false ∨ satisfied = false ∧ resolvable = true
  cases satisfied <;> cases resolvable <;> decide

/-- A solution in the workspace of a client whose specification could not be read. -/
def unreadClient : Session :=
  { ide := Ide.ofName Ide.defaultName
    held := OpenSolution.opened ⟨⟨"/w/app.sln"⟩, ⟨"/w"⟩, "app"⟩
    git := Tracker.idle
    vsr := Tracker.idle
    svn := Tracker.idle
    p4 := Tracker.idle.run Perforce.backend [.opened ⟨"/w"⟩,
      .ended 0 (.found ⟨"/bin/p4"⟩ ⟨⟨"/w"⟩, none, some "box"⟩ Perforce.backend.blank false)]
    userRules := ⟨.user, ⟨"/rules.toml"⟩, none, [], none, 0⟩
    solutionRules := none
    solution := some ⟨⟨"/w/app.sln"⟩, ⟨"/w"⟩, "app"⟩
    watchesRules := false }

/-- The tag of the views has a value that the empty pattern does not match, and the tag of the solution
is satisfied without having a value. -/
theorem satisfies_unlike_resolvable_unreadClient :
    let p4 := unreadClient.p4.resolver Perforce.backend
    let held := unreadClient.held.resolver
    let unopened : Situation := ⟨.design, none⟩
    (p4.satisfies unreadClient.situation "p4-view" ⟨""⟩).answer ≠
        p4.resolvable unreadClient.situation "p4-view" ∧
      (held.satisfies unopened "solution" ⟨""⟩).answer = true ∧
        held.resolvable unopened "solution" = false := by
  intro p4 held unopened
  have owns : held.applicable "solution" = true := by decide +kernel
  refine ⟨?_, ?_⟩
  · refine ((satisfies_unlike_resolvable_iff unreadClient _ ?_ "p4-view" ⟨""⟩).2 rfl).2 (.inr ?_)
    · simp [p4, resolvers]
    · exact ⟨rfl, rfl, _, rfl, rfl⟩
  · refine (satisfies_unlike_resolvable_iff unreadClient unopened ?_ "solution" ⟨""⟩).1.2 ?_
    · simp [held, resolvers]
    · exact ⟨⟨rfl, owns, rfl, rfl⟩, .inl rfl⟩

end Session

end TitleBar
