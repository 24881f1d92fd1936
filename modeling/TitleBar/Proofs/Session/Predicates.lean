import TitleBar.Proofs.Resolver.Gate
import TitleBar.Proofs.Resolver.Ownership
import TitleBar.Proofs.Session.Coherence

/-! # Predicates and templates see the same values

A predicate and a template may ask for the same tag, and they go different ways to its value. In every
session that can be looked at, a predicate is satisfied exactly if the tag has a value that its pattern
matches, save for the tags that ask whether there is something at all, and for the views of a client,
of which one has to match.
-/

namespace TitleBar

namespace Resolver

variable {resolver : Resolver} {situation : Situation} {tag : String}

theorem answer_resolve (resolvable : resolver.resolvable situation tag = true) :
    (resolver.resolve situation tag).answer = resolver.value situation tag := by
  rw [Resolver.resolvable, Bool.and_eq_true] at resolvable
  rw [resolve, if_pos resolvable.1, ask]

/-- A resolver whose verdicts are decided by the value of their tag, where its gate is open. -/
theorem satisfies_iff_of_verdict {glob : Glob}
    (gated : resolver.available = true → (resolver.verdict situation tag glob).answer =
      (resolver.gate situation tag && glob.isMatch (resolver.value situation tag))) :
    (resolver.satisfies situation tag glob).answer = true ↔
      resolver.resolvable situation tag = true ∧
        glob.isMatch (resolver.resolve situation tag).answer = true := by
  by_cases asked : (resolver.applicable tag && resolver.available) = true
  · have verdict := gated (Bool.and_eq_true _ _ ▸ asked).2
    rw [answer_satisfies, asked, Bool.true_and, verdict, Bool.and_eq_true, resolvable, asked,
      Bool.true_and, resolve, if_pos asked, ask]
  · rw [Bool.not_eq_true] at asked
    rw [answer_satisfies, resolvable, asked]
    simp

end Resolver

namespace Session

variable {session : Session} {files : Files} {ruleFile : Path} {tag : String}

/-- The sessions that can be looked at: those behind the steps of a run, and those that subscribers see
within a step. -/
inductive Reachable [RuleFormat] (files : Files) (ruleFile : Path) : Session → Prop
  | behind (past : List Moment) : Reachable files ruleFile ((new files ruleFile).run past)
  | within (past : List Moment) (moment : Moment) (notice : Notice)
    (told : notice ∈
      (((new files ruleFile).run past).step moment.files moment.stimulus).notices) :
    Reachable files ruleFile notice.seen

theorem Reachable.tied [RuleFormat] (reachable : Reachable files ruleFile session) : session.Tied := by
  cases reachable with
  | behind past => exact tied_run files ruleFile past
  | within past moment notice told =>
    exact ((tied_run files ruleFile past).step moment.files moment.stimulus).seen notice told

/-- The tags that ask whether there is something at all. -/
def presenceTags : List String := ["git", "svn", "vsr", "p4", "solution"]

/-- Verdicts on all other tags but the bare one of the views are decided by a value. What the resolver
of the open solution holds is the solution of the situation, so that its gate is open whenever it is
available. -/
theorem Tied.verdict (tied : session.Tied) {resolver : Resolver}
    (member : resolver ∈ session.resolvers) (presence : tag ∉ presenceTags) (bare : tag ≠ "p4-view")
    (glob : Glob) (available : resolver.available = true) :
    (resolver.verdict session.situation tag glob).answer =
      (resolver.gate session.situation tag &&
        glob.isMatch (resolver.value session.situation tag)) := by
  simp only [presenceTags, List.mem_cons, List.not_mem_nil, or_false, not_or] at presence
  obtain ⟨git, svn, vsr, p4, solution⟩ := presence
  rcases mem_resolvers.1 member with rfl | rfl | rfl | rfl | rfl | rfl
  · exact Resolver.answer_gatedVerdict ..
  · have holds : session.solution.isSome = true := tied.held ▸ available
    have passed : session.held.resolver.gate session.situation tag = true := holds
    change (session.held.verdict session.situation tag glob).answer = _
    rw [OpenSolution.answer_verdict, decide_eq_false solution, passed, Bool.false_or, Bool.true_and]
    rfl
  · exact Tracker.answer_verdict_of_value available (Backend.matchesOrNames_of_ne git)
  · exact Tracker.answer_verdict_of_value available (Backend.matchesOrNames_of_ne vsr)
  · exact Tracker.answer_verdict_of_value available (Backend.matchesOrNames_of_ne svn)
  · refine Tracker.answer_verdict_of_value available fun state discovery => ?_
    change Perforce.satisfies state discovery tag glob = _
    rw [Perforce.satisfies, if_neg bare]
    exact Backend.matchesOrNames_of_ne p4 state discovery

/-- On all these tags, predicates and templates agree. -/
theorem Tied.satisfies_iff_resolve? (tied : session.Tied) (presence : tag ∉ presenceTags)
    (bare : tag ≠ "p4-view") (glob : Glob) :
    (session.lookup.satisfies ⟨tag, glob⟩).answer = true ↔
      ∃ value, (session.lookup.resolve? tag).answer = some value ∧ glob.isMatch value = true := by
  rw [Lookup.satisfies_eq_owner?, Lookup.resolve?_eq_owner?]
  rcases owned : session.lookup.owner? tag with _ | owner
  · simp
  · have member : owner ∈ session.resolvers := (Lookup.owner?_eq_some_iff.1 owned).1
    have decided : (owner.satisfies session.lookup.situation tag glob).answer = true ↔
        owner.resolvable session.lookup.situation tag = true ∧
          glob.isMatch (owner.resolve session.lookup.situation tag).answer = true :=
      Resolver.satisfies_iff_of_verdict (tied.verdict member presence bare glob)
    by_cases resolvable : owner.resolvable session.lookup.situation tag = true
    · simp only [decided, resolvable, if_true, true_and, Trace.answer_bind, Trace.answer_pure,
        Option.some.injEq, exists_eq_left']
    · simp [decided, resolvable]

theorem owner?_of_listed {owner : Resolver} (member : owner ∈ session.resolvers)
    (listed : tag ∈ owner.tags) (whole : Tag.base? tag = some tag) :
    session.lookup.owner? tag = some owner :=
  Lookup.owner?_eq_some_iff.2 ⟨member, Resolver.applicable_of_mem listed whole⟩

theorem base?_of_presence : ∀ tag ∈ presenceTags, Tag.base? tag = some tag := by decide +kernel

/-- A tag that asks whether there is something at all is the name of its owner, which accepts every
pattern for it. -/
theorem exists_named_of_presence (session : Session) (presence : tag ∈ presenceTags) :
    ∃ owner ∈ session.resolvers, owner.name = tag ∧ tag ∈ owner.tags ∧ ∀ glob,
      owner.available = true → (owner.verdict session.situation tag glob).answer = true := by
  simp only [presenceTags, List.mem_cons, List.not_mem_nil, or_false] at presence
  rcases presence with rfl | rfl | rfl | rfl | rfl
  · refine ⟨session.git.resolver Git.backend, by simp [resolvers], rfl, ?_, fun glob available => ?_⟩
    · simp [Tracker.resolver, Git.backend, Git.tags]
    · obtain ⟨bound, -, verdict⟩ := Tracker.exists_verdict available
      rw [verdict]
      rfl
  · refine ⟨session.svn.resolver Subversion.backend, by simp [resolvers], rfl, ?_,
      fun glob available => ?_⟩
    · simp [Tracker.resolver, Subversion.backend]
    · obtain ⟨bound, -, verdict⟩ := Tracker.exists_verdict available
      rw [verdict]
      rfl
  · refine ⟨session.vsr.resolver Versionr.backend, by simp [resolvers], rfl, ?_,
      fun glob available => ?_⟩
    · simp [Tracker.resolver, Versionr.backend]
    · obtain ⟨bound, -, verdict⟩ := Tracker.exists_verdict available
      rw [verdict]
      rfl
  · refine ⟨session.p4.resolver Perforce.backend, by simp [resolvers], rfl, ?_,
      fun glob available => ?_⟩
    · simp [Tracker.resolver, Perforce.backend]
    · obtain ⟨bound, -, verdict⟩ := Tracker.exists_verdict available
      rw [verdict]
      rfl
  · refine ⟨session.held.resolver, by simp [resolvers], rfl, ?_, fun glob _ => ?_⟩
    · simp [OpenSolution.resolver]
    · rfl

theorem exists_owner_of_presence (session : Session) (presence : tag ∈ presenceTags) (glob : Glob) :
    ∃ owner, session.lookup.owner? tag = some owner ∧ owner.name = tag ∧
      (session.lookup.satisfies ⟨tag, glob⟩).answer = owner.available := by
  obtain ⟨owner, member, named, listed, decided⟩ := session.exists_named_of_presence presence
  have whole := base?_of_presence tag presence
  have owned := owner?_of_listed member listed whole
  have owns := Resolver.applicable_of_mem listed whole
  refine ⟨owner, owned, named, ?_⟩
  rw [Lookup.satisfies_eq_owner?, owned]
  simp only [Resolver.answer_satisfies, owns, Bool.true_and]
  rcases available : owner.available with _ | _
  · rw [Bool.false_and]
  · rw [Bool.true_and]
    exact decided glob available

/-- A predicate on the views of a client is decided by each of them. -/
theorem satisfies_view_iff (session : Session) (glob : Glob) :
    (session.lookup.satisfies ⟨"p4-view", glob⟩).answer = true ↔
      ∃ view ∈ (session.p4.snapshot Perforce.backend).views, glob.isMatch view = true := by
  have member : session.p4.resolver Perforce.backend ∈ session.resolvers := by simp [resolvers]
  have listed : "p4-view" ∈ (session.p4.resolver Perforce.backend).tags := by
    simp [Tracker.resolver, Perforce.backend]
  have whole : Tag.base? "p4-view" = some "p4-view" := by decide +kernel
  have owned := owner?_of_listed member listed whole
  have owns := Resolver.applicable_of_mem listed whole
  rw [Lookup.satisfies_eq_owner?, owned]
  simp only [Resolver.answer_satisfies, owns, Bool.true_and]
  rcases held : session.p4.bound with _ | bound
  · simp [Tracker.resolver, Tracker.snapshot, held, Perforce.backend]
  · simp [Tracker.resolver, Tracker.snapshot, held, Perforce.backend, Perforce.satisfies]

/-- In every session that can be looked at, a predicate is satisfied exactly if its tag has a value that
the pattern matches. A tag that asks whether there is something at all satisfies every pattern as long
as its owner is available, and of the views of a client one has to match. -/
theorem predicates_see_values [RuleFormat] (reachable : Reachable files ruleFile session) (tag : String)
    (glob : Glob) :
    let satisfied := (session.lookup.satisfies ⟨tag, glob⟩).answer
    (tag ∉ presenceTags → tag ≠ "p4-view" →
      (satisfied = true ↔
        ∃ value, (session.lookup.resolve? tag).answer = some value ∧ glob.isMatch value = true)) ∧
    (tag ∈ presenceTags →
      ∃ owner, session.lookup.owner? tag = some owner ∧ owner.name = tag ∧
        satisfied = owner.available) ∧
    (tag = "p4-view" →
      (satisfied = true ↔
        ∃ view ∈ (session.p4.snapshot Perforce.backend).views, glob.isMatch view = true)) := by
  intro satisfied
  refine ⟨fun presence bare => ?_, fun presence => ?_, ?_⟩
  · exact reachable.tied.satisfies_iff_resolve? presence bare glob
  · exact session.exists_owner_of_presence presence glob
  · rintro rfl
    exact session.satisfies_view_iff glob

theorem resolve?_openedAndWatched :
    (((new ⟨[]⟩ ⟨"/rules.toml"⟩).run openedAndWatched).lookup.resolve? "solution-name").answer =
      some "app" := by
  have tied := tied_run ⟨[]⟩ ⟨"/rules.toml"⟩ openedAndWatched
  have opened := solution_openedAndWatched
  have held := tied.held.trans opened
  generalize (new ⟨[]⟩ ⟨"/rules.toml"⟩).run openedAndWatched = session at tied opened held ⊢
  have member : session.held.resolver ∈ session.resolvers := by simp [resolvers]
  have listed : "solution-name" ∈ session.held.resolver.tags := by simp [OpenSolution.resolver]
  have whole : Tag.base? "solution-name" = some "solution-name" := by decide +kernel
  have owns := Resolver.applicable_of_mem listed whole
  have name : OpenSolution.valueOf ⟨⟨"/app.sln"⟩, ⟨"/"⟩, "app"⟩ "solution-name" = "app" := by
    decide +kernel
  have available : session.held.resolver.available = true := by
    simp [OpenSolution.resolver, held]
  have passed : session.held.resolver.gate session.lookup.situation "solution-name" = true := by
    simp [OpenSolution.resolver, lookup, situation, opened]
  have resolvable :
      session.held.resolver.resolvable session.lookup.situation "solution-name" = true := by
    rw [Resolver.resolvable, owns, available, passed]
    rfl
  rw [Lookup.resolve?_eq_owner?, owner?_of_listed member listed whole]
  simp only [resolvable, if_true, Trace.answer_bind, Trace.answer_pure,
    Resolver.answer_resolve resolvable]
  simp only [OpenSolution.resolver, OpenSolution.value, lookup, situation, opened]
  exact congrArg some name

/-- Behind the opening of a solution, predicates see its name as templates do. -/
theorem predicates_see_values_openedAndWatched :
    let lookup := ((new ⟨[]⟩ ⟨"/rules.toml"⟩).run openedAndWatched).lookup
    (lookup.satisfies ⟨"solution-name", ⟨"A*"⟩⟩).answer = true ∧
      ∃ owner, lookup.owner? "solution" = some owner ∧
        (lookup.satisfies ⟨"solution", ⟨"B*"⟩⟩).answer = owner.available := by
  intro lookup
  have reachable : Reachable ⟨[]⟩ ⟨"/rules.toml"⟩ _ := .behind openedAndWatched
  refine ⟨?_, ?_⟩
  · refine ((predicates_see_values reachable "solution-name" ⟨"A*"⟩).1 (by decide) (by decide)).2 ?_
    exact ⟨"app", resolve?_openedAndWatched, by decide +kernel⟩
  · obtain ⟨owner, owned, -, satisfied⟩ :=
      (predicates_see_values reachable "solution" ⟨"B*"⟩).2.1 (by decide)
    exact ⟨owner, owned, satisfied⟩

end Session

end TitleBar
