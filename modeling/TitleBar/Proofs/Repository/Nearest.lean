import Mathlib.Data.List.Perm.Basic
import TitleBar.Proofs.Path.Ancestors
import TitleBar.Repository.Git
import TitleBar.Repository.Perforce
import TitleBar.Repository.Subversion
import TitleBar.Repository.Versionr

/-! # The nearest repository

Of nested working copies the innermost one is found. For clients, how near a root is counts before its
place in the listing: of nested roots the innermost one is found, in whatever order they are listed, and
the order decides only between clients with the same root.
-/

namespace TitleBar

open TitleBar.Path

/-! ## Markers -/

section Marker

variable {files : Files} {start : Path} {marker : String}

/-- Whether a directory holds an entry of the given name. -/
def Marked (files : Files) (marker : String) (directory : Path) : Prop :=
  files.contains (directory.join marker) = true

theorem nearestMarked?_eq_some_iff {found : Path} :
    nearestMarked? files start marker = some found ↔ Deepest (Marked files marker) start found :=
  find?_ancestors_eq_some_iff

theorem nearestMarked?_eq_none_iff :
    nearestMarked? files start marker = none ↔
      ∀ directory ∈ start.ancestors, ¬Marked files marker directory := by
  rw [nearestMarked?, List.find?_eq_none]
  rfl

/-- Whether a discovery finds the deepest directory, at or above a start, that holds the marker, and
nothing if none does. -/
def FindsMarked (discover : Path → Path → Script (Option Discovery)) (marker : String) : Prop :=
  ∀ (program start : Path) (files : Files) (installed : String → Option Path)
    (output : Command → Option (List String)),
    (∀ root, ((discover program start).eval files installed output).map Discovery.root = some root ↔
      Deepest (Marked files marker) start root) ∧
    ((discover program start).eval files installed output = none ↔
      ∀ directory ∈ start.ancestors, ¬Marked files marker directory)

/-- A discovery that looks for the marker on the way up finds it where it is deepest. -/
theorem findsMarked_of_eval {discover : Path → Path → Script (Option Discovery)}
    (describe : Files → Path → Discovery) (rooted : ∀ files root, (describe files root).root = root)
    (looks : ∀ program start files installed output,
      (discover program start).eval files installed output =
        (nearestMarked? files start marker).map (describe files)) : FindsMarked discover marker := by
  intro program start files installed output
  rw [looks, Option.map_map]
  constructor
  · intro root
    have same : Discovery.root ∘ describe files = id := funext (rooted files)
    rw [same, Option.map_id, id, nearestMarked?_eq_some_iff]
  · rw [Option.map_eq_none_iff, nearestMarked?_eq_none_iff]

theorem findsMarked_git : FindsMarked Git.backend.discover ".git" :=
  findsMarked_of_eval _ (fun _ _ => rfl) fun _ _ _ _ _ => rfl

theorem findsMarked_subversion : FindsMarked Subversion.backend.discover ".svn" :=
  findsMarked_of_eval _ (fun _ _ => rfl) fun _ _ _ _ _ => rfl

theorem findsMarked_versionr : FindsMarked Versionr.backend.discover ".versionr" :=
  findsMarked_of_eval _ (fun _ _ => rfl) fun _ _ _ _ _ => rfl

end Marker

/-! ## Clients -/

namespace Perforce

variable {listed : List Client} {start directory : Path} {client : Client}

/-- Whether a directory is the root of a listed client. -/
def Listed (listed : List Client) (directory : Path) : Prop :=
  ∃ client ∈ listed, client.root.parts = directory.parts

/-- Whether a client is the first one listed with a directory as its root. -/
def FirstListed (listed : List Client) (directory : Path) (client : Client) : Prop :=
  ∃ before after, listed = before ++ client :: after ∧ client.root.parts = directory.parts ∧
    ∀ other ∈ before, other.root.parts ≠ directory.parts

theorem FirstListed.root (first : FirstListed listed directory client) :
    client.root.parts = directory.parts := by
  obtain ⟨before, after, -, same, -⟩ := first
  exact same

theorem FirstListed.member (first : FirstListed listed directory client) : client ∈ listed := by
  obtain ⟨before, after, rfl, -⟩ := first
  simp

theorem find?_root_eq_some_iff :
    (listed.find? fun client => client.root.equivalent directory) = some client ↔
      FirstListed listed directory client := by
  rw [List.find?_eq_some_iff_append]
  simp only [equivalent, beq_iff_eq, FirstListed]
  constructor
  · rintro ⟨same, before, after, whole, others⟩
    exact ⟨before, after, whole, same, by simpa using others⟩
  · rintro ⟨before, after, whole, same, others⟩
    exact ⟨same, before, after, whole, by simpa using others⟩

theorem find?_root_eq_none_iff :
    (listed.find? fun client => client.root.equivalent directory) = none ↔
      ¬Listed listed directory := by
  simp [equivalent, Listed]

/-- The client that is found is the first one of the deepest directory that is the root of one. -/
theorem nearestClient?_eq_some_iff :
    nearestClient? listed start = some client ↔
      ∃ directory, Deepest (Listed listed) start directory ∧ FirstListed listed directory client := by
  rw [nearestClient?, findSome?_ancestors_eq_some_iff]
  simp only [ne_eq, find?_root_eq_none_iff, not_not, find?_root_eq_some_iff]

theorem nearestClient?_eq_none_iff :
    nearestClient? listed start = none ↔ ∀ directory ∈ start.ancestors, ¬Listed listed directory := by
  simp only [nearestClient?, List.findSome?_eq_none_iff, find?_root_eq_none_iff]

theorem exists_firstListed (listed' : Listed listed directory) :
    ∃ client, FirstListed listed directory client := by
  simp only [← find?_root_eq_some_iff]
  exact Option.ne_none_iff_exists'.1 fun none => find?_root_eq_none_iff.1 none listed'

/-- Where a client is found does not depend on the order of the listing; which one is, only if several
of them have the same root. -/
theorem nearestClient?_of_perm {other : List Client} (permuted : listed.Perm other) :
    (nearestClient? listed start).map (·.root.parts) =
        (nearestClient? other start).map (·.root.parts) ∧
      ((listed.map (·.root.parts)).Nodup → nearestClient? listed start = nearestClient? other start) := by
  have alike : Listed listed = Listed other := by
    funext directory
    simp only [Listed, permuted.mem_iff]
  rcases found : nearestClient? listed start with _ | client
  · rw [nearestClient?_eq_none_iff, alike, ← nearestClient?_eq_none_iff] at found
    simp [found]
  · obtain ⟨directory, deepest, first⟩ := nearestClient?_eq_some_iff.1 found
    rw [alike] at deepest
    obtain ⟨client', first'⟩ := exists_firstListed deepest.true_of
    have found' := nearestClient?_eq_some_iff.2 ⟨directory, deepest, first'⟩
    have same : client.root.parts = client'.root.parts := first.root.trans first'.root.symm
    rw [found']
    refine ⟨congrArg some same, ?_⟩
    intro distinct
    have also : client' ∈ listed := permuted.mem_iff.2 first'.member
    rw [List.inj_on_of_nodup_map distinct first.member also same]

theorem eval_discover {program : Path} {files : Files} {installed : String → Option Path}
    {output : Command → Option (List String)} {lines : List String}
    (answered : output ⟨start, program, ["clients"]⟩ = some lines) :
    (backend.discover program start).eval files installed output =
      (nearestClient? (clients lines) start).map fun client =>
        ⟨client.root, none, some client.name⟩ := by
  change (output ⟨start, program, ["clients"]⟩ >>= fun lines =>
    nearestClient? (clients lines) start >>= fun client => _) = _
  rw [answered, Option.bind_eq_bind, Option.bind_some]
  cases nearestClient? (clients lines) start <;> rfl

/-- Whether a discovery finds the first listed client of the deepest directory, at or above a start, that
is the root of a client, and nothing if none is; and whether the order of the lines that list the clients
decides only between clients with the same root. -/
def FindsListed (discover : Path → Path → Script (Option Discovery)) : Prop :=
  ∀ (program start : Path) (files : Files) (installed : String → Option Path)
    (output : Command → Option (List String)) (lines : List String),
    output ⟨start, program, ["clients"]⟩ = some lines →
    (∀ discovery, (discover program start).eval files installed output = some discovery ↔
      ∃ directory client, Deepest (Listed (clients lines)) start directory ∧
        FirstListed (clients lines) directory client ∧
        discovery = ⟨client.root, none, some client.name⟩) ∧
    ((discover program start).eval files installed output = none ↔
      ∀ directory ∈ start.ancestors, ¬Listed (clients lines) directory) ∧
    ∀ (output' : Command → Option (List String)) (lines' : List String),
      output' ⟨start, program, ["clients"]⟩ = some lines' → lines.Perm lines' →
      ((discover program start).eval files installed output).map (·.root.parts) =
          ((discover program start).eval files installed output').map (·.root.parts) ∧
        (((clients lines).map (·.root.parts)).Nodup →
          (discover program start).eval files installed output =
            (discover program start).eval files installed output')

theorem findsListed_perforce : FindsListed backend.discover := by
  intro program start files installed output lines answered
  rw [eval_discover answered]
  refine ⟨?_, ?_, ?_⟩
  · intro discovery
    simp only [Option.map_eq_some_iff, nearestClient?_eq_some_iff]
    constructor
    · rintro ⟨client, ⟨directory, deepest, first⟩, rfl⟩
      exact ⟨directory, client, deepest, first, rfl⟩
    · rintro ⟨directory, client, deepest, first, rfl⟩
      exact ⟨client, ⟨directory, deepest, first⟩, rfl⟩
  · rw [Option.map_eq_none_iff, nearestClient?_eq_none_iff]
  · intro output' lines' answered' permuted
    rw [eval_discover answered', Option.map_map, Option.map_map]
    obtain ⟨roots, same⟩ := nearestClient?_of_perm (permuted.filterMap client?)
    exact ⟨roots, fun distinct => congrArg _ (same distinct)⟩

end Perforce

/-- Every discovery finds the nearest repository: the deepest marked directory, at or above the start, or
the deepest one that is the root of a client. -/
theorem discovery_nearest :
    (FindsMarked Git.backend.discover ".git" ∧ FindsMarked Subversion.backend.discover ".svn" ∧
      FindsMarked Versionr.backend.discover ".versionr") ∧
    Perforce.FindsListed Perforce.backend.discover :=
  ⟨⟨findsMarked_git, findsMarked_subversion, findsMarked_versionr⟩, Perforce.findsListed_perforce⟩

/-- Of two clients one inside the other, the inner one is found wherever it is listed. -/
theorem discovery_nearest_nested :
    let lines := ["Client outer 2023/01/05 root /w 'x'", "Client inner 2023/01/05 root /w/sub 'x'"]
    let found (lines : List String) := (Perforce.backend.discover ⟨"p4"⟩ ⟨"/w/sub/src"⟩).eval ⟨[]⟩
      (fun _ => none) (fun _ => some lines)
    found lines = some ⟨⟨"/w/sub"⟩, none, some "inner"⟩ ∧
      found lines.reverse = some ⟨⟨"/w/sub"⟩, none, some "inner"⟩ := by
  intro lines found
  have listed : Perforce.clients lines = [⟨"outer", ⟨"/w"⟩⟩, ⟨"inner", ⟨"/w/sub"⟩⟩] := by
    decide +kernel
  have deepest : Deepest (Perforce.Listed (Perforce.clients lines)) ⟨"/w/sub/src"⟩ ⟨"/w/sub"⟩ := by
    rw [listed]
    refine ⟨by decide +kernel, ⟨⟨"inner", ⟨"/w/sub"⟩⟩, by simp, rfl⟩, ?_⟩
    unfold Perforce.Listed
    decide +kernel
  have first : Perforce.FirstListed (Perforce.clients lines) ⟨"/w/sub"⟩ ⟨"inner", ⟨"/w/sub"⟩⟩ := by
    rw [listed]
    exact ⟨[⟨"outer", ⟨"/w"⟩⟩], [], rfl, rfl, by decide +kernel⟩
  have distinct : ((Perforce.clients lines).map (·.root.parts)).Nodup := by
    rw [listed]
    decide +kernel
  obtain ⟨exact, -, permuted⟩ := discovery_nearest.2 ⟨"p4"⟩ ⟨"/w/sub/src"⟩ ⟨[]⟩ (fun _ => none)
    (fun _ => some lines) lines rfl
  have inner := (exact ⟨⟨"/w/sub"⟩, none, some "inner"⟩).2 ⟨_, _, deepest, first, rfl⟩
  have same := (permuted (fun _ => some lines.reverse) lines.reverse rfl lines.reverse_perm.symm).2 distinct
  exact ⟨inner, same.symm.trans inner⟩

end TitleBar
