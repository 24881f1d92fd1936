import TitleBar.Proofs.Path.Parts
import TitleBar.Repository.Git

/-! # Changes of metadata

What is written into the metadata folder of a Git working copy counts, unless it is an object or a lock
file. The filter is asked about whole paths, though: where the working copy itself lies below a directory
that is named like the one of the objects, no change counts at all.
-/

namespace TitleBar.Git

open TitleBar.Path

/-- A path inside the metadata folder of a working copy. -/
def metadata (root inside : Path) : Path := (root.join ".git").join inside.text

/-- Whether a path leads through a directory of objects, or to one. -/
def ThroughObjects (path : Path) : Prop := .name "objects" ∈ path.parts

instance (path : Path) : Decidable (ThroughObjects path) :=
  inferInstanceAs (Decidable (_ ∈ path.parts))

/-- Whether a path inside a metadata folder is neither one of an object nor one of a lock file. -/
def Lasting (inside : Path) : Prop := ¬ThroughObjects inside ∧ inside.extension? ≠ some "lock"

variable {root inside : Path}

theorem parts_metadata (relative : inside.isAbsolute = false) :
    (metadata root inside).parts = root.parts ++ .name ".git" :: names inside.text.toList := by
  have folder : (root.join ".git").parts = root.parts ++ [.name ".git"] :=
    parts_join_name root (by decide) rfl
  have some : (root.join ".git").text.toList ≠ [] := by
    intro none
    rw [parts_eq, none] at folder
    exact List.append_ne_nil_of_right_ne_nil root.parts (List.cons_ne_nil _ []) folder.symm
  rw [metadata, parts_join some (by simpa [isAbsolute] using relative), folder, List.append_assoc,
    List.singleton_append]

/-- What a relative path ends in does not depend on where it starts, and the folder has no extension. -/
theorem extension?_metadata (relative : inside.isAbsolute = false) :
    (metadata root inside).extension? = inside.extension? := by
  rw [extension?, extension?, fileName?, fileName?, parts_metadata relative, parts_eq inside]
  rcases List.eq_nil_or_concat (names inside.text.toList) with none | ⟨before, last, whole⟩
  · have folder : (splitExtension ".git").2 = Option.none := by decide
    rw [none, List.getLast?_concat, List.append_nil]
    rcases front_cases inside.text.toList with bare | bare | bare <;> simp [bare, folder]
  · rw [whole, List.concat_eq_append, ← List.cons_append, ← List.append_assoc, ← List.append_assoc,
      List.getLast?_concat, List.getLast?_concat]

theorem throughObjects_metadata_iff (relative : inside.isAbsolute = false) :
    ThroughObjects (metadata root inside) ↔ ThroughObjects root ∨ ThroughObjects inside := by
  rw [ThroughObjects, parts_metadata relative, List.mem_append, List.mem_cons, name_mem_names_iff]
  simp [ThroughObjects]

/-- A change inside the metadata folder of a working copy counts if it is lasting, but where the working
copy lies below a directory of objects none does. -/
theorem accepts_metadata_iff (relative : inside.isAbsolute = false) :
    backend.filter.accepts (metadata root inside) ↔ ¬ThroughObjects root ∧ Lasting inside := by
  have accepts : backend.filter.accepts (metadata root inside) ↔
      ¬ThroughObjects (metadata root inside) ∧ (metadata root inside).extension? ≠ some "lock" := by
    simp [backend, WatchFilter.accepts, ThroughObjects]
  rw [accepts, throughObjects_metadata_iff relative, extension?_metadata relative, not_or, and_assoc,
    Lasting]

/-- What counts inside the metadata folder depends on the place inside of it, and on whether the working
copy lies below a directory that is named like the one of the objects. If it does not, the head counts;
if it does, nothing counts. -/
theorem filter_inside_metadata (root : Path) :
    (∀ inside : Path, inside.isAbsolute = false →
      (backend.filter.accepts (metadata root inside) ↔ ¬ThroughObjects root ∧ Lasting inside)) ∧
    (∀ other : Path, (∀ inside : Path, inside.isAbsolute = false →
        backend.filter.accepts (metadata root inside) =
          backend.filter.accepts (metadata other inside)) ↔
      (ThroughObjects root ↔ ThroughObjects other)) ∧
    (backend.filter.accepts (metadata root ⟨"HEAD"⟩) ↔ ¬ThroughObjects root) := by
  have head (root : Path) :
      backend.filter.accepts (metadata root ⟨"HEAD"⟩) ↔ ¬ThroughObjects root := by
    rw [accepts_metadata_iff (by decide)]
    have lasting : Lasting ⟨"HEAD"⟩ := ⟨by decide, by decide⟩
    simp [lasting]
  refine ⟨fun inside relative => accepts_metadata_iff relative, fun other => ⟨?_, ?_⟩, head root⟩
  · intro same
    have heads := same ⟨"HEAD"⟩ (by decide)
    rw [Bool.eq_iff_iff, head root, head other] at heads
    exact not_iff_not.1 heads
  · intro same inside relative
    rw [Bool.eq_iff_iff, accepts_metadata_iff relative, accepts_metadata_iff relative, same]

/-- The head of one working copy counts, and that of another one below such a directory does not. -/
theorem filter_inside_metadata_objects :
    backend.filter.accepts (metadata ⟨"/tmp/sb/objects/repo"⟩ ⟨"HEAD"⟩) = false ∧
      backend.filter.accepts (metadata ⟨"/tmp/sb/repo"⟩ ⟨"HEAD"⟩) = true := by
  have below : ThroughObjects ⟨"/tmp/sb/objects/repo"⟩ := by decide
  have beside : ¬ThroughObjects ⟨"/tmp/sb/repo"⟩ := by decide
  constructor
  · rw [Bool.eq_false_iff, ne_eq, (filter_inside_metadata ⟨"/tmp/sb/objects/repo"⟩).2.2]
    exact not_not_intro below
  · exact (filter_inside_metadata ⟨"/tmp/sb/repo"⟩).2.2.2 beside

end TitleBar.Git
