import HaxeBuild.Proofs.Accord
import HaxeBuild.Proofs.Program.Disclosure
import HaxeBuild.Proofs.Program.Scope

namespace HaxeBuild

open FileTree

/-- The paths differ in their leading slashes only. -/
def Text.SamePath (path path' : Text) : Prop :=
  dropLeading (.char '/') path = dropLeading (.char '/') path'

/-- The path with more slashes at the beginning. -/
def Text.slashed (n : Nat) (path : Text) : Text := List.replicate n (.char '/') ++ path

theorem Text.samePath_slashed (n : Nat) (path : Text) : SamePath (slashed n path) path := by
  induction n with
  | zero => rfl
  | succ n inductionHypothesis =>
      rw [SamePath, slashed, dropLeading, List.replicate_succ, List.cons_append,
        List.dropWhile_cons_of_pos (by simp)]
      exact inductionHypothesis

variable {p p' : Program} {path path' : Text}

/-- The containment check accepts the same destination, or fails in the same way. -/
theorem FileTree.accord_contained (same : path.SamePath path') (t : FileTree) (root : Path) :
    Outcome.Accord Eq (t.contained root path) (t.contained root path') := by
  rw [contained, contained, same]
  apply (Outcome.accord_refl _).bind
  intro there _ resolved
  subst resolved
  apply (Outcome.accord_refl _).bind
  intro inside _ resolved
  subst resolved
  split
  · exact .ok rfl
  · exact .error rfl

theorem Outcome.Accord.ok_iff {α : Type} {o o' : Outcome α} (accord : Accord Eq o o') (a : α) :
    o = .ok a ↔ o' = .ok a := by
  cases accord with
  | ok values => rw [values]
  | error errors => simp

namespace Program

/-- The paths differ in their leading slashes only, and the same is in memory for them. -/
structure ReadsAlike (p : Program) (path path' : Text) : Prop where
  same : path.SamePath path'
  stored : p.stored? path = p.stored? path'

theorem stored?_eq_iff (same : path.SamePath path') :
    p.stored? path = p.stored? path' ↔
      (p.resources.lookup (Text.dropLeading (.char '/') path)).isSome ∨
        p.resources.lookup path = p.resources.lookup path' := by
  rw [stored?, stored?, same]
  cases p.resources.lookup (Text.dropLeading (.char '/') path') <;> simp

/-- If no key begins with a slash, only the path without its leading slashes is looked up. -/
theorem stored?_of_keys (clean : ∀ entry ∈ p.resources, entry.1.head? ≠ some (.char '/'))
    (path : Text) :
    p.stored? path = p.resources.lookup (Text.dropLeading (.char '/') path) := by
  cases path with
  | nil => simp [stored?, Text.dropLeading]
  | cons c rest =>
      by_cases slash : c = .char '/'
      · have unknown : p.resources.lookup (c :: rest) = none := by
          rw [List.lookup_eq_none_iff]
          intro entry among
          apply bne_iff_ne.mpr
          intro is
          exact clean entry among (by rw [← is, slash]; rfl)
        rw [stored?, unknown, Option.or_none]
      · have kept : Text.dropLeading (.char '/') (c :: rest) = c :: rest := by
          simp [Text.dropLeading, slash]
        rw [stored?, kept, Option.or_self]

theorem readsAlike_of_keys (clean : ∀ entry ∈ p.resources, entry.1.head? ≠ some (.char '/'))
    (same : path.SamePath path') : p.ReadsAlike path path' := by
  refine ⟨same, ?_⟩
  rw [stored?_of_keys clean, stored?_of_keys clean, same]

theorem accord_resource (alike : p.ReadsAlike path path') (t : FileTree) :
    Outcome.Accord Eq (p.resource t path) (p.resource t path') := by
  have found : p.findResource t path = p.findResource t path' := by
    have below : Text.dropLeading (.char '/') path = Text.dropLeading (.char '/') path' :=
      alike.same
    have stored := alike.stored
    rw [stored?, stored?, below] at stored
    simp only [findResource, below, stored]
  rw [resource, resource, found]
  apply (Outcome.accord_refl _).bind
  intro content _ same
  subst same
  cases content with
  | none => exact .error rfl
  | some content => exact .ok rfl

theorem accord_resourceText (alike : p.ReadsAlike path path') (t : FileTree) :
    Outcome.Accord Eq (p.resourceText t path) (p.resourceText t path') := by
  rw [resourceText, resourceText]
  apply (accord_resource alike t).bind
  intro content _ same
  subst same
  exact Outcome.accord_refl _

/-- Where there are no files, only what is in memory can be read. -/
theorem resource_nowhere (content : Bytes) :
    p.resource ⟨[], []⟩ path = .ok content ↔ p.stored? path = some content := by
  rw [resource_eq_ok]
  constructor
  · rintro (stored | ⟨-, directory, -, l, probed⟩)
    · exact stored
    · have there := file_of_probe probed
      rw [get?] at there
      split at there
      · cases there
      · cases there
  · exact .inl

/-- Paths that differ in their leading slashes are read alike in every file tree exactly if the same
is in memory for them. -/
theorem accord_resource_iff (same : path.SamePath path') :
    (∀ t, Outcome.Accord Eq (p.resource t path) (p.resource t path')) ↔
      p.ReadsAlike path path' := by
  constructor
  · intro accord
    refine ⟨same, ?_⟩
    -- A tree without files shows what is in memory.
    apply Option.ext
    intro content
    rw [← resource_nowhere, ← resource_nowhere]
    exact (accord ⟨[], []⟩).ok_iff content
  · intro alike
    exact accord_resource alike

/-- The declared values are paths that are read alike, or fail in the same way to be paths. -/
def Respelled (p : Program) (v v' : Value) : Prop :=
  Outcome.Accord p.ReadsAlike (AssetStager.pathText v) (AssetStager.pathText v')

/-- The program without its assets and the files that are rendered before the build. -/
def withoutFiles (p : Program) : Program :=
  (p.without .addAssets).without .filesBeforeBuildTemplate

/-- The programs differ in their assets and files to render only, and these are the same in another
spelling. -/
structure Respells (p p' : Program) : Prop where
  others : p.withoutFiles = p'.withoutFiles
  assets : List.Forall₂ p.Respelled (Value.flattenAll (p.metadata .addAssets))
    (Value.flattenAll (p'.metadata .addAssets))
  rendered : List.Forall₂ p.Respelled (Value.flattenAll (p.metadata .filesBeforeBuildTemplate))
    (Value.flattenAll (p'.metadata .filesBeforeBuildTemplate))

namespace Respells

variable (respells : p.Respells p')
include respells

theorem resource : p.resource = p'.resource :=
  resource_congr (congrArg (·.resources) respells.others)
    (congrArg (·.resourcesDir) respells.others)

theorem resourceText : p.resourceText = p'.resourceText := resourceText_congr respells.resource

theorem libraries : LibraryReference.declared p = LibraryReference.declared p' := by
  have same : p.metadata .addLibraries = p'.metadata .addLibraries := by
    have same := congrArg (·.metadata .addLibraries) respells.others
    simpa [withoutFiles, metadata_without] using same
  simp only [LibraryReference.declared, same]

theorem command : Command.template p = Command.template p' := by
  have same := congrArg (·.allMetadata .customBuildCommandLine) respells.others
  have same : p.allMetadata .customBuildCommandLine = p'.allMetadata .customBuildCommandLine := by
    simpa [withoutFiles, allMetadata_without_of_ne] using same
  simp only [Command.template, same]

theorem resolve (names : TargetNames) :
    Resolver.resolve ⟨p', names⟩ = Resolver.resolve ⟨p, names⟩ := by
  have unchanged (p : Program) :
      Resolver.resolve ⟨p.withoutFiles, names⟩ = Resolver.resolve ⟨p, names⟩ := by
    rw [withoutFiles, without, without, Resolver.resolve_withMetadata,
      Resolver.resolve_withMetadata]
  rw [← unchanged p, respells.others, unchanged p']

end Respells

end Program

end HaxeBuild
