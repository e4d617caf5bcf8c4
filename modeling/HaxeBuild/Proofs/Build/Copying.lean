import HaxeBuild.Proofs.Build.Compilation
import HaxeBuild.Proofs.Files.Confinement
import HaxeBuild.Proofs.Files.Listing

namespace HaxeBuild

open Effect HaxeBuild.Action

namespace AssetStager

/-- A declared resource is written below the directory. -/
inductive Placed (p : Program) (directory : Path) (v : Value) (t : FileTree) : FileTree → Prop where
  | intro {path : Text} {destination : Path} {content : Bytes} {t1 t' : FileTree}
      (named : pathText v = .ok path) (inside : t.contained directory path = .ok destination)
      (made : perform (Disk.ensureDirectory destination.parent) t = (.ok (), t1))
      (found : p.resource t1 path = .ok content)
      (written : perform (Disk.writeFile destination content) t1 = (.ok (), t')) :
      Placed p directory v t t'

/-- Files are copied one after the other. -/
inductive Copied : List (Path × Path) → FileTree → FileTree → Prop where
  | none {t : FileTree} : Copied [] t t
  | next {source destination : Path} {rest : List (Path × Path)} {t t1 t2 t' : FileTree}
      (made : perform (Disk.ensureDirectory destination.parent) t = (.ok (), t1))
      (copied : perform (Disk.copyFile source destination) t1 = (.ok (), t2))
      (others : Copied rest t2 t') : Copied ((source, destination) :: rest) t t'

/-- A tree that is there is copied with all its files. -/
structure Merged (directory tree : Path) (t t' : FileTree) : Prop where
  present : ∃ found, t.probe tree = .ok (some found)
  copied : Copied (copies t directory tree) t t'

theorem placed_of_stageResource {p : Program} {directory written : Path} {v : Value}
    {a a' : AssetStager} {w w' : World}
    (done : perform (stageResource p directory v) (a, w) = (.ok written, (a', w'))) :
    Placed p directory v w.files w'.files ∧ w'.objects = w.objects ∧
      ∃ path, pathText v = .ok path ∧ w.files.contained directory path = .ok written := by
  rw [stageResource, perform_bind_ok (perform_log ..)] at done
  obtain ⟨path, named, done⟩ := perform_ofOutcome_bind_eq_ok.mp done
  rw [perform_bind_ok (perform_files ..)] at done
  obtain ⟨destination, inside, done⟩ := perform_ofOutcome_bind_eq_ok.mp done
  obtain ⟨log, claimed⟩ := perform_claim destination ("resource:" ++ path) a
    { w with log := w.log ++ [⟨.debug, "Copying resource " ++ v.print⟩] }
  rw [perform_bind_ok claimed] at done
  obtain ⟨_, t1, made, done⟩ := perform_onDisk_bind_eq_ok.mp done
  rw [perform_bind_ok (perform_files ..)] at done
  obtain ⟨content, found, done⟩ := perform_ofOutcome_bind_eq_ok.mp done
  obtain ⟨_, t', written, done⟩ := perform_onDisk_bind_eq_ok.mp done
  cases done
  exact ⟨.intro named inside made found written, rfl, path, named, inside⟩

theorem copied_of_copyAll {pairs : List (Path × Path)} {paths : List Path} {a a' : AssetStager}
    {w w' : World} (done : perform (copyAll pairs) (a, w) = (.ok paths, (a', w'))) :
    Copied pairs w.files w'.files ∧ w'.objects = w.objects ∧ paths = pairs.map (·.2) := by
  induction pairs generalizing a w paths with
  | nil =>
    cases done
    exact ⟨.none, rfl, rfl⟩
  | cons pair pairs inductionHypothesis =>
    obtain ⟨source, destination⟩ := pair
    obtain ⟨log, claimed⟩ := perform_claim destination source.toText a w
    rw [copyAll, perform_bind_ok claimed] at done
    obtain ⟨_, t1, made, done⟩ := perform_onDisk_bind_eq_ok.mp done
    obtain ⟨_, t2, copied, done⟩ := perform_onDisk_bind_eq_ok.mp done
    obtain ⟨others, ⟨_, _⟩, rest, done⟩ := perform_bind_eq_ok.mp done
    cases done
    obtain ⟨later, objects, rfl⟩ := inductionHypothesis rest
    exact ⟨.next made copied later, objects, rfl⟩

theorem merged_of_stageTree {directory tree : Path} {paths : List Path} {a a' : AssetStager}
    {w w' : World} (done : perform (stageTree directory tree) (a, w) = (.ok paths, (a', w'))) :
    Merged directory tree w.files w'.files ∧ w'.objects = w.objects ∧
      paths = (copies w.files directory tree).map (·.2) := by
  rw [stageTree] at done
  obtain ⟨found, t, probed, done⟩ := perform_onDisk_bind_eq_ok.mp done
  rw [Disk.perform_probe] at probed
  obtain ⟨present, rfl⟩ := Prod.mk.inj probed
  cases found with
  | none => cases done
  | some found =>
    simp only [perform_bind_ok (perform_log ..), perform_bind_ok (perform_files ..)] at done
    obtain ⟨copied, objects, is⟩ := copied_of_copyAll done
    exact ⟨⟨⟨found, present⟩, copied⟩, objects, is⟩

/-! ### What a staging comes to -/

/-- The program has the content for a path: in memory, where the path may stand with or without
leading slashes, or else in a file of the resource directory. -/
inductive Finds (p : Program) (t : FileTree) (path : Text) (content : Bytes) : Prop where
  | stored (found : (p.resources.lookup (Text.dropLeading (.char '/') path)).or
      (p.resources.lookup path) = some content)
  | read {directory : Path} {l : Location}
      (absent : (p.resources.lookup (Text.dropLeading (.char '/') path)).or
        (p.resources.lookup path) = none)
      (searched : p.resourcesDir = some directory)
      (found : t.probe (directory.under path) = .ok (some (l, .file content)))

/-- A text names the file below the directory. What the file stands for is inside the directory. -/
structure Names (t : FileTree) (directory : Path) (v : Value) (path : Text) : Prop where
  text : v.text? = some path
  inside : ∃ there, t.resolve (directory.under path) = .ok there ∧ t.Inside directory there

/-- A resource is written to its place below the directory, and only directories are made for it. -/
inductive ResourceStaged (p : Program) (directory : Path) (v : Value) (t : FileTree) :
    FileTree → Prop where
  | intro {path : Text} {content : Bytes} {t1 : FileTree} {l : Location}
      (names : Names t directory v path) (made : t.Grows t1) (found : Finds p t1 path content)
      (opens : t1.Opens (directory.under path) l) :
      ResourceStaged p directory v t (t1.set l (.file content))

/-- Files are copied one after the other, and only directories are made for them. -/
inductive FilesCopied : List (Path × Path) → FileTree → FileTree → Prop where
  | none {t : FileTree} : FilesCopied [] t t
  | next {source destination : Path} {content : Bytes} {rest : List (Path × Path)}
      {t t1 t' : FileTree} {l : Location} (made : t.Grows t1)
      (delivers : t1.Delivers source destination l content)
      (others : FilesCopied rest (t1.set l (.file content)) t') :
      FilesCopied ((source, destination) :: rest) t t'

/-- A tree that is a file is copied under its name. Of a directory every file below it is copied,
in order, under the names that lead to it. -/
inductive TreeStaged (directory tree : Path) (t t' : FileTree) : Prop where
  | file {l : Location} {content : Bytes} (found : t.probe tree = .ok (some (l, .file content)))
      (copied : FilesCopied [(tree, directory.child tree.name)] t t')
  | directory {l : Location} {files : List (List Text)}
      (found : t.probe tree = .ok (some (l, .directory)))
      (all : ∀ names, names ∈ files ↔ names ≠ [] ∧ t.get? (l ++ names) ≠ none ∧
        t.isFile ⟨tree.slashes, tree.parts ++ names⟩ = true)
      (ordered : Path.Ordered id files)
      (copied : FilesCopied (files.map fun names =>
        (⟨tree.slashes, tree.parts ++ names⟩, ⟨directory.slashes, directory.parts ++ names⟩)) t t')

theorem finds_of_resource {p : Program} {t : FileTree} {path : Text} {content : Bytes}
    (found : p.resource t path = .ok content) : Finds p t path content := by
  rcases FileTree.resource_eq_ok.mp found with stored | ⟨absent, directory, searched, l, found⟩
  · exact .stored stored
  · exact .read absent searched found

theorem text?_of_pathText {v : Value} {path : Text} (named : pathText v = .ok path) :
    v.text? = some path := by
  unfold pathText at named
  split at named
  · rename_i text
    cases named
    exact text
  · cases named
  · cases named

theorem grows_of_made {t t1 : FileTree} {p : Path}
    (made : perform (Disk.ensureDirectory p) t = (.ok (), t1)) : t.Grows t1 := by
  have grows := (FileTree.keeps_grows_ensureDirectory t p t (.refl t)).1
  rwa [made] at grows

theorem names_of_contained {t : FileTree} {directory destination : Path} {v : Value} {path : Text}
    (named : pathText v = .ok path) (inside : t.contained directory path = .ok destination) :
    destination = directory.under path ∧ Names t directory v path := by
  obtain ⟨rfl, there, root, resolved, resolvedRoot, below⟩ := FileTree.contained_eq_ok.mp inside
  exact ⟨rfl, text?_of_pathText named, there, resolved, root, resolvedRoot, below⟩

theorem Placed.staged {p : Program} {directory : Path} {v : Value} {t t' : FileTree}
    (placed : Placed p directory v t t') : ResourceStaged p directory v t t' := by
  obtain ⟨named, inside, made, found, written⟩ := placed
  obtain ⟨rfl, names⟩ := names_of_contained named inside
  obtain ⟨l, opens, rfl⟩ := Disk.opens_of_writeFile written
  exact .intro names (grows_of_made made) (finds_of_resource found) opens

theorem Copied.copied {pairs : List (Path × Path)} {t t' : FileTree} (copied : Copied pairs t t') :
    FilesCopied pairs t t' := by
  induction copied with
  | none => exact .none
  | next made copied _ inductionHypothesis =>
    obtain ⟨l, content, delivers, rfl⟩ := Disk.perform_copyFile_eq_ok.mp copied
    exact .next (grows_of_made made) delivers inductionHypothesis

theorem Merged.staged {directory tree : Path} {t t' : FileTree}
    (merged : Merged directory tree t t') : TreeStaged directory tree t t' := by
  obtain ⟨⟨⟨l, e⟩, found⟩, copied⟩ := merged
  have copied := copied.copied
  have entry : t.entry? tree = some (l, e) := FileTree.found_of_probe found
  rw [copies, FileTree.isFile, FileTree.content?, entry] at copied
  cases e with
  | file content => exact .file found copied
  | directory =>
    obtain ⟨files, listed, ordered, all⟩ := FileTree.filesBelow_eq_map found
    refine .directory found all ordered ?_
    simpa [listed, List.map_map, Function.comp_def] using copied
  | link target => exact absurd found FileTree.probe_ne_link

end AssetStager

end HaxeBuild
