import HaxeBuild.Proofs.Build.Copying
import HaxeBuild.Proofs.Build.History
import HaxeBuild.Proofs.Files.Overlay

namespace HaxeBuild

open Effect HaxeBuild.Action

namespace AssetStager

open FileTree

/-! ### What is to be copied -/

/-- A resource in memory, or what is in a file of the resource directory after earlier copies. -/
inductive Supplies (p : Program) (t : FileTree) (earlier : Copies) (path : Text) (content : Bytes) :
    Prop where
  | stored (found : (p.resources.lookup (Text.dropLeading (.char '/') path)).or
      (p.resources.lookup path) = some content)
  | read {directory : Path} (absent : (p.resources.lookup (Text.dropLeading (.char '/') path)).or
      (p.resources.lookup path) = none) (searched : p.resourcesDir = some directory)
      (found : let l := t.place (directory ++ Path.ofText (Text.dropLeading (.char '/') path))
        (earlier.lastAt t.place l).or (t.bytesAt l) = some content)

/-- The copies of declared resources, each of which may see what was copied before. -/
inductive Gathers (p : Program) (t : FileTree) (directory : Path) : List Value → Copies → Prop where
  | none : Gathers p t directory [] []
  | next {vs : List Value} {copies : Copies} {v : Value} {path : Text} {content : Bytes}
      (earlier : Gathers p t directory vs copies) (named : pathText v = .ok path)
      (supplies : Supplies p t copies path content) :
      Gathers p t directory (vs ++ [v])
        (copies ++ [(directory ++ Path.ofText (Text.dropLeading (.char '/') path), content)])

/-- The trees that values name. -/
def trees (vs : List Value) : List Path := vs.filterMap fun v => (treePath v).toOption

/-- The copies of a tree: of the file that it is, or else of all files below it in order. -/
def treeCopies (t : FileTree) (directory tree : Path) : Copies :=
  match t.bytesAt (t.place tree) with
  | some content => [(directory.child tree.name, content)]
  | none => (t.filesUnder (t.place tree)).map fun (names, content) =>
    (⟨directory.slashes, directory.parts ++ names⟩, content)

/-- Neither the tree nor the directory is inside the other one. -/
def Apart (t : FileTree) (directory tree : Path) : Prop :=
  ¬ t.place directory <+: t.place tree ∧ ¬ t.place tree <+: t.place directory

instance (t : FileTree) (directory tree : Path) : Decidable (Apart t directory tree) :=
  inferInstanceAs (Decidable (_ ∧ _))

/-! ### Resources -/

section Resources

variable {p : Program} {t t' t'' : FileTree} {directory destination : Path} {copies : Copies}
  {path : Text} {content : Bytes}

/-- While resources are copied, all destinations are files. -/
structure ReceivesFiles (t : FileTree) (directory : Path) (copies : Copies) (t' : FileTree) : Prop
    extends Receives t directory copies t' where
  flat : ∀ copy ∈ copies, t'.get? (t.place copy.1) ≠ some .directory

namespace ReceivesFiles

theorem grow (receives : ReceivesFiles t directory copies t') (plain : t''.Plain)
    (grows : Grows t' t'') : ReceivesFiles t directory copies t'' where
  toReceives := receives.toReceives.grow plain grows
  flat := fun copy among => by
    rw [receives.get?_grow grows among]
    exact receives.flat copy among

theorem write (receives : ReceivesFiles t directory copies t') {l : Location}
    (opens : t'.Opens destination l) (inside : t.place directory <+: t.place destination) :
    ReceivesFiles t directory (copies ++ [(destination, content)])
      (t'.set l (.file content)) where
  toReceives := receives.toReceives.write opens (landing_of_opens receives.plain opens) inside
  flat := by
    have named : l ≠ [] := by
      rintro rfl
      exact opens.ne_directory rfl
    intro copy among
    rw [get?_set t' l _ _ named]
    split
    · nofun
    · rename_i other
      rcases List.mem_append.mp among with earlier | new
      · exact receives.flat copy earlier
      · cases List.mem_singleton.mp new
        rw [← place_of_cwd receives.cwd] at other
        exact absurd (receives.plain.eq_place_of_opens opens).symm other

/-- No copy went into a directory. -/
theorem lastAt (receives : ReceivesFiles t directory copies t') :
    copies.lastAt t'.landing = copies.lastAt t.place := by
  refine Copies.lastAt_congr fun copy among => ?_
  have flat := receives.flat copy among
  rw [← place_of_cwd receives.cwd] at flat ⊢
  exact landing_of_ne flat

end ReceivesFiles

theorem supplies_of_resource (receives : ReceivesFiles t directory copies t')
    (found : p.resource t' path = .ok content) : Supplies p t copies path content := by
  rcases resource_eq_ok.mp found with stored | ⟨absent, root, searched, l, probed⟩
  · exact .stored stored
  · refine .read absent searched ?_
    have there := bytesAt_eq_some.mpr (receives.plain.get?_of_probe probed).2
    rwa [receives.overlaid, receives.lastAt, place_of_cwd receives.cwd] at there

/-- A declared resource becomes one more copy. -/
theorem receives_of_placed {v : Value} (placed : Placed p directory v t' t'')
    (receives : ReceivesFiles t directory copies t') :
    ∃ path content, pathText v = .ok path ∧ Supplies p t copies path content ∧
      ReceivesFiles t directory (copies ++
        [(directory ++ Path.ofText (Text.dropLeading (.char '/') path), content)]) t'' := by
  obtain ⟨named, inside, made, found, written⟩ := placed
  rename_i path destination content t1
  obtain ⟨rfl, there, root, resolved, resolvedRoot, below⟩ := contained_eq_ok.mp inside
  rw [receives.plain.eq_place_of_resolve resolved,
    receives.plain.eq_place_of_resolve resolvedRoot, place_of_cwd receives.cwd] at below
  have ⟨plain, grows⟩ := grows_of_ensureDirectory receives.plain made
  have receives := receives.grow plain grows
  obtain ⟨l, opens, rfl⟩ := Disk.opens_of_writeFile written
  refine ⟨path, content, named, supplies_of_resource receives found, ?_⟩
  exact receives.write opens below

/-- The declared resources become copies one after the other. -/
theorem receives_of_stageResources {earlier vs : List Value} {paths : List Path}
    {a a' : AssetStager} {w w' : World} (gathers : Gathers p t directory earlier copies)
    (receives : ReceivesFiles t directory copies w.files)
    (done : perform (stageResources p directory vs) (a, w) = (.ok paths, (a', w'))) :
    ∃ more : Copies, paths = more.map (·.1) ∧
      Gathers p t directory (earlier ++ vs) (copies ++ more) ∧
        ReceivesFiles t directory (copies ++ more) w'.files := by
  induction vs generalizing earlier copies a w paths with
  | nil =>
    cases done
    simp only [List.append_nil]
    exact ⟨[], rfl, by simpa using gathers, by simpa using receives⟩
  | cons v vs inductionHypothesis =>
    obtain ⟨written, ⟨a1, w1⟩, first, rest⟩ := perform_bind_eq_ok.mp done
    obtain ⟨others, ⟨_, _⟩, rest, is⟩ := perform_bind_eq_ok.mp rest
    cases is
    obtain ⟨placed, -, path, named, inside⟩ := placed_of_stageResource first
    obtain ⟨path', content, named', supplies, receives⟩ := receives_of_placed placed receives
    cases named.symm.trans named'
    obtain ⟨more, rfl, gathers, receives⟩ :=
      inductionHypothesis (gathers.next named supplies) receives rest
    rw [List.append_assoc] at gathers receives
    refine ⟨_, ?_, by rwa [List.append_assoc] at gathers, receives⟩
    rw [(contained_eq_ok.mp inside).1]
    rfl

end Resources

/-! ### Trees -/

section Trees

variable {t t' t'' : FileTree} {directory tree : Path} {copies more : Copies}

/-- A file of a tree, with its destination, is one of the copies. -/
structure FileCopy (t : FileTree) (directory tree : Path) (file : Path × Path)
    (copy : Path × Bytes) : Prop where
  destination : copy.1 = file.2
  content : t.bytesAt (t.place file.1) = some copy.2
  among : t.place tree <+: t.place file.1
  named : file.1.name = file.2.name
  down : (file.2.name == "..") = false
  inside : t.place directory <+: t.place file.2

theorem name_below (p : Path) {names : List Text} (more : names ≠ []) :
    Path.name ⟨p.slashes, p.parts ++ names⟩ = names.getLast more := by
  rw [Path.name, List.getLastD_eq_getLast?, List.getLast?_append,
    List.getLast?_eq_some_getLast more]
  rfl

theorem fileCopy_of_names (plain : t.Plain) {names : List Text} {content : Bytes}
    (among : (names, content) ∈ t.filesUnder (t.place tree)) :
    FileCopy t directory tree
      (⟨tree.slashes, tree.parts ++ names⟩, ⟨directory.slashes, directory.parts ++ names⟩)
      (⟨directory.slashes, directory.parts ++ names⟩, content) := by
  have ⟨more, bytes⟩ := plain.mem_filesUnder.mp among
  have down : ∀ name ∈ names, (name == "..") = false := fun name below =>
    (plain.named _ _ (bytesAt_eq_some.mp bytes) name (List.mem_append_right _ below)).down
  have source := t.place_names tree down
  refine ⟨rfl, ?_, ?_, ?_, ?_, ?_⟩
  · rw [source, bytes]
  · rw [source]
    exact List.prefix_append _ _
  · rw [name_below tree more, name_below directory more]
  · rw [name_below directory more]
    exact down _ (List.getLast_mem more)
  · rw [t.place_names directory down]
    exact List.prefix_append _ _

/-- The files of a tree are copied in order. -/
theorem fileCopies (plain : t.Plain) {found : Location × Entry}
    (probed : t.probe tree = .ok (some found)) (directory : Path) :
    List.Forall₂ (FileCopy t directory tree) (AssetStager.copies t directory tree)
      (treeCopies t directory tree) := by
  obtain ⟨l, e⟩ := found
  obtain ⟨is, there⟩ := plain.get?_of_probe probed
  have entry : t.entry? tree = some (l, e) := found_of_probe probed
  cases e with
  | link target => exact absurd there (plain.noLinks _ target)
  | file content =>
    have isFile : t.isFile tree = true := by rw [isFile, content?, entry]; rfl
    have bytes := bytesAt_eq_some.mpr there
    have down := plain.name_of_probe probed
    rw [AssetStager.copies, if_pos isFile, treeCopies, bytes]
    refine .cons ⟨rfl, bytes, List.prefix_refl _, ?_, ?_, ?_⟩ .nil
    · rw [Path.name_child]
    · rwa [Path.name_child]
    · rw [t.place_child directory down]
      exact List.prefix_append _ _
  | directory =>
    have isFile : t.isFile tree = false := by rw [isFile, content?, entry]; rfl
    have bytes : t.bytesAt (t.place tree) = none := by rw [bytesAt, there]
    rw [AssetStager.copies, isFile, if_neg Bool.false_ne_true, treeCopies, bytes,
      plain.filesBelow_eq probed, List.map_map, is]
    simp only [List.forall₂_map_left_iff, List.forall₂_map_right_iff, List.forall₂_same]
    rintro ⟨names, content⟩ among
    simp only [Function.comp, List.drop_left]
    exact fileCopy_of_names plain among

theorem destinations_of_fileCopies {files : List (Path × Path)}
    (are : List.Forall₂ (FileCopy t directory tree) files copies) :
    files.map (·.2) = copies.map (·.1) := by
  induction are with
  | nil => rfl
  | cons is are inductionHypothesis =>
    rw [List.map_cons, List.map_cons, inductionHypothesis, is.destination]

/-- What is in the tree is not in the directory. -/
theorem Apart.outside (apart : Apart t directory tree) {l : Location}
    (below : t.place tree <+: l) : ¬ t.place directory <+: l := by
  intro inside
  rcases List.prefix_or_prefix_of_prefix inside below with inner | outer
  · exact apart.1 inner
  · exact apart.2 outer

/-- The tree has the files that it had at the beginning. -/
theorem treeCopies_of_receives (plain : t.Plain) (receives : Receives t directory copies t')
    (apart : Apart t directory tree) :
    treeCopies t' directory tree = treeCopies t directory tree := by
  have same (names : List Text) :
      t'.bytesAt (t.place tree ++ names) = t.bytesAt (t.place tree ++ names) :=
    receives.bytesAt_outside (apart.outside (List.prefix_append _ _))
  have here := same []
  rw [List.append_nil] at here
  rw [treeCopies, treeCopies, place_of_cwd receives.cwd, here,
    plain.filesUnder_congr receives.plain same]

theorem FileCopy.of_receives (receives : Receives t directory copies t')
    (apart : Apart t directory tree) {file : Path × Path} {copy : Path × Bytes}
    (fileCopy : FileCopy t' directory tree file copy) : FileCopy t directory tree file copy := by
  obtain ⟨destination, content, among, named, down, inside⟩ := fileCopy
  rw [place_of_cwd receives.cwd] at content among inside
  rw [receives.bytesAt_outside (apart.outside among)] at content
  exact ⟨destination, content, among, named, down, inside⟩

/-- Each file that is copied is one more copy, with the bytes it had at the beginning. -/
theorem receives_of_copied {files : List (Path × Path)} (copied : Copied files t' t'')
    (receives : Receives t directory copies t') (apart : Apart t directory tree)
    (are : List.Forall₂ (FileCopy t directory tree) files more) :
    Receives t directory (copies ++ more) t'' := by
  induction copied generalizing copies more with
  | none =>
    cases are
    rwa [List.append_nil]
  | @next source destination rest t' t1 t2 t'' made copied others inductionHypothesis =>
    cases are with
    | @cons _ copy _ more is are =>
      have ⟨plain, grows⟩ := grows_of_ensureDirectory receives.plain made
      have receives := receives.grow plain grows
      obtain ⟨content', l, read, opens, rfl⟩ := Disk.opens_of_copyFile copied
      have bytes := plain.bytesAt_of_content? read
      rw [place_of_cwd receives.cwd, receives.bytesAt_outside (apart.outside is.among),
        is.content] at bytes
      cases bytes
      have lands : t1.landing destination = l := by
        cases directory : t1.isDirectory destination with
        | true =>
          rw [directory, if_pos rfl, is.named] at opens
          exact landing_of_isDirectory plain directory is.down opens
        | false =>
          rw [directory, if_neg Bool.false_ne_true] at opens
          exact landing_of_opens plain opens
      have receives : Receives t directory (copies ++ [(destination, copy.2)])
          (t1.set l (.file copy.2)) := receives.write opens lands is.inside
      have all := inductionHypothesis receives are
      rw [List.append_assoc] at all
      obtain ⟨d, bytes⟩ := copy
      cases is.destination
      exact all

theorem trees_cons {v : Value} (is : treePath v = .ok tree) (vs : List Value) :
    trees (v :: vs) = tree :: trees vs := by
  rw [trees, List.filterMap_cons, is]
  rfl

/-- The trees are copied one after the other. -/
theorem receives_of_stageAll {vs : List Value} {paths : List Path} {a a' : AssetStager}
    {w w' : World} (plain : t.Plain) (apart : ∀ tree ∈ trees vs, Apart t directory tree)
    (receives : Receives t directory copies w.files)
    (done : perform (stageAll directory vs) (a, w) = (.ok paths, (a', w'))) :
    paths = ((trees vs).flatMap (treeCopies t directory)).map (·.1) ∧
      Receives t directory (copies ++ (trees vs).flatMap (treeCopies t directory)) w'.files := by
  induction vs generalizing copies a w paths with
  | nil =>
    cases done
    exact ⟨rfl, by simpa [trees] using receives⟩
  | cons v vs inductionHypothesis =>
    obtain ⟨tree, is, done⟩ := perform_ofOutcome_bind_eq_ok.mp done
    rw [trees_cons is] at apart ⊢
    have ⟨here, others⟩ := List.forall_mem_cons.mp apart
    obtain ⟨written, ⟨a1, w1⟩, first, done⟩ := perform_bind_eq_ok.mp done
    obtain ⟨later, ⟨_, _⟩, rest, left⟩ := perform_bind_eq_ok.mp done
    cases left
    obtain ⟨⟨⟨found, probed⟩, copied⟩, -, rfl⟩ := merged_of_stageTree first
    have files := fileCopies receives.plain probed directory
    rw [treeCopies_of_receives plain receives here] at files
    have are := files.imp fun _ _ => FileCopy.of_receives receives here
    obtain ⟨rfl, all⟩ :=
      inductionHypothesis others (receives_of_copied copied receives here are) rest
    rw [List.append_assoc] at all
    refine ⟨?_, all⟩
    rw [List.flatMap_cons, List.map_append, destinations_of_fileCopies are]

end Trees

/-! ### Whole stagings -/

/-- What is to be copied: the resources in their order, then the files of each tree. -/
inductive Collects (p : Program) (s : Settings) (t : FileTree) (directory : Path) : Copies → Prop
  | intro {resources : Copies}
      (gathers : Gathers p t directory (Value.flattenAll (p.metadata .addAssets)) resources) :
      Collects p s t directory (resources ++ (trees s.assets).flatMap (treeCopies t directory))

theorem stage_eq_ok {p : Program} {s : Settings} {a a' : AssetStager} {w w' : World}
    {directory : Path} {written : List Path} (configured : a.staging = some directory)
    (done : perform (stage p s) (a, w) = (.ok written, (a', w'))) :
    ∃ resources trees a0 a1 w0 w1, w0.files = w.files ∧ written = resources ++ trees ∧
      perform (stageResources p directory (Value.flattenAll (p.metadata .addAssets))) (a0, w0) =
        (.ok resources, (a1, w1)) ∧
      perform (stageAll directory s.assets) (a1, w1) = (.ok trees, (a', w')) := by
  rw [stage, perform_bind_ok (perform_state a w)] at done
  simp only [configured] at done
  rw [perform_bind_ok (perform_setState ..)] at done
  obtain ⟨resources, ⟨a1, w1⟩, first, done⟩ := perform_bind_eq_ok.mp done
  obtain ⟨trees, ⟨_, _⟩, rest, is⟩ := perform_bind_eq_ok.mp done
  cases is
  have kept : At (some directory) a1 := by
    have left := (quiet_stageEmbedded p w.asked w.runs ({ a with claims := [] }, w)
      ⟨configured, rfl, rfl⟩).1
    rw [configured, first] at left
    exact left.1
  rw [stageEmbedded, perform_bind_ok (perform_state ..)] at first
  simp only at first
  rw [perform_bind_ok (perform_log ..)] at first
  rw [stageTrees, perform_bind_ok (perform_state ..), kept] at rest
  refine ⟨resources, trees, _, a1, _, w1, ?_, rfl, first, rest⟩
  rfl

section

variable {p : Program} {s : Settings} {a a' : AssetStager} {w w' : World} {directory : Path}
  {written : List Path}

/-- In a file tree without links, a staging that succeeds has copied everything below the
directory. -/
theorem receives_of_stage (configured : a.staging = some directory) (plain : w.files.Plain)
    (apart : ∀ tree ∈ trees s.assets, Apart w.files directory tree)
    (done : perform (stage p s) (a, w) = (.ok written, (a', w'))) :
    ∃ copies, Collects p s w.files directory copies ∧ written = copies.map (·.1) ∧
      Receives w.files directory copies w'.files := by
  obtain ⟨_, _, a0, a1, w0, w1, same, rfl, first, rest⟩ := stage_eq_ok configured done
  have start : ReceivesFiles w.files directory [] w0.files := by
    rw [same]
    exact ⟨.start plain directory, List.forall_mem_nil _⟩
  obtain ⟨resources, rfl, gathers, receives⟩ := receives_of_stageResources .none start first
  rw [List.nil_append] at gathers receives
  obtain ⟨rfl, receives⟩ := receives_of_stageAll plain apart receives.toReceives rest
  rw [← List.map_append]
  exact ⟨_, .intro gathers, rfl, receives⟩

end

/-- In a file tree without links, a staging that succeeds returns the destinations of the resources
in their order and of all files of the trees. At each location the last copy counts, and all other
files are as they were; but a copy whose destination is a directory goes into this directory. So the
destinations hold what was copied to them exactly if none is a directory. -/
theorem stage_overlays {p : Program} {s : Settings} {a a' : AssetStager} {w w' : World}
    {directory : Path} {written : List Path} (configured : a.staging = some directory)
    (plain : w.files.Plain) (apart : ∀ tree ∈ trees s.assets, Apart w.files directory tree)
    (done : perform (stage p s) (a, w) = (.ok written, (a', w'))) :
    ∃ copies, Collects p s w.files directory copies ∧ written = copies.map (·.1) ∧
      Overlaid w.files copies w'.files.landing w'.files ∧
      (Overlaid w.files copies w.files.place w'.files ↔
        ∀ destination ∈ written, w'.files.get? (w.files.place destination) ≠ some .directory) := by
  obtain ⟨copies, collects, rfl, receives⟩ := receives_of_stage configured plain apart done
  exact ⟨copies, collects, rfl, receives.overlaid, receives.overlaid_place_iff⟩

/-! Two trees, one of which is a file, and a directory where the file is to be copied. -/

namespace Small

def program : Program where
  classes := [⟨"app.Main", [], [],
    [(.addAssets, [.text "a.png", .list [.text "/./b.png"]])]⟩]
  resources := [("a.png", [1]), ("./b.png", [2])]
  resourcesDir := none

def settings (assets : List Path) : Settings := { Session.Small.settings with assets := assets.map .path }

def icons : FileTree where
  entries := [
    (["icons"], .directory),
    (["icons", "a.png"], .file [3]),
    (["b.png"], .file [4])]
  cwd := []

theorem plain_icons : icons.Plain := by
  refine plain_of_entries ?_ ?_ ?_ ?_ ?_ <;> decide +kernel

def directory : Path := Path.ofText "/assets"

def staged (assets : List Path) (t : FileTree) : Outcome (List Path) × AssetStager × World :=
  perform (stage program (settings assets)) (.new (some directory), .ofFiles t)

def assets : List Path := [Path.ofText "/icons", Path.ofText "b.png"]

def written : List Path := [Path.ofText "/assets/a.png", Path.ofText "/assets/b.png",
  Path.ofText "/assets/a.png", Path.ofText "/assets/b.png"]

theorem staged_icons : (staged assets icons).1 = .ok written := by
  have are : (staged assets icons).1.toOption = some written := by decide +kernel
  cases result : (staged assets icons).1 with
  | error e =>
    rw [result] at are
    cases are
  | ok paths =>
    rw [result] at are
    exact congrArg _ (Option.some.inj are)

def after : FileTree := (staged assets icons).2.2.files

/-- There is a directory with the name of the file. -/
def blocked : FileTree where
  entries := [
    (["assets"], .directory),
    (["assets", "b.png"], .directory),
    (["assets", "b.png", "b.png"], .file [5]),
    (["b.png"], .file [4])]
  cwd := []

end Small

/-- Both resources are overwritten by files of the trees, and no destination is a directory. -/
theorem stage_overlays_trees :
    ∃ copies, Collects Small.program (Small.settings Small.assets) Small.icons Small.directory
        copies ∧
      Small.written = copies.map (·.1) ∧
      Overlaid Small.icons copies Small.icons.place Small.after := by
  have apart : ∀ tree ∈ trees (Small.settings Small.assets).assets,
      Apart Small.icons Small.directory tree := by
    decide +kernel
  have done : Small.staged Small.assets Small.icons = (.ok Small.written,
      (Small.staged Small.assets Small.icons).2.1,
      (Small.staged Small.assets Small.icons).2.2) := by
    rw [← Small.staged_icons]
  have flat : ∀ destination ∈ Small.written,
      Small.after.get? (Small.icons.place destination) ≠ some .directory := by
    decide +kernel
  obtain ⟨copies, collects, returned, -, held⟩ :=
    stage_overlays (w := .ofFiles Small.icons) rfl Small.plain_icons apart done
  exact ⟨copies, collects, returned, held.mpr flat⟩

/-- The file goes into the directory and overwrites a file there, which was not returned. -/
theorem stage_into_directory :
    let result := perform (stage ⟨[], [], none⟩ (Small.settings [Path.ofText "b.png"]))
      (.new (some Small.directory), .ofFiles Small.blocked)
    result.1.toOption = some [Path.ofText "/assets/b.png"] ∧
      result.2.2.files.bytesAt ["assets", "b.png"] = none ∧
      Small.blocked.bytesAt ["assets", "b.png", "b.png"] = some [5] ∧
      result.2.2.files.bytesAt ["assets", "b.png", "b.png"] = some [4] := by
  decide +kernel

end AssetStager

end HaxeBuild
