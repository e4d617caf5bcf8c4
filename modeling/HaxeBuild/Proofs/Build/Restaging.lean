import HaxeBuild.Proofs.Build.Staging
import HaxeBuild.Proofs.Build.Writes

namespace HaxeBuild

open Effect HaxeBuild.Action

namespace AssetStager

open FileTree (Later)

/-- What is read for a staging is the same in both trees: the declared resources, and the files of
the trees of the settings. -/
structure Undisturbed (p : Program) (s : Settings) (directory : Path) (t t' : FileTree) : Prop where
  resources : ∀ v ∈ Value.flattenAll (p.metadata .addAssets), ∀ path, pathText v = .ok path →
    p.resource t' path = p.resource t path
  trees : ∀ tree ∈ AssetStager.trees s.assets, copies t' directory tree = copies t directory tree
  files : ∀ tree ∈ AssetStager.trees s.assets, ∀ file ∈ copies t directory tree,
    t'.content? file.1 = t.content? file.1

/-! ### Directories apart from what is staged -/

/-- A resource that a program declares is in memory or in a file outside of the directory. -/
inductive Available (p : Program) (t : FileTree) (directory : Path) (path : Text) : Prop where
  | stored {content : Bytes} (found : (p.resources.lookup (Text.dropLeading (.char '/') path)).or
      (p.resources.lookup path) = some content)
  | outside {root : Path} {l : Location} {content : Bytes}
      (absent : (p.resources.lookup (Text.dropLeading (.char '/') path)).or
        (p.resources.lookup path) = none) (searched : p.resourcesDir = some root)
      (found : t.probe (root ++ Path.ofText (Text.dropLeading (.char '/') path)) =
        .ok (some (l, .file content)))
      (apart : ¬ t.place directory <+: l)

section Apart

variable {p : Program} {s : Settings} {t t' : FileTree} {directory tree path : Path}
  {copies : Copies} {l : Location} {content : Bytes}

/-- Files outside of the directory that received the copies are found as before. -/
theorem probe_outside (later : Later t t') (receives : FileTree.Receives t directory copies t')
    (outside : ¬ t.place directory <+: l) (found : t.probe path = .ok (some (l, .file content))) :
    t'.probe path = .ok (some (l, .file content)) := by
  obtain ⟨now, there, found'⟩ := later.probe_file found
  have same := receives.bytesAt_outside outside
  rw [FileTree.bytesAt_eq_some.mpr there,
    FileTree.bytesAt_eq_some.mpr (FileTree.file_of_probe found)] at same
  cases same
  exact found'

theorem isFile_of_copies {file : Path × Path} (among : file ∈ AssetStager.copies t directory tree) :
    t.isFile file.1 = true := by
  rw [AssetStager.copies] at among
  split at among
  · rename_i itself
    cases List.mem_singleton.mp among
    exact itself
  · obtain ⟨source, listed, rfl⟩ := List.mem_map.mp among
    rw [Disk.filesBelow] at listed
    split at listed
    · exact (List.mem_filter.mp listed).2
    · cases listed

theorem resource_of_available (later : Later t t')
    (receives : FileTree.Receives t directory copies t') {name : Text}
    (available : Available p t directory name) : p.resource t' name = p.resource t name := by
  cases available with
  | stored found =>
    rw [FileTree.resource_eq_ok.mpr (.inl found), FileTree.resource_eq_ok.mpr (.inl found)]
  | outside absent searched found apart =>
    have found' := probe_outside later receives apart found
    rw [FileTree.resource_eq_ok.mpr (.inr ⟨absent, _, searched, _, found⟩),
      FileTree.resource_eq_ok.mpr (.inr ⟨absent, _, searched, _, found'⟩)]

/-- A tree that is there, apart from the directory, lists the same files. -/
theorem copies_of_apart (plain : t.Plain) (later : Later t t')
    (receives : FileTree.Receives t directory copies t') (apart : Apart t directory tree)
    {found : Location × Entry} (probed : t.probe tree = .ok (some found)) :
    AssetStager.copies t' directory tree = AssetStager.copies t directory tree := by
  obtain ⟨l, e⟩ := found
  obtain ⟨is, there⟩ := plain.get?_of_probe probed
  have entry : t.entry? tree = some (l, e) := FileTree.found_of_probe probed
  cases e with
  | link target => exact absurd there (plain.noLinks _ target)
  | file content =>
    have isFile : t.isFile tree = true := by rw [FileTree.isFile, FileTree.content?, entry]; rfl
    rw [AssetStager.copies, AssetStager.copies, if_pos isFile, if_pos (later.isFile isFile)]
  | directory =>
    have probed' := later.probe_directory probed
    have entry' : t'.entry? tree = some (l, .directory) := FileTree.found_of_probe probed'
    have isFile : t.isFile tree = false := by rw [FileTree.isFile, FileTree.content?, entry]; rfl
    have isFile' : t'.isFile tree = false := by
      rw [FileTree.isFile, FileTree.content?, entry']
      rfl
    have same : t'.filesUnder l = t.filesUnder l := plain.filesUnder_congr receives.plain
      fun names => receives.bytesAt_outside (apart.outside (is ▸ List.prefix_append _ _))
    rw [AssetStager.copies, AssetStager.copies, isFile, isFile', if_neg Bool.false_ne_true,
      if_neg Bool.false_ne_true, plain.filesBelow_eq probed, receives.plain.filesBelow_eq probed',
      same]

/-- Its files have the same contents. -/
theorem content?_of_apart (plain : t.Plain) (later : Later t t')
    (receives : FileTree.Receives t directory copies t') (apart : Apart t directory tree)
    {found : Location × Entry} (probed : t.probe tree = .ok (some found)) {file : Path × Path}
    (among : file ∈ AssetStager.copies t directory tree) :
    t'.content? file.1 = t.content? file.1 := by
  have each := (fileCopies plain probed directory).imp fun file copy is =>
    And.intro (⟨copy, is⟩ : ∃ copy, FileCopy t directory tree file copy) is
  obtain ⟨copy, is⟩ := ((List.forall₂_and_left _ _).mp each).1 file among
  obtain ⟨content, read⟩ := Option.isSome_iff_exists.mp (isFile_of_copies among)
  obtain ⟨l, found⟩ := FileTree.content?_eq_some.mp read
  have outside : ¬ t.place directory <+: l := by
    rw [(plain.get?_of_probe found).1]
    exact apart.outside is.among
  rw [read]
  exact FileTree.content?_eq_some.mpr ⟨l, probe_outside later receives outside found⟩

/-- Without links, a staging disturbs nothing that was outside of its directory when it began. -/
theorem undisturbed_of_apart {a a' : AssetStager} {w w' : World} {written : List Path}
    (configured : a.staging = some directory) (plain : w.files.Plain)
    (resources : ∀ v ∈ Value.flattenAll (p.metadata .addAssets), ∀ name, pathText v = .ok name →
      Available p w.files directory name)
    (trees : ∀ tree ∈ AssetStager.trees s.assets, Apart w.files directory tree ∧
      ∃ found, w.files.probe tree = .ok (some found))
    (done : perform (stage p s) (a, w) = (.ok written, (a', w'))) :
    Undisturbed p s directory w.files w'.files := by
  obtain ⟨copies, -, -, receives⟩ :=
    receives_of_stage configured plain (fun tree among => (trees tree among).1) done
  obtain ⟨writes, finish, -, left⟩ := reports_stage (p := p) (s := s) configured w
  rw [done] at left
  have later := (steady_later w.files).stages left.goes [] (.refl _)
  refine ⟨fun v among name named => ?_, fun tree among => ?_, fun tree among file listed => ?_⟩
  · exact resource_of_available later receives (resources v among name named)
  · obtain ⟨apart, found, probed⟩ := trees tree among
    exact copies_of_apart plain later receives apart probed
  · obtain ⟨apart, found, probed⟩ := trees tree among
    exact content?_of_apart plain later receives apart probed listed

end Apart

/-! ### Two runs side by side -/

/-- The first run has come from one tree to another and will end with a third one. The second run,
which started there, is in a tree of its own: both have written the same at the same locations. -/
structure Mirrors (start finish t u : FileTree) (written : List Location) : Prop where
  since : Later start t
  kept : ∀ l, l ∉ written → ∀ content, start.get? l = some (.file content) →
    t.get? l = some (.file content)
  same : ∀ l ∈ written, ∃ content, t.get? l = some (.file content) ∧
    u.get? l = some (.file content)
  rest : ∀ l, l ∉ written → u.get? l = finish.get? l
  cwd : u.cwd = finish.cwd
  listed : u.entries.map (·.1) = finish.entries.map (·.1)

namespace Mirrors

variable {start finish t t' u : FileTree} {written : List Location}

theorem init (start finish : FileTree) : Mirrors start finish start finish [] where
  since := .refl start
  kept := fun _ _ _ there => there
  same := List.forall_mem_nil _
  rest := fun _ _ => rfl
  cwd := rfl
  listed := rfl

/-- The second run is ahead of the first one. -/
theorem ahead (mirrors : Mirrors start finish t u written) (later : Later t finish) :
    Later t u where
  cwd := mirrors.cwd.trans later.cwd
  links := fun l target => by
    by_cases among : l ∈ written
    · obtain ⟨content, here, there⟩ := mirrors.same l among
      rw [here, there]
    · rw [mirrors.rest l among]
      exact later.links l target
  directories := fun l directory => by
    by_cases among : l ∈ written
    · obtain ⟨content, here, there⟩ := mirrors.same l among
      rw [here] at directory
      cases directory
    · rw [mirrors.rest l among]
      exact later.directories l directory
  files := fun l content file => by
    by_cases among : l ∈ written
    · obtain ⟨content, here, there⟩ := mirrors.same l among
      exact ⟨content, there⟩
    · rw [mirrors.rest l among]
      exact later.files l content file
  listed := by
    rw [mirrors.listed]
    exact later.listed

/-- It never has more than what the first run ends with. -/
theorem behind (mirrors : Mirrors start finish t u written) (later : Later t finish) :
    Later u finish where
  cwd := mirrors.cwd.symm
  links := fun l target => by
    by_cases among : l ∈ written
    · obtain ⟨content, here, there⟩ := mirrors.same l among
      obtain ⟨now, file⟩ := later.files l content here
      rw [there, file]
      exact ⟨nofun, nofun⟩
    · rw [mirrors.rest l among]
  directories := fun l directory => by
    by_cases among : l ∈ written
    · obtain ⟨content, here, there⟩ := mirrors.same l among
      rw [there] at directory
      cases directory
    · rwa [← mirrors.rest l among]
  files := fun l content file => by
    by_cases among : l ∈ written
    · obtain ⟨content, here, there⟩ := mirrors.same l among
      exact later.files l content here
    · exact ⟨content, by rwa [← mirrors.rest l among]⟩
  listed := by rw [mirrors.listed]

/-- Directories can be made in the first run. -/
theorem make (mirrors : Mirrors start finish t u written) {p : Path}
    (made : perform (Disk.ensureDirectory p) t = (.ok (), t')) :
    Mirrors start finish t' u written := by
  have grows := (FileTree.keeps_grows_ensureDirectory t p t (.refl t)).1
  rw [made] at grows
  refine ⟨mirrors.since.trans (Disk.later_of_ensureDirectory made), fun l fresh content there => ?_,
    fun l among => ?_, mirrors.rest, mirrors.cwd, mirrors.listed⟩
  · exact grows.get?_eq (mirrors.kept l fresh content there)
  · obtain ⟨content, here, there⟩ := mirrors.same l among
    exact ⟨content, grows.get?_eq here, there⟩

/-- Both runs can write the same. -/
theorem write (mirrors : Mirrors start finish t u written) {p : Path} {l : Location}
    {content : Bytes} (opens : t.Opens p l) (later : Later (t.set l (.file content)) finish) :
    Mirrors start finish (t.set l (.file content)) (u.set l (.file content)) (written ++ [l]) := by
  have now (t : FileTree) (l' : Location) :=
    FileTree.get?_set t l l' (.file content) opens.named
  refine ⟨mirrors.since.trans (.write opens content), ?_, ?_, ?_, mirrors.cwd, ?_⟩
  · intro l' fresh old there
    rw [List.mem_append, List.mem_singleton, not_or] at fresh
    rw [now, if_neg fresh.2]
    exact mirrors.kept l' fresh.1 old there
  · intro l' among
    rw [now, now]
    by_cases here : l' = l
    · rw [if_pos here, if_pos here]
      exact ⟨content, rfl, rfl⟩
    · rw [if_neg here, if_neg here]
      refine mirrors.same l' ?_
      rcases List.mem_append.mp among with earlier | new
      · exact earlier
      · exact absurd (List.mem_singleton.mp new) here
  · intro l' fresh
    rw [List.mem_append, List.mem_singleton, not_or] at fresh
    rw [now, if_neg fresh.2]
    exact mirrors.rest l' fresh.1
  · obtain ⟨_, there⟩ := later.files l content ((now t l).trans (if_pos rfl))
    have listed := FileTree.mem_listed opens.named there
    rw [FileTree.set, FileTree.map_fst_setIn, mirrors.listed, if_pos listed]

/-- Where the first run writes a file, there is one in the second run. -/
theorem file_there (mirrors : Mirrors start finish t u written) {l : Location} {content : Bytes}
    (named : l ≠ []) (later : Later (t.set l (.file content)) finish) :
    ∃ last, u.get? l = some (.file last) := by
  by_cases among : l ∈ written
  · obtain ⟨last, -, there⟩ := mirrors.same l among
    exact ⟨last, there⟩
  · rw [mirrors.rest l among]
    refine later.files l content ?_
    rw [FileTree.get?_set t l l _ named, if_pos rfl]

/-- The second run reads what the first run has read. -/
theorem read (mirrors : Mirrors start finish t u written) (later : Later t finish) {source : Path}
    {origin : Location} {content : Bytes}
    (held : finish.content? source = start.content? source)
    (found : t.probe source = .ok (some (origin, .file content))) :
    u.probe source = .ok (some (origin, .file content)) := by
  have here := FileTree.file_of_probe found
  obtain ⟨now, there, again⟩ := (mirrors.ahead later).probe_file found
  by_cases among : origin ∈ written
  · obtain ⟨old, first, second⟩ := mirrors.same origin among
    rw [here] at first
    rw [there] at second
    cases first
    cases second
    exact again
  · rw [mirrors.rest origin among] at there
    obtain ⟨last, ends, probed⟩ := later.probe_file found
    rw [there] at ends
    cases ends
    rw [FileTree.content?_eq_some.mpr ⟨origin, probed⟩] at held
    obtain ⟨l, begins⟩ := FileTree.content?_eq_some.mp held.symm
    obtain ⟨_, -, same⟩ := mirrors.since.probe_file begins
    rw [found] at same
    cases same
    rw [mirrors.kept _ among _ (FileTree.file_of_probe begins)] at here
    cases here
    exact again

end Mirrors

/-- Where the first run takes a step to its end, the second run takes the same one. -/
def Replays (start finish : FileTree) (going : Going) : Prop :=
  ∀ ⦃t u t' u' written writes more ending⦄, Mirrors start finish t u written →
    Later t' finish → going t writes .complete t' → going u more ending u' →
      more = writes ∧ ending = .complete ∧
        Mirrors start finish t' u' (written ++ writes.map (·.location))

section Replays

variable {p : Program} {s : Settings} {directory tree : Path} {start finish : FileTree}

/-- Steps that lead to later trees are replayed one after the other. -/
theorem replays_each {ι : Type} {going : ι → Going} {is : List ι}
    (steady : ∀ t, ∀ i ∈ is, Preserves (fun t' _ => Later t t') (going i))
    (replays : ∀ i ∈ is, Replays start finish (going i)) :
    Replays start finish (Each going is) := by
  intro t u t' u' written writes more ending mirrors later first second
  generalize complete : Finish.complete = ended at first
  induction first generalizing u written more ending with
  | none =>
    cases second
    rw [List.map_nil, List.append_nil]
    exact ⟨rfl, rfl, mirrors⟩
  | @next i is t t1 t' writes rest ended here others inductionHypothesis =>
    subst complete
    have afterwards : Later t1 finish :=
      (preserves_each (fun j among => steady t1 j (List.mem_cons_of_mem i among)) others []
        (.refl t1)).trans later
    cases second with
    | next also others' =>
      obtain ⟨rfl, -, mirrors⟩ := replays i List.mem_cons_self mirrors afterwards here also
      obtain ⟨rfl, rfl, mirrors⟩ := inductionHypothesis
        (fun t j among => steady t j (List.mem_cons_of_mem i among))
        (fun j among => replays j (List.mem_cons_of_mem i among)) mirrors later others' rfl
      rw [List.map_append, ← List.append_assoc]
      exact ⟨rfl, rfl, mirrors⟩
    | stopped also =>
      obtain ⟨-, impossible, -⟩ := replays i List.mem_cons_self mirrors afterwards here also
      cases impossible
  | stopped => cases complete

/-- A write is replayed if the same can be written in the second run, and nothing else. -/
theorem replays_fills {wrote : FileTree → Location → Bytes → Prop} {c : Claim}
    (opens : ∀ t l content, wrote t l content → t.Opens (copyPath t c.destination) l)
    (unique : ∀ t l content l' content', wrote t l content → wrote t l' content' →
      l' = l ∧ content' = content)
    (again : ∀ ⦃t u written l content⦄, Mirrors start finish t u written → Later t finish →
      (∃ last, u.get? l = some (.file last)) → wrote t l content → wrote u l content) :
    Replays start finish (Fills wrote c) := by
  intro t u t' u' written writes more ending mirrors later first second
  cases first with
  | @written content _ t1 l made done =>
    have opens := opens _ _ _ done
    have mirrors := mirrors.make made
    have before : Later t1 finish := (Later.write opens content).trans later
    have also := again mirrors before (mirrors.file_there opens.named later) done
    -- The directories are there, so the second run has only the file to write.
    obtain ⟨above, there⟩ := Disk.directory_of_ensureDirectory made
    have ready := Disk.perform_ensureDirectory_there ((mirrors.ahead before).probe_directory there)
    cases second with
    | unwritten made' blocked =>
      rw [ready] at made'
      cases made'
      exact absurd also (blocked rfl l content)
    | written made' done' =>
      rw [ready] at made'
      cases made'
      obtain ⟨rfl, rfl⟩ := unique _ _ _ _ _ also done'
      exact ⟨rfl, rfl, mirrors.write opens later⟩

theorem Saves.unique {path : Text} {destination : Path} {t : FileTree} {l l' : Location}
    {content content' : Bytes} (saves : Saves p path destination t l content)
    (also : Saves p path destination t l' content') : l' = l ∧ content' = content := by
  obtain ⟨found, opens⟩ := saves
  obtain ⟨found', opens'⟩ := also
  rw [found] at found'
  cases found'
  have same := opens.resolve_eq
  rw [opens'.resolve_eq] at same
  cases same
  exact ⟨rfl, rfl⟩

/-- A resource that the first run has read is read again. -/
theorem Mirrors.resource {t u : FileTree} {written : List Location} {path : Text} {content : Bytes}
    (mirrors : Mirrors start finish t u written) (later : Later t finish)
    (held : p.resource finish path = p.resource start path)
    (found : p.resource t path = .ok content) : p.resource u path = .ok content := by
  rcases FileTree.resource_eq_ok.mp found with stored | ⟨absent, root, searched, origin, probed⟩
  · exact FileTree.resource_eq_ok.mpr (.inl stored)
  · refine FileTree.resource_eq_ok.mpr (.inr ⟨absent, root, searched, origin, ?_⟩)
    refine mirrors.read later ?_ probed
    obtain ⟨last, -, ends⟩ := later.probe_file probed
    have among := FileTree.resource_eq_ok.mpr (.inr ⟨absent, root, searched, origin, ends⟩)
    rw [held] at among
    rcases FileTree.resource_eq_ok.mp among with stored | ⟨-, root', searched', l, begins⟩
    · rw [absent] at stored
      cases stored
    · rw [searched] at searched'
      cases searched'
      rw [FileTree.content?_eq_some.mpr ⟨origin, ends⟩, FileTree.content?_eq_some.mpr ⟨l, begins⟩]

theorem replays_saves {path : Text} {destination : Path}
    (held : p.resource finish path = p.resource start path) :
    Replays start finish (Fills (Saves p path destination) ⟨.resource path, destination⟩) := by
  refine replays_fills (fun _ _ _ saves => saves.opens) (fun _ _ _ _ _ => Saves.unique) ?_
  rintro t u written l content mirrors later ⟨last, there⟩ ⟨found, opens⟩
  exact ⟨mirrors.resource later held found, .file ((mirrors.ahead later).opens opens there)⟩

theorem replays_stores {v : Value}
    (held : ∀ path, pathText v = .ok path → p.resource finish path = p.resource start path) :
    Replays start finish (Stores p directory v) := by
  intro t u t' u' written writes more ending mirrors later first second
  cases first with
  | @accepted path destination _ _ _ _ named inside fills =>
    have again : u.contained directory path = .ok destination := by
      cases fills with
      | written made saves =>
        have ready := mirrors.make made
        have before := (Later.write saves.2 _).trans later
        obtain ⟨last, there⟩ := ready.file_there saves.2.named later
        have opens := FileTree.Opens.file ((ready.ahead before).opens saves.2 there)
        exact (mirrors.ahead ((Disk.later_of_ensureDirectory made).trans before)).contained inside
          opens
    cases second with
    | refused refused => exact absurd again (refused path named destination)
    | accepted named' inside' fills' =>
      rw [named] at named'
      cases named'
      rw [again] at inside'
      cases inside'
      exact replays_saves (held path named) mirrors later fills fills'

theorem replays_duplicates {file : Path × Path} (named : file.1.name = file.2.name)
    (held : finish.content? file.1 = start.content? file.1) :
    Replays start finish (Duplicates file) := by
  refine replays_fills (fun t l content delivers => ?_) (fun t l content l' content' => ?_) ?_
  · rw [copyPath, ← named]
    exact delivers.opens
  · rintro ⟨opens, origin, found, -⟩ ⟨opens', origin', found', -⟩
    have same := opens.resolve_eq
    rw [opens'.resolve_eq] at same
    rw [found] at found'
    cases same
    cases found'
    exact ⟨rfl, rfl⟩
  · rintro t u written l content mirrors later ⟨last, there⟩ ⟨opens, origin, found, other⟩
    have ahead := mirrors.ahead later
    refine ⟨?_, origin, mirrors.read later held found, other⟩
    rw [ahead.isDirectory_eq opens there]
    exact .file (ahead.opens opens there)

/-- Later there are at least as many files to copy. -/
theorem copies_sublist {t u : FileTree} (later : Later t u) (directory tree : Path) :
    (copies t directory tree).Sublist (copies u directory tree) := by
  rw [copies, copies]
  cases before : t.isFile tree with
  | true =>
    rw [later.isFile before, if_pos rfl, if_pos rfl]
  | false =>
    rw [if_neg Bool.false_ne_true]
    cases now : u.isFile tree with
    | false =>
      rw [if_neg Bool.false_ne_true]
      exact (later.filesBelow tree).map _
    | true =>
      have nothing : Disk.filesBelow t tree = [] := by
        rw [Disk.filesBelow]
        split
        · rename_i l there
          obtain ⟨content, read⟩ := Option.isSome_iff_exists.mp now
          obtain ⟨_, found⟩ := FileTree.content?_eq_some.mp read
          rw [later.probe_directory (FileTree.probe_of_found there)] at found
          cases found
        · rfl
      rw [nothing, List.map_nil]
      exact List.nil_sublist _

theorem replays_merges
    (listed : copies finish directory tree = copies start directory tree)
    (held : ∀ file ∈ copies start directory tree,
      finish.content? file.1 = start.content? file.1) :
    Replays start finish (Merges directory tree) := by
  intro t u t' u' written writes more ending mirrors later first second
  cases first with
  | @merged found _ _ _ _ present files =>
    have steady (t : FileTree) (file : Path × Path) (among : file ∈ copies start directory tree) :
        Preserves (fun t' _ => Later t t') (Duplicates file) :=
      (steady_later t).duplicates (name_of_copies among)
    have before : Later t finish :=
      ((steady_later t).merges tree (.merged present files) [] (.refl t)).trans later
    have ahead := mirrors.ahead before
    -- Trees only grow, and in the end there are the files of the beginning.
    have least := copies_sublist mirrors.since directory tree
    have most := copies_sublist (mirrors.behind before) directory tree
    have between := copies_sublist ahead directory tree
    rw [listed] at most
    have same : copies t directory tree = copies start directory tree :=
      (between.trans most).antisymm least
    have same' : copies u directory tree = copies start directory tree :=
      most.antisymm (least.trans between)
    cases second with
    | missing absent =>
      obtain ⟨found, there⟩ := ahead.probe_there present
      exact absurd there (absent found)
    | merged present' files' =>
      rw [same] at files
      rw [same'] at files'
      exact replays_each steady
        (fun file among => replays_duplicates (name_of_copies among) (held file among))
        mirrors later files files'

theorem replays_takes {v : Value}
    (listed : ∀ tree, treePath v = .ok tree →
      copies finish directory tree = copies start directory tree)
    (held : ∀ tree, treePath v = .ok tree → ∀ file ∈ copies start directory tree,
      finish.content? file.1 = start.content? file.1) :
    Replays start finish (Takes directory v) := by
  intro t u t' u' written writes more ending mirrors later first second
  cases first with
  | @named tree _ _ _ _ named merges =>
    cases second with
    | unnamed unnamed => exact absurd named (unnamed tree)
    | named again merges' =>
      cases named.symm.trans again
      exact replays_merges (listed tree named) (held tree named) mirrors later merges merges'

theorem mem_trees {v : Value} {vs : List Value} {tree : Path} (among : v ∈ vs)
    (named : treePath v = .ok tree) : tree ∈ trees vs := by
  refine List.mem_filterMap.mpr ⟨v, among, ?_⟩
  rw [named]
  rfl

/-- The second staging repeats the first one. -/
theorem replays_stages (undisturbed : Undisturbed p s directory start finish) :
    Replays start finish (Stages p s directory) := by
  intro t u t' u' written writes more ending mirrors later first second
  have stores : Replays start finish (Each (Stores p directory) _) :=
    replays_each (fun t v _ => (steady_later t).stores v)
      fun v among => replays_stores (undisturbed.resources v among)
  have takes : Replays start finish (Each (Takes directory) s.assets) := by
    refine replays_each (fun t v _ => (steady_later t).takes v) fun v among => ?_
    refine replays_takes (fun tree named => ?_) (fun tree named => ?_)
    · exact undisturbed.trees tree (mem_trees among named)
    · exact undisturbed.files tree (mem_trees among named)
  cases first with
  | @stored _ t1 _ _ _ _ resources trees =>
    have afterwards : Later t1 finish :=
      (preserves_each (fun v _ => (steady_later t1).takes v) trees [] (.refl t1)).trans later
    cases second with
    | stopped resources' =>
      obtain ⟨-, impossible, -⟩ := stores mirrors afterwards resources resources'
      cases impossible
    | stored resources' trees' =>
      obtain ⟨rfl, -, mirrors⟩ := stores mirrors afterwards resources resources'
      obtain ⟨rfl, rfl, mirrors⟩ := takes mirrors later trees trees'
      rw [List.map_append, ← List.append_assoc]
      exact ⟨rfl, rfl, mirrors⟩

end Replays

/-- A staging that has succeeded and left what it read as it was succeeds again. It returns the same
destinations, and all files are as they were before. -/
theorem stage_again {p : Program} {s : Settings} {a a1 : AssetStager} {w w1 : World}
    {paths : List Path}
    (undisturbed : ∀ directory, a.staging = some directory →
      Undisturbed p s directory w.files w1.files)
    (done : perform (stage p s) (a, w) = (.ok paths, (a1, w1))) :
    ∃ a2 w2, perform (stage p s) (a1, w1) = (.ok paths, (a2, w2)) ∧
      ∀ l, w2.files.get? l = w1.files.get? l := by
  cases configured : a.staging with
  | none =>
    have idle (w : World) : ∃ log, perform (stage p s) (a, w) = (.ok [], (a, { w with log })) := by
      refine ⟨w.log ++ [⟨.debug, "No staging directory configured, skipping assets"⟩], ?_⟩
      rw [stage, perform_bind_ok (perform_state a w)]
      simp only [configured]
      rw [perform_bind_ok (perform_log ..)]
      rfl
    obtain ⟨log, first⟩ := idle w
    rw [first] at done
    cases done
    obtain ⟨log, second⟩ := idle { w with log }
    exact ⟨_, _, second, fun _ => rfl⟩
  | some directory =>
    obtain ⟨writes, finish, answers, left⟩ := reports_stage (p := p) (s := s) configured w
    rw [done] at answers left
    obtain ⟨rfl, returned⟩ := answers
    obtain ⟨more, ending, answers, again⟩ := reports_stage (p := p) (s := s) left.staging w1
    obtain ⟨rfl, rfl, mirrors⟩ := replays_stages (undisturbed directory configured)
      (.init w.files w1.files) (.refl w1.files) left.goes again.goes
    rcases performed : perform (stage p s) (a1, w1) with ⟨e | paths', a2, w2⟩
    · rw [performed] at answers
      obtain ⟨last, impossible⟩ := answers
      cases impossible
    · rw [performed] at answers mirrors
      obtain ⟨-, same⟩ := answers
      refine ⟨a2, w2, ?_, fun l => ?_⟩
      · rw [show paths' = paths from same.trans returned.symm]
      · by_cases among : l ∈ [] ++ more.map (·.location)
        · obtain ⟨content, before, after⟩ := mirrors.same l among
          rw [before, after]
        · exact mirrors.rest l among

/-- Two resources and two trees are staged twice. -/
theorem stage_again_trees :
    ∃ a w, perform (stage Small.program (Small.settings Small.assets))
        ((Small.staged Small.assets Small.icons).2.1,
          (Small.staged Small.assets Small.icons).2.2) = (.ok Small.written, (a, w)) ∧
      ∀ l, w.files.get? l = Small.after.get? l := by
  have done : Small.staged Small.assets Small.icons = (.ok Small.written,
      (Small.staged Small.assets Small.icons).2.1,
      (Small.staged Small.assets Small.icons).2.2) := by
    rw [← Small.staged_icons]
  have resources : ∀ v ∈ Value.flattenAll (Small.program.metadata .addAssets), ∀ name,
      pathText v = .ok name → Available Small.program Small.icons Small.directory name := by
    have declared : Value.flattenAll (Small.program.metadata .addAssets) =
      [.text "a.png", .text "/./b.png"] := rfl
    rw [declared]
    simp only [List.forall_mem_cons, List.not_mem_nil, false_implies, implies_true, and_true]
    refine ⟨fun name named => ?_, fun name named => ?_⟩
    · cases named
      exact .stored rfl
    · cases named
      exact .stored rfl
  have there : ∀ tree ∈ Small.assets, ∃ found, Small.icons.probe tree = .ok (some found) := by
    have entries : ∀ tree ∈ Small.assets, (Small.icons.entry? tree).isSome := by decide +kernel
    intro tree among
    obtain ⟨found, is⟩ := Option.isSome_iff_exists.mp (entries tree among)
    exact ⟨found, FileTree.probe_of_found is⟩
  have apart : ∀ tree ∈ Small.assets, Apart Small.icons Small.directory tree := by
    decide +kernel
  refine stage_again (w := .ofFiles Small.icons) (fun directory is => ?_) done
  cases is
  exact undisturbed_of_apart rfl Small.plain_icons resources
    (fun tree among => ⟨apart tree among, there tree among⟩) done

namespace Small

def single : FileTree where
  entries := [(["a.txt"], .file [1])]
  cwd := []

/-- The tree is the working directory, which the staging directory is in. -/
def around : Outcome (List Path) × AssetStager × World :=
  perform (stage ⟨[], [], none⟩ (settings [Path.ofText "."]))
    (.new (some (Path.ofText "assets")), .ofFiles single)

theorem copies_around : (⟨0, ["assets", "a.txt"]⟩, ⟨0, ["assets", "assets", "a.txt"]⟩) ∈
    copies around.2.2.files (Path.ofText "assets") (Path.ofText ".") := by
  have notFile : around.2.2.files.isFile (Path.ofText ".") = false := by decide +kernel
  have here : around.2.2.files.entry? (Path.ofText ".") = some ([], .directory) := by
    decide +kernel
  rw [copies, notFile, if_neg Bool.false_ne_true, Disk.filesBelow, here]
  refine List.mem_map.mpr
    ⟨⟨0, ["assets", "a.txt"]⟩, List.mem_filter.mpr ⟨?_, ?_⟩, by decide +kernel⟩
  · refine List.mem_map.mpr ⟨["assets", "a.txt"], List.mem_mergeSort.mpr ?_, by decide +kernel⟩
    decide +kernel
  · decide +kernel

end Small

/-- The second staging copies what the first one wrote. -/
theorem stage_copies_itself :
    Small.around.1.toOption = some [Path.ofText "assets/a.txt"] ∧
      (perform (stage ⟨[], [], none⟩ (Small.settings [Path.ofText "."]))
        (Small.around.2.1, Small.around.2.2)).1.toOption ≠ some [Path.ofText "assets/a.txt"] := by
  refine ⟨by decide +kernel, fun same => ?_⟩
  have configured : Small.around.2.1.staging = some (Path.ofText "assets") := by decide +kernel
  rcases performed : perform (stage ⟨[], [], none⟩ (Small.settings [Path.ofText "."]))
    (Small.around.2.1, Small.around.2.2) with ⟨e | paths, a, w⟩
  · rw [performed] at same
    cases same
  · rw [performed] at same
    cases same
    obtain ⟨resources, trees, a0, a1, w0, w1, files, split, first, rest⟩ :=
      stage_eq_ok configured performed
    cases first
    have whole : (Small.settings [Path.ofText "."]).assets = [.path (Path.ofText ".")] := rfl
    rw [whole, stageAll, treePath, perform_bind_ok (perform_ofOutcome ..)] at rest
    obtain ⟨written, ⟨_, _⟩, merges, rest⟩ := perform_bind_eq_ok.mp rest
    obtain ⟨_, ⟨_, _⟩, others, is⟩ := perform_bind_eq_ok.mp rest
    cases others
    cases is
    obtain ⟨-, -, rfl⟩ := merged_of_stageTree merges
    have among := List.mem_map_of_mem (f := (·.2)) Small.copies_around
    rw [← files] at among
    rw [List.nil_append, List.append_nil] at split
    rw [← split, List.mem_singleton] at among
    exact absurd among (by decide +kernel)

end AssetStager

end HaxeBuild
