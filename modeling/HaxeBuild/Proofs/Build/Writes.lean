import HaxeBuild.Build.Assets
import HaxeBuild.Proofs.Files.Persistence

namespace HaxeBuild

open Effect HaxeBuild.Action

/-- The warnings of a log. -/
def Log.warnings (log : Log) : List Text :=
  log.filterMap fun entry => if entry.level = .warning then some entry.message else none

/-- The warnings of joined logs are those of both. -/
theorem Log.warnings_append (log more : Log) :
    Log.warnings (log ++ more) = log.warnings ++ Log.warnings more :=
  List.filterMap_append ..

namespace AssetStager

open FileTree (Later)

/-- A resource is known by the path that it is declared with, and a file by its path. -/
inductive Source where
  | resource (path : Text)
  | file (path : Path)
  deriving DecidableEq

/-- How a source is spelled in a warning. -/
def Source.text : Source → Text
  | resource path => "resource:" ++ path
  | file path => path.toText

/-- A source claims a destination before anything is written there. -/
structure Claim where
  source : Source
  destination : Path

/-- Bytes of a source that went to a location. -/
structure Write extends Claim where
  location : Location
  content : Bytes

/-- Everything is done, or there is an error, perhaps after one more destination was claimed. -/
inductive Finish where
  | complete
  | stopped (last : Option Claim)

namespace Finish

/-- What was claimed without being written. -/
def claims : Finish → List Claim
  | complete => []
  | stopped last => last.toList

end Finish

/-- What was claimed, in order. -/
def claimed (writes : List Write) (finish : Finish) : List Claim :=
  writes.map (·.toClaim) ++ finish.claims

/-! ### How a staging goes -/

/-- One step goes from a tree to another with what it writes and how it ends. -/
abbrev Going := FileTree → List Write → Finish → FileTree → Prop

/-- The steps go one after the other, up to the first one that stops. -/
inductive Each {ι : Type} (going : ι → Going) : List ι → Going where
  | none {t : FileTree} : Each going [] t [] .complete t
  | next {i : ι} {is : List ι} {t t1 t' : FileTree} {writes more : List Write} {finish : Finish}
      (first : going i t writes .complete t1) (rest : Each going is t1 more finish t') :
      Each going (i :: is) t (writes ++ more) finish t'
  | stopped {i : ι} {is : List ι} {t t' : FileTree} {writes : List Write} {last : Option Claim}
      (first : going i t writes (.stopped last) t') :
      Each going (i :: is) t writes (.stopped last) t'

/-- The directories above a claimed destination are made and it is written, or this fails. -/
inductive Fills (wrote : FileTree → Location → Bytes → Prop) (c : Claim) : Going where
  | unwritten {o : Except Fault Unit} {t t' : FileTree}
      (made : perform (Disk.ensureDirectory c.destination.parent) t = (o, t'))
      (blocked : o = .ok () → ∀ l content, ¬ wrote t' l content) :
      Fills wrote c t [] (.stopped (some c)) t'
  | written {content : Bytes} {t t1 : FileTree} {l : Location}
      (made : perform (Disk.ensureDirectory c.destination.parent) t = (.ok (), t1))
      (done : wrote t1 l content) :
      Fills wrote c t [⟨c, l, content⟩] .complete (t1.set l (.file content))

/-- A resource that is found is written. -/
def Saves (p : Program) (path : Text) (destination : Path) (t : FileTree) (l : Location)
    (content : Bytes) : Prop :=
  p.resource t path = .ok content ∧ t.Opens destination l

/-- A declared resource is written below the directory, unless its path is refused. -/
inductive Stores (p : Program) (directory : Path) (v : Value) : Going where
  | refused {t : FileTree} (refused : ∀ path, pathText v = .ok path →
      ∀ destination, t.contained directory path ≠ .ok destination) :
      Stores p directory v t [] (.stopped none) t
  | accepted {path : Text} {destination : Path} {t t' : FileTree} {writes : List Write}
      {finish : Finish} (named : pathText v = .ok path)
      (inside : t.contained directory path = .ok destination)
      (fills : Fills (Saves p path destination) ⟨.resource path, destination⟩ t writes finish t') :
      Stores p directory v t writes finish t'

/-- A file is copied to its destination. -/
abbrev Duplicates (file : Path × Path) : Going :=
  Fills (fun t => t.Delivers file.1 file.2) ⟨.file file.1, file.2⟩

/-- The files of a tree are copied, if it is there. -/
inductive Merges (directory tree : Path) : Going where
  | missing {t : FileTree} (absent : ∀ found, t.probe tree ≠ .ok (some found)) :
      Merges directory tree t [] (.stopped none) t
  | merged {found : Location × Entry} {t t' : FileTree} {writes : List Write} {finish : Finish}
      (present : t.probe tree = .ok (some found))
      (files : Each Duplicates (copies t directory tree) t writes finish t') :
      Merges directory tree t writes finish t'

/-- A tree that the settings name is copied. What names no tree stops the staging. -/
inductive Takes (directory : Path) (v : Value) : Going where
  | unnamed {t : FileTree} (unnamed : ∀ tree, treePath v ≠ .ok tree) :
      Takes directory v t [] (.stopped none) t
  | named {tree : Path} {t t' : FileTree} {writes : List Write} {finish : Finish}
      (named : treePath v = .ok tree) (merges : Merges directory tree t writes finish t') :
      Takes directory v t writes finish t'

/-- The declared resources are written, then the trees of the settings are copied. -/
inductive Stages (p : Program) (s : Settings) (directory : Path) : Going where
  | stopped {t t' : FileTree} {writes : List Write} {last : Option Claim}
      (resources : Each (Stores p directory) (Value.flattenAll (p.metadata .addAssets)) t writes
        (.stopped last) t') :
      Stages p s directory t writes (.stopped last) t'
  | stored {t t1 t' : FileTree} {writes more : List Write} {finish : Finish}
      (resources : Each (Stores p directory) (Value.flattenAll (p.metadata .addAssets)) t writes
        .complete t1)
      (trees : Each (Takes directory) s.assets t1 more finish t') :
      Stages p s directory t (writes ++ more) finish t'

/-! ### What a staging keeps -/

/-- A copy to a path goes to the path, or under its name into the directory that is there. -/
def copyPath (t : FileTree) (destination : Path) : Path :=
  if t.isDirectory destination then destination.child destination.name else destination

/-- Something about a tree and what was written so far stays true when directories are made, and
when one more file is written. -/
structure Steady (inv : FileTree → List Write → Prop) : Prop where
  later : ∀ {t t' writes}, Later t t' → inv t writes → inv t' writes
  write : ∀ {t writes c l} content, t.Opens (copyPath t c.destination) l → inv t writes →
    inv (t.set l (.file content)) (writes ++ [⟨c, l, content⟩])

/-- A step keeps it. -/
def Preserves (inv : FileTree → List Write → Prop) (going : Going) : Prop :=
  ∀ ⦃t writes finish t'⦄, going t writes finish t' → ∀ before, inv t before →
    inv t' (before ++ writes)

section Steady

variable {inv : FileTree → List Write → Prop} {p : Program} {s : Settings} {directory tree : Path}

/-- What every step preserves is preserved by all of them together. -/
theorem preserves_each {ι : Type} {going : ι → Going} {is : List ι}
    (preserves : ∀ i ∈ is, Preserves inv (going i)) : Preserves inv (Each going is) := by
  intro t writes finish t' goes before holds
  induction goes generalizing before with
  | none => rwa [List.append_nil]
  | next first rest inductionHypothesis =>
    rw [List.forall_mem_cons] at preserves
    rw [← List.append_assoc]
    exact inductionHypothesis preserves.2 _ (preserves.1 first before holds)
  | stopped first => exact preserves _ List.mem_cons_self first before holds

/-- Filling a file that is opened preserves what is steady. -/
theorem Steady.fills (steady : Steady inv) {wrote : FileTree → Location → Bytes → Prop} {c : Claim}
    (opens : ∀ t l content, wrote t l content → t.Opens (copyPath t c.destination) l) :
    Preserves inv (Fills wrote c) := by
  intro t writes finish t' fills before holds
  cases fills with
  | unwritten made blocked =>
    rw [List.append_nil]
    exact steady.later (Disk.later_of_ensureDirectory made) holds
  | written made done =>
    have ready := steady.later (Disk.later_of_ensureDirectory made) holds
    exact steady.write _ (opens _ _ _ done) ready

/-- What is saved is saved into a file that opens. -/
theorem Saves.opens {path : Text} {destination : Path} {t : FileTree} {l : Location}
    {content : Bytes} (saves : Saves p path destination t l content) :
    t.Opens (copyPath t destination) l := by
  rw [copyPath, saves.2.isDirectory_eq, if_neg Bool.false_ne_true]
  exact saves.2

/-- Storing a resource preserves what is steady. -/
theorem Steady.stores (steady : Steady inv) (v : Value) : Preserves inv (Stores p directory v) := by
  intro t writes finish t' stores before holds
  cases stores with
  | refused => rwa [List.append_nil]
  | accepted named inside fills =>
    exact steady.fills (fun _ _ _ saves => saves.opens) fills before holds

/-- Files are copied under their names. -/
theorem name_of_copies {t : FileTree} {file : Path × Path}
    (among : file ∈ copies t directory tree) : file.1.name = file.2.name := by
  rw [copies] at among
  split at among
  · cases List.mem_singleton.mp among
    rw [Path.name_child]
  · obtain ⟨source, listed, rfl⟩ := List.mem_map.mp among
    obtain ⟨names, more, rfl⟩ := FileTree.parts_of_filesBelow listed
    simp only [List.drop_left, Path.name, List.getLastD_eq_getLast?,
      List.getLast?_append_of_ne_nil _ more]

/-- Duplicating a file preserves what is steady. -/
theorem Steady.duplicates (steady : Steady inv) {file : Path × Path}
    (named : file.1.name = file.2.name) : Preserves inv (Duplicates file) := by
  refine steady.fills fun t l content delivers => ?_
  rw [copyPath, ← named]
  exact delivers.opens

/-- Merging a tree preserves what is steady. -/
theorem Steady.merges (steady : Steady inv) (tree : Path) :
    Preserves inv (Merges directory tree) := by
  intro t writes finish t' merges before holds
  cases merges with
  | missing => rwa [List.append_nil]
  | merged present files =>
    exact preserves_each (fun file among => steady.duplicates (name_of_copies among)) files before
      holds

/-- Taking in a declared tree preserves what is steady. -/
theorem Steady.takes (steady : Steady inv) (v : Value) : Preserves inv (Takes directory v) := by
  intro t writes finish t' takes before holds
  cases takes with
  | unnamed => rwa [List.append_nil]
  | named _ merges => exact steady.merges _ merges before holds

/-- What a write keeps is kept by a staging. -/
theorem Steady.stages (steady : Steady inv) : Preserves inv (Stages p s directory) := by
  intro t writes finish t' stages before holds
  cases stages with
  | stopped resources =>
    exact preserves_each (fun v _ => steady.stores v) resources before holds
  | stored resources trees =>
    rw [← List.append_assoc]
    exact preserves_each (fun v _ => steady.takes v) trees _
      (preserves_each (fun v _ => steady.stores v) resources before holds)

end Steady

/-- Being a later state is steady. -/
theorem steady_later (t : FileTree) : Steady fun t' _ => Later t t' where
  later := fun later since => since.trans later
  write := fun content opens since => since.trans (.write opens content)

/-! ### Claims and warnings -/

/-- The latest of the claims to a destination. -/
def latest? (made : List Claim) (destination : Path) : Option Claim :=
  made.reverse.find? (·.destination == destination)

/-- What is logged when a claim takes a destination from another source. -/
def Claim.overwriting (c : Claim) (previous : Source) : Text :=
  "Asset " ++ c.destination.toText ++ " from " ++ c.source.text ++ " overwrites " ++ previous.text

/-- A claim is warned of if its destination was last claimed by a source of another spelling. -/
def warning? (made : List Claim) (c : Claim) : Option Text := do
  let previous ← latest? made c.destination
  if previous.source.text = c.source.text then none else some (c.overwriting previous.source)

/-- The warnings of claims that follow others. -/
def warnings : (made claims : List Claim) → List Text
  | _, [] => []
  | made, c :: claims => (warning? made c).toList ++ warnings (made ++ [c]) claims

/-- Later claims are warned of in view of all earlier ones. -/
theorem warnings_append (made claims more : List Claim) :
    warnings made (claims ++ more) = warnings made claims ++ warnings (made ++ claims) more := by
  induction claims generalizing made with
  | nil => simp [warnings]
  | cons c claims inductionHypothesis => simp [warnings, inductionHypothesis]

/-- The stager remembers the spelling of the latest claim to each destination. -/
def Remembers (a : AssetStager) (made : List Claim) : Prop :=
  ∀ destination, a.claims.lookup destination = (latest? made destination).map (·.source.text)

/-- A claim that is set is found at its destination, and no other changes. -/
theorem lookup_setClaim (destination other : Path) (source : Text) (claims : List (Path × Text)) :
    (setClaim destination source claims).lookup other =
      if other = destination then some source else claims.lookup other := by
  induction claims with
  | nil =>
    by_cases asked : other = destination <;>
      simp [setClaim, List.lookup_cons, asked, beq_false_of_ne]
  | cons entry rest inductionHypothesis =>
    obtain ⟨d, old⟩ := entry
    by_cases same : d = destination
    · subst same
      by_cases asked : other = d <;> simp [setClaim, List.lookup_cons, asked, beq_false_of_ne]
    · by_cases asked : other = d
      · subst asked
        simp [setClaim, same]
      · simp [setClaim, same, List.lookup_cons, asked, beq_false_of_ne, inductionHypothesis]

/-- The latest claim of a destination is the last one made there. -/
theorem latest?_concat (made : List Claim) (c : Claim) (destination : Path) :
    latest? (made ++ [c]) destination =
      if destination = c.destination then some c else latest? made destination := by
  rw [latest?, List.reverse_append, List.reverse_singleton, List.singleton_append, List.find?_cons]
  by_cases here : destination = c.destination
  · rw [if_pos here, here, beq_self_eq_true]
  · rw [if_neg here, beq_false_of_ne (Ne.symm here)]
    rfl

/-- A stager that sets a claim remembers it. -/
theorem Remembers.setClaim {a : AssetStager} {made : List Claim} (remembers : Remembers a made)
    (c : Claim) :
    Remembers { a with claims := AssetStager.setClaim c.destination c.source.text a.claims }
      (made ++ [c]) := by
  intro destination
  rw [lookup_setClaim, latest?_concat, remembers]
  split <;> rfl

/-- A claim is remembered, with a warning if there is reason for one. -/
theorem perform_claim_eq {a : AssetStager} {made : List Claim} (remembers : Remembers a made)
    (c : Claim) (w : World) :
    perform (claim c.destination c.source.text) (a, w) =
      (.ok (), ({ a with claims := AssetStager.setClaim c.destination c.source.text a.claims },
        { w with
          log := w.log ++ (warning? made c).toList.map fun message => ⟨.warning, message⟩ })) := by
  have known := remembers c.destination
  rw [claim, perform_bind_ok (perform_state a w), known, warning?]
  cases latest? made c.destination with
  | none => simp
  | some previous =>
    by_cases same : previous.source.text = c.source.text
    · simp [same]
    · simp [same, Claim.overwriting]
      rfl

/-! ### Actions on a stager -/

/-- How an action on a stager ends, by its answer. -/
def Answers {α : Type} (destinations : α → List Path) (writes : List Write) (finish : Finish) :
    Outcome α → Prop
  | .ok a => finish = .complete ∧ destinations a = writes.map (·.destination)
  | .error _ => ∃ last, finish = .stopped last

/-- What is left when an action on a stager has ended: the tree is as the writes left it, and there
is a warning for every claim that deserves one. -/
structure Left (going : Going) (directory : Path) (made : List Claim) (w : World)
    (writes : List Write) (finish : Finish) (a' : AssetStager) (w' : World) : Prop where
  goes : going w.files writes finish w'.files
  staging : a'.staging = some directory
  remembers : Remembers a' (made ++ claimed writes finish)
  warned : w'.log.warnings = w.log.warnings ++ warnings made (claimed writes finish)

/-- An action on a stager goes as the relation says, with a warning for every claim that deserves
one. -/
def Reports {α : Type} (going : Going) (directory : Path) (destinations : α → List Path)
    (act : Action AssetStager α) : Prop :=
  ∀ a w made, a.staging = some directory → Remembers a made →
    ∃ writes finish, Answers destinations writes finish (perform act (a, w)).1 ∧
      Left going directory made w writes finish (perform act (a, w)).2.1 (perform act (a, w)).2.2

section Reports

variable {α β γ : Type} {directory : Path} {going : Going}

/-- What reports its writes reports them to any wider account. -/
theorem Reports.mono {going' : Going} {destinations : α → List Path} {act : Action AssetStager α}
    (reports : Reports going directory destinations act)
    (implies : ∀ {t writes finish t'}, going t writes finish t' → going' t writes finish t') :
    Reports going' directory destinations act := by
  intro a w made configured remembers
  obtain ⟨writes, finish, answers, left⟩ := reports a w made configured remembers
  exact ⟨writes, finish, answers, implies left.goes, left.staging, left.remembers, left.warned⟩

/-- Doing nothing reports no writes. -/
theorem reports_none {ι : Type} {going : ι → Going} {destinations : α → List Path} {x : α}
    (nothing : destinations x = []) :
    Reports (Each going []) directory destinations (pure x) := by
  intro a w made configured remembers
  refine ⟨[], .complete, ⟨rfl, nothing⟩, .none, configured, ?_, ?_⟩
  · simpa [claimed, Finish.claims] using remembers
  · simp [claimed, Finish.claims, warnings]

/-- One part after the other. -/
theorem reports_both {first second both : Going} {destinations : α → List Path}
    {others : β → List Path} {all : γ → List Path} {act : Action AssetStager α}
    {next : Action AssetStager β} {combine : α → β → γ}
    (begins : Reports first directory destinations act)
    (follows : Reports second directory others next)
    (combined : ∀ x y, all (combine x y) = destinations x ++ others y)
    (stops : ∀ {t writes last t'}, first t writes (.stopped last) t' →
      both t writes (.stopped last) t')
    (continues : ∀ {t t1 t' writes more finish}, first t writes .complete t1 →
      second t1 more finish t' → both t (writes ++ more) finish t') :
    Reports both directory all (act >>= fun x => next >>= fun y => pure (combine x y)) := by
  intro a w made configured remembers
  obtain ⟨writes, finish, answers, left⟩ := begins a w made configured remembers
  rcases performed : perform act (a, w) with ⟨e | x, a1, w1⟩
  · rw [performed] at answers left
    rw [perform_bind_error performed]
    obtain ⟨last, rfl⟩ := answers
    exact ⟨writes, _, ⟨last, rfl⟩, stops left.goes, left.staging, left.remembers, left.warned⟩
  · rw [performed] at answers left
    rw [perform_bind_ok performed, perform_bind_pure]
    obtain ⟨rfl, here⟩ := answers
    obtain ⟨more, finish, answers, later⟩ := follows a1 w1 _ left.staging left.remembers
    have all_claimed : claimed writes .complete ++ claimed more finish =
        claimed (writes ++ more) finish := by
      simp [claimed, Finish.claims]
    refine ⟨writes ++ more, finish, ?_, continues left.goes later.goes, later.staging, ?_, ?_⟩
    · rcases answered : (perform next (a1, w1)).1 with e | y
      · rw [answered] at answers
        exact answers
      · rw [answered] at answers
        obtain ⟨rfl, there⟩ := answers
        refine ⟨rfl, ?_⟩
        rw [combined, here, there, List.map_append]
    · rw [← all_claimed, ← List.append_assoc]
      exact later.remembers
    · rw [later.warned, left.warned, ← all_claimed, warnings_append, List.append_assoc]

/-- One step and the rest report together. -/
theorem reports_each {ι : Type} {going : ι → Going} {i : ι} {is : List ι}
    {destinations : α → List Path} {others : β → List Path} {all : γ → List Path}
    {act : Action AssetStager α} {next : Action AssetStager β} {combine : α → β → γ}
    (begins : Reports (going i) directory destinations act)
    (follows : Reports (Each going is) directory others next)
    (combined : ∀ x y, all (combine x y) = destinations x ++ others y) :
    Reports (Each going (i :: is)) directory all
      (act >>= fun x => next >>= fun y => pure (combine x y)) :=
  reports_both begins follows combined .stopped .next

end Reports

/-! ### The parts of a staging -/

section

variable {α : Type} {p : Program} {s : Settings} {directory : Path}

/-- What is logged before does not matter if it is no warning. -/
theorem Reports.log {going : Going} {destinations : α → List Path} {act : Action AssetStager α}
    (reports : Reports going directory destinations act) {level : Level} (message : Text)
    (calm : level ≠ .warning) :
    Reports going directory destinations (Action.log level message >>= fun _ => act) := by
  intro a w made configured remembers
  rw [perform_bind_ok (perform_log ..)]
  obtain ⟨writes, finish, answers, left⟩ := reports a _ made configured remembers
  refine ⟨writes, finish, answers, left.goes, left.staging, left.remembers, ?_⟩
  rw [left.warned, Log.warnings_append]
  simp [Log.warnings, calm]

/-- What comes next may depend on the tree. -/
theorem Reports.files {going : Going} {destinations : α → List Path}
    {next : FileTree → Action AssetStager α}
    (reports : ∀ t, Reports (fun t0 writes finish t' => t0 = t → going t0 writes finish t')
      directory destinations (next t)) :
    Reports going directory destinations (Action.files >>= next) := by
  intro a w made configured remembers
  rw [perform_bind_ok (perform_files ..)]
  obtain ⟨writes, finish, answers, left⟩ := reports w.files a w made configured remembers
  exact ⟨writes, finish, answers, left.goes rfl, left.staging, left.remembers, left.warned⟩

/-- An action fails and leaves everything as it is, or it writes a file where it can. -/
def WritesFile (wrote : FileTree → Location → Bytes → Prop) (act : Action AssetStager Unit) :
    Prop :=
  ∀ a w, ((∃ e, perform act (a, w) = (.error e, (a, w))) ∧ ∀ l content, ¬ wrote w.files l content) ∨
    ∃ l content, wrote w.files l content ∧
      perform act (a, w) = (.ok (), (a, { w with files := w.files.set l (.file content) }))

/-- Work on the files that fills one file writes it, in any world. -/
theorem writesFile_onDisk {act : Disk Unit} {wrote : FileTree → Location → Bytes → Prop}
    (spares : ∀ kept, Spares kept act)
    (writes : ∀ {t t'}, perform act t = (.ok (), t') ↔
      ∃ l content, wrote t l content ∧ t' = t.set l (.file content)) :
    WritesFile wrote (Action.onDisk act) := by
  rintro a ⟨t, log, asked, runs, objects, clock⟩
  rcases performed : perform act t with ⟨f | _, t'⟩
  · have same := spares (· = t) t rfl f (by rw [performed])
    rw [performed] at same
    subst same
    refine .inl ⟨⟨_, perform_onDisk_error performed ..⟩, fun l content wrote => ?_⟩
    rw [writes.mpr ⟨l, content, wrote, rfl⟩] at performed
    cases performed
  · obtain ⟨l, content, wrote, rfl⟩ := writes.mp performed
    exact .inr ⟨l, content, wrote, perform_onDisk_ok performed ..⟩

/-- Writing a content fills the file with it. -/
theorem writesFile_writeFile (destination : Path) (content : Bytes) :
    WritesFile (fun t l stored => t.Opens destination l ∧ stored = content)
      (Action.onDisk (Disk.writeFile destination content)) := by
  refine writesFile_onDisk (fun _ => Disk.spares_writeFile _ _) ⟨fun written => ?_, ?_⟩
  · obtain ⟨l, opens, is⟩ := Disk.opens_of_writeFile written
    exact ⟨l, content, ⟨opens, rfl⟩, is⟩
  · rintro ⟨l, _, ⟨opens, rfl⟩, rfl⟩
    exact Disk.perform_writeFile opens _

/-- Writing a resource fills the file with its bytes. -/
theorem writesFile_resource (p : Program) (path : Text) (destination : Path) :
    WritesFile (Saves p path destination) (do
      let content ← Action.ofOutcome (p.resource (← Action.files) path)
      Action.onDisk (Disk.writeFile destination content)) := by
  intro a w
  rw [perform_bind_ok (perform_files ..)]
  rcases found : p.resource w.files path with e | content
  · refine .inl ⟨⟨e, perform_bind_error (perform_ofOutcome ..) _⟩, fun l content saves => ?_⟩
    rw [saves.1] at found
    cases found
  · rw [perform_bind_ok (perform_ofOutcome ..)]
    rcases writesFile_writeFile destination content a w
      with ⟨failed, blocked⟩ | ⟨l, _, ⟨opens, rfl⟩, done⟩
    · exact .inl ⟨failed, fun l _ saves => blocked l content ⟨saves.2, rfl⟩⟩
    · exact .inr ⟨l, _, ⟨found, opens⟩, done⟩

/-- Copying fills the file with the bytes of the source. -/
theorem writesFile_copyFile (source destination : Path) :
    WritesFile (fun t => t.Delivers source destination)
      (Action.onDisk (Disk.copyFile source destination)) :=
  writesFile_onDisk (fun _ => Disk.spares_copyFile _ _) Disk.perform_copyFile_eq_ok

/-- Something is claimed, the directories above it are made, and a file is written. -/
theorem reports_claim {wrote : FileTree → Location → Bytes → Prop} (c : Claim)
    {next : Action AssetStager Unit} (acts : WritesFile wrote next) :
    Reports (Fills wrote c) directory (fun d => [d]) (do
      claim c.destination c.source.text
      Action.onDisk (Disk.ensureDirectory c.destination.parent)
      next
      return c.destination) := by
  intro a w made configured remembers
  rw [perform_bind_ok (perform_claim_eq remembers c w)]
  have left {done : List Write} {finish : Finish} {t' : FileTree} (only : claimed done finish = [c])
      (goes : Fills wrote c w.files done finish t') :
      Left (Fills wrote c) directory made w done finish
        { a with claims := setClaim c.destination c.source.text a.claims }
        { w with
          files := t'
          log := w.log ++ (warning? made c).toList.map fun message => ⟨.warning, message⟩ } := by
    refine ⟨goes, configured, ?_, ?_⟩
    · rw [only]
      exact remembers.setClaim c
    · rw [only, Log.warnings_append]
      simp [Log.warnings, warnings]
  rcases ensured : perform (Disk.ensureDirectory c.destination.parent) w.files with ⟨f | _, t1⟩
  · rw [perform_bind_error (perform_onDisk_error ensured ..)]
    exact ⟨[], .stopped (some c), ⟨_, rfl⟩, left rfl (.unwritten ensured nofun)⟩
  · rw [perform_bind_ok (perform_onDisk_ok ensured ..)]
    rcases acts _ _ with ⟨⟨e, failed⟩, blocked⟩ | ⟨l, content, wrote, done⟩
    · rw [perform_bind_error failed]
      exact ⟨[], .stopped (some c), ⟨_, rfl⟩, left rfl (.unwritten ensured fun _ => blocked)⟩
    · rw [perform_bind_ok done]
      exact ⟨[⟨c, l, content⟩], .complete, ⟨rfl, rfl⟩, left rfl (.written ensured wrote)⟩

/-- Nothing is claimed before the failure. -/
theorem Left.none {going : Going} {a : AssetStager} {made : List Claim} {w : World}
    (configured : a.staging = some directory) (remembers : Remembers a made)
    (goes : going w.files [] (.stopped none) w.files) :
    Left going directory made w [] (.stopped none) a w where
  goes := goes
  staging := configured
  remembers := by simpa [claimed, Finish.claims] using remembers
  warned := by simp [claimed, Finish.claims, warnings]

/-- Staging one resource reports its destination. -/
theorem reports_stageResource (v : Value) :
    Reports (Stores p directory v) directory (fun d => [d]) (stageResource p directory v) := by
  refine Reports.log (fun a w made configured remembers => ?_) _ (by decide)
  rcases named : pathText v with e | path
  · rw [perform_bind_error (perform_ofOutcome ..)]
    refine ⟨[], _, ⟨_, rfl⟩, .none configured remembers (.refused fun _ is => ?_)⟩
    rw [named] at is
    cases is
  rw [perform_bind_ok (perform_ofOutcome ..), perform_bind_ok (perform_files ..)]
  rcases inside : w.files.contained directory path with e | destination
  · rw [perform_bind_error (perform_ofOutcome ..)]
    refine ⟨[], _, ⟨_, rfl⟩, .none configured remembers (.refused fun other is => ?_)⟩
    rw [named] at is
    cases is
    rw [inside]
    nofun
  rw [perform_bind_ok (perform_ofOutcome ..)]
  have reports : Reports (fun t writes finish t' => t.contained directory path = .ok destination →
      Stores p directory v t writes finish t') directory (fun d => [d]) _ :=
    (reports_claim ⟨.resource path, destination⟩ (writesFile_resource p path destination)).mono
      fun fills inside => .accepted named inside fills
  simp only [bind_assoc] at reports
  obtain ⟨writes, finish, answers, left⟩ := reports a w made configured remembers
  exact ⟨writes, finish, answers, left.goes inside, left.staging, left.remembers, left.warned⟩

/-- Staging resources reports all their destinations. -/
theorem reports_stageResources (vs : List Value) :
    Reports (Each (Stores p directory) vs) directory id (stageResources p directory vs) := by
  induction vs with
  | nil => exact reports_none rfl
  | cons v vs inductionHypothesis =>
    exact reports_each (reports_stageResource v) inductionHypothesis fun _ _ => rfl

/-- Copying one file of a tree reports its destination. -/
theorem reports_copy (file : Path × Path) :
    Reports (Duplicates file) directory (fun d => [d]) (do
      claim file.2 file.1.toText
      Action.onDisk (Disk.ensureDirectory file.2.parent)
      Action.onDisk (Disk.copyFile file.1 file.2)
      return file.2) :=
  reports_claim ⟨.file file.1, file.2⟩ (writesFile_copyFile file.1 file.2)

/-- Copying files reports all their destinations. -/
theorem reports_copyAll (files : List (Path × Path)) :
    Reports (Each Duplicates files) directory id (copyAll files) := by
  induction files with
  | nil => exact reports_none rfl
  | cons file files inductionHypothesis =>
    obtain ⟨source, destination⟩ := file
    have both : Reports (Each Duplicates ((source, destination) :: files)) directory id _ :=
      reports_each (reports_copy (source, destination)) inductionHypothesis
        fun d ds => (rfl : id (d :: ds) = [d] ++ id ds)
    simpa only [copyAll, bind_assoc, pure_bind] using both

/-- Staging a tree reports the destinations of its files. -/
theorem reports_stageTree (tree : Path) :
    Reports (Merges directory tree) directory id (stageTree directory tree) := by
  intro a w made configured remembers
  have looked := perform_onDisk (Disk.probe tree) a w
  rw [Disk.perform_probe] at looked
  rcases probed : w.files.probe tree with f | _ | found
  · rw [probed] at looked
    rw [stageTree, perform_bind_error looked]
    refine ⟨[], _, ⟨_, rfl⟩, .none configured remembers (.missing fun found is => ?_)⟩
    rw [probed] at is
    cases is
  · rw [probed] at looked
    rw [stageTree, perform_bind_ok looked]
    refine ⟨[], _, ⟨_, rfl⟩, .none configured remembers (.missing fun found is => ?_)⟩
    rw [probed] at is
    cases is
  · rw [probed] at looked
    rw [stageTree, perform_bind_ok looked]
    have copying (t : FileTree) : Reports (fun t0 writes finish t' => t0 = t → t0 = w.files →
        Merges directory tree t0 writes finish t') directory id
          (copyAll (copies t directory tree)) :=
      (reports_copyAll _).mono fun goes here there => by
        subst here there
        exact .merged probed goes
    obtain ⟨writes, finish, answers, left⟩ := (Reports.files copying).log
      ("Copying assets from " ++ tree.toText) (by decide : Level.info ≠ .warning) a w made
      configured remembers
    exact ⟨writes, finish, answers, left.goes rfl, left.staging, left.remembers, left.warned⟩

/-- A declared tree is read and then staged. -/
theorem reports_takeTree (v : Value) :
    Reports (Takes directory v) directory id (do
      let tree ← Action.ofOutcome (treePath v)
      stageTree directory tree) := by
  rcases named : treePath v with e | tree
  · intro a w made configured remembers
    rw [perform_bind_error (perform_ofOutcome ..)]
    refine ⟨[], _, ⟨_, rfl⟩, .none configured remembers (.unnamed fun _ is => ?_)⟩
    rw [named] at is
    cases is
  · intro a w made configured remembers
    rw [perform_bind_ok (perform_ofOutcome ..)]
    exact (reports_stageTree tree).mono (.named named) a w made configured remembers

/-- Staging declared trees reports the destinations of them all. -/
theorem reports_stageAll (trees : List Value) :
    Reports (Each (Takes directory) trees) directory id (stageAll directory trees) := by
  induction trees with
  | nil => exact reports_none rfl
  | cons v trees inductionHypothesis =>
    have both : Reports (Each (Takes directory) (v :: trees)) directory id _ :=
      reports_each (reports_takeTree v) inductionHypothesis
        fun written others => (rfl : id (written ++ others) = id written ++ id others)
    simpa only [stageAll, bind_assoc] using both

/-- Staging the declared resources reports their destinations. -/
theorem reports_stageEmbedded :
    Reports (Each (Stores p directory) (Value.flattenAll (p.metadata .addAssets))) directory id
      (stageEmbedded p) := by
  intro a w made configured remembers
  rw [stageEmbedded, perform_bind_ok (perform_state a w), configured]
  exact (reports_stageResources _).log _ (by decide) a w made configured remembers

/-- Staging the trees of the settings reports their destinations. -/
theorem reports_stageTrees (trees : List Value) :
    Reports (Each (Takes directory) trees) directory id (stageTrees trees) := by
  intro a w made configured remembers
  rw [stageTrees, perform_bind_ok (perform_state a w), configured]
  exact reports_stageAll trees a w made configured remembers

/-- A staging forgets the claims of earlier ones. -/
theorem reports_stage {a : AssetStager} (configured : a.staging = some directory) (w : World) :
    ∃ writes finish, Answers id writes finish (perform (stage p s) (a, w)).1 ∧
      Left (Stages p s directory) directory [] w writes finish (perform (stage p s) (a, w)).2.1
        (perform (stage p s) (a, w)).2.2 := by
  have both : Reports (Stages p s directory) directory id _ :=
    reports_both reports_stageEmbedded (reports_stageTrees s.assets)
      (fun resources trees => (rfl : id (resources ++ trees) = id resources ++ id trees))
      .stopped .stored
  rw [stage, perform_bind_ok (perform_state a w)]
  simp only [configured]
  rw [perform_bind_ok (perform_setState ..)]
  exact both _ w [] rfl fun _ => rfl

end

end AssetStager

end HaxeBuild
