import HaxeBuild.Proofs.Build.Interference
import HaxeBuild.Proofs.Program.Respelling

namespace HaxeBuild

open Effect HaxeBuild.Action FileTree

variable {p p' : Program}

namespace LibraryManager

/-- Reading the libraries is an action like any other: it accords with itself. -/
theorem accord_libraries (subject : Subject) :
    Action.Accord Eq Eq (libraries subject) (libraries subject) := by
  apply accord_state.bindEq
  intro m
  cases m.read.lookup subject.identity with
  | some ls => exact accord_pure rfl
  | none =>
      apply (accord_ofOutcome (Outcome.accord_refl _)).bindEq
      intro ls
      exact (accord_setState rfl).bindEq fun _ => accord_pure rfl

/-- Installing a library does not look at the log. -/
theorem accord_install (source : PackageSource) (l : LibraryReference) :
    Action.Accord Eq Eq (install source l) (install source l) := by
  apply accord_state.bindEq
  intro m
  split
  · exact accord_pure rfl
  · apply (accord_log _ _ _ _).bindEq
    intro _
    apply (accord_ask source l).bindEq
    intro answer
    rcases answer with message | _ | _
    · exact (accord_log _ _ _ _).bindEq fun _ => accord_throw _
    · exact (accord_log _ _ _ _).bindEq fun _ => accord_throw _
    · exact accord_setState rfl

/-- Neither does installing one library after the other. -/
theorem accord_installAll (source : PackageSource) (ls : List LibraryReference) :
    Action.Accord Eq Eq (installAll source ls) (installAll source ls) := by
  induction ls with
  | nil => exact accord_pure rfl
  | cons l ls inductionHypothesis =>
      exact (accord_install source l).bindEq fun _ => inductionHypothesis

/-- Neither does installing all that is required. -/
theorem accord_installRequired (source : PackageSource) (subject : Subject) (s : Option Settings) :
    Action.Accord Eq Eq (installRequired source subject s) (installRequired source subject s) := by
  have required : Action.Accord Eq Eq (required subject s) (required subject s) := by
    apply (accord_libraries subject).bindEq
    intro ls
    exact accord_ofOutcome (Outcome.accord_refl _)
  apply required.bindEq
  intro ls
  apply (accord_log _ _ _ _).bindEq
  intro _
  exact (accord_installAll source ls).bindEq fun _ => accord_pure rfl

end LibraryManager

namespace AssetStager

/-- The stagers write into the same directory; what they remember does not count. -/
def SameStaging (a a' : AssetStager) : Prop := a.staging = a'.staging

/-- A claim is logged at most, so its source does not count. -/
theorem accord_claim (destination : Path) (source source' : Text) :
    Action.Accord SameStaging Eq (claim destination source) (claim destination source') := by
  intro a a' w w' known same
  obtain ⟨log, claimed⟩ := perform_claim destination source a w
  obtain ⟨log', claimed'⟩ := perform_claim destination source' a' w'
  rw [claimed, claimed']
  exact ⟨.ok rfl, known, same.addLog log log'⟩

/-- A resource that is spelled in another way is staged to the same place. -/
theorem accord_stageResource {v v' : Value} (respells : p.Respells p')
    (respelled : p.Respelled v v') (directory : Path) :
    Action.Accord SameStaging Eq (stageResource p directory v) (stageResource p' directory v') := by
  apply (accord_log _ _ _ _).bindEq
  intro _
  apply (accord_ofOutcome respelled).bind
  intro path path' alike
  apply accord_files.bindEq
  intro t
  -- The destination is the same from here on; the claim remembers the path as it is spelled.
  apply (accord_ofOutcome (accord_contained alike.same t directory)).bindEq
  intro destination
  apply (accord_claim _ _ _).bindEq
  intro _
  apply (accord_onDisk _).bindEq
  intro _
  apply accord_files.bindEq
  intro t
  rw [← respells.resource]
  apply (accord_ofOutcome (Program.accord_resource alike t)).bindEq
  intro content
  exact (accord_onDisk _).bindEq fun _ => accord_pure rfl

/-- So are all resources, one after the other. -/
theorem accord_stageResources (respells : p.Respells p') (directory : Path) {vs vs' : List Value}
    (respelled : List.Forall₂ p.Respelled vs vs') :
    Action.Accord SameStaging Eq (stageResources p directory vs)
      (stageResources p' directory vs') := by
  induction respelled with
  | nil => exact accord_pure rfl
  | cons first rest inductionHypothesis =>
      apply (accord_stageResource respells first directory).bindEq
      intro destination
      exact inductionHypothesis.bindEq fun _ => accord_pure rfl

/-- So is what the classes declare. -/
theorem accord_stageEmbedded (respells : p.Respells p') :
    Action.Accord SameStaging Eq (stageEmbedded p) (stageEmbedded p') := by
  apply accord_state.bind
  intro a a' known
  rw [← known]
  cases a.staging with
  | none => exact accord_pure rfl
  | some directory =>
      apply (accord_log _ _ _ _).bindEq
      intro _
      exact accord_stageResources respells directory respells.assets

/-- Files are copied alike. -/
theorem accord_copyAll (copies : List (Path × Path)) :
    Action.Accord SameStaging Eq (copyAll copies) (copyAll copies) := by
  induction copies with
  | nil => exact accord_pure rfl
  | cons copy copies inductionHypothesis =>
      apply (accord_claim _ _ _).bindEq
      intro _
      apply (accord_onDisk _).bindEq
      intro _
      apply (accord_onDisk _).bindEq
      intro _
      exact inductionHypothesis.bindEq fun _ => accord_pure rfl

/-- Trees are staged alike. -/
theorem accord_stageTree (directory tree : Path) :
    Action.Accord SameStaging Eq (stageTree directory tree) (stageTree directory tree) := by
  apply (accord_onDisk _).bindEq
  intro found
  cases found with
  | none => exact accord_throw _
  | some found =>
      apply (accord_log _ _ _ _).bindEq
      intro _
      apply accord_files.bindEq
      intro t
      exact accord_copyAll _

/-- So are several trees. -/
theorem accord_stageAll (directory : Path) (trees : List Value) :
    Action.Accord SameStaging Eq (stageAll directory trees) (stageAll directory trees) := by
  induction trees with
  | nil => exact accord_pure rfl
  | cons v trees inductionHypothesis =>
      apply (accord_ofOutcome (Outcome.accord_refl (treePath v))).bindEq
      intro tree
      apply (accord_stageTree directory tree).bindEq
      intro written
      exact inductionHypothesis.bindEq fun _ => accord_pure rfl

/-- Whole stagings of programs that are spelled in different ways have the same effect. -/
theorem accord_stage (respells : p.Respells p') (s : Settings) :
    Action.Accord SameStaging Eq (stage p s) (stage p' s) := by
  apply accord_state.bind
  intro a a' known
  rw [← known]
  split
  · exact (accord_log _ _ _ _).bindEq fun _ => accord_pure rfl
  · have forgotten : SameStaging ⟨a.staging, []⟩ ⟨a.staging, []⟩ := rfl
    apply (accord_setState forgotten).bindEq
    intro _
    apply (accord_stageEmbedded respells).bindEq
    intro resources
    have trees : Action.Accord SameStaging Eq (stageTrees s.assets) (stageTrees s.assets) := by
      apply accord_state.bind
      intro a a' known
      rw [← known]
      cases a.staging with
      | none => exact accord_pure rfl
      | some directory => exact accord_stageAll directory s.assets
    exact trees.bindEq fun _ => accord_pure rfl

end AssetStager

namespace Session

open AssetStager (SameStaging)

/-- The sessions differ only in their programs, which are given, and in what their stagers
remember. -/
def Respelled (p p' : Program) (s s' : Session) : Prop :=
  s.plan.program = p ∧
    ∃ claims, s' = { s.withProgram p' with assets := ⟨s.assets.staging, claims⟩ }

/-- A session with another program is respelled by it. -/
theorem respelled_withProgram (s : Session) (p' : Program) :
    Respelled s.plan.program p' s (s.withProgram p') := ⟨rfl, s.assets.claims, rfl⟩

/-- Actions on libraries that accord do so as steps of sessions. -/
theorem accord_onLibraries {α : Type} {act act' : Action LibraryManager α}
    (accord : Action.Accord Eq Eq act act') :
    Action.Accord (Respelled p p') Eq (onLibraries act) (onLibraries act') := by
  apply accord_onPart ?_ ?_ accord
  · rintro s _ ⟨-, claims, rfl⟩
    rfl
  · rintro s _ m _ ⟨rfl, claims, rfl⟩ rfl
    exact ⟨rfl, claims, rfl⟩

/-- Actions on assets that accord do so as steps of sessions. -/
theorem accord_onAssets {α : Type} {act act' : Action AssetStager α}
    (accord : Action.Accord SameStaging Eq act act') :
    Action.Accord (Respelled p p') Eq (onAssets act) (onAssets act') := by
  apply accord_onPart ?_ ?_ accord
  · rintro s _ ⟨-, claims, rfl⟩
    rfl
  · rintro s _ a ⟨_, claims'⟩ ⟨rfl, claims, rfl⟩ rfl
    exact ⟨rfl, claims', rfl⟩

/-- An update that keeps sessions respelled accords with itself. -/
theorem accord_update {f : Session → Session}
    (keeps : ∀ s s', Respelled p p' s s' → Respelled p p' (f s) (f s')) :
    Action.Accord (Respelled p p') Eq (update f) (update f) := by
  apply accord_state.bind
  intro s s' known
  exact accord_setState (keeps s s' known)

/-- Entering a state accords with itself. -/
theorem accord_enter (state : BuildState) :
    Action.Accord (Respelled p p') Eq (enter state) (enter state) := by
  apply accord_update
  rintro s _ ⟨rfl, claims, rfl⟩
  exact ⟨rfl, claims, rfl⟩

/-- The toolchain is run alike. -/
theorem accord_runToolchain (runner : ProcessRunner) (check : Bool) (binary : Text)
    (arguments : List Text) :
    Action.Accord (Respelled p p') Eq (runToolchain runner check binary arguments)
      (runToolchain runner check binary arguments) := by
  apply accord_state.bind
  rintro s _ ⟨rfl, claims, rfl⟩
  apply (accord_log _ _ _ _).bindEq
  intro _
  apply (Action.accord_run _ _).bindEq
  intro result
  have recorded : Action.Accord (Respelled s.plan.program p') Eq
      (update fun s => { s with compileResult := some result })
      (update fun s => { s with compileResult := some result }) := by
    apply accord_update
    rintro s _ ⟨is, claims, rfl⟩
    exact ⟨is, claims, rfl⟩
  apply recorded.bindEq
  intro _
  split
  · exact (accord_enter _).bindEq fun _ => accord_pure rfl
  · apply (accord_log _ _ _ _).bindEq
    intro _
    split
    · exact accord_throw _
    · exact accord_pure rfl

section

variable (respells : p.Respells p')
include respells

/-- A template is rendered alike, since references are resolved alike. -/
theorem accord_renderLogged (template : Text) :
    Action.Accord (Respelled p p') Eq (renderLogged template) (renderLogged template) := by
  rintro s _ w w' ⟨rfl, claims, rfl⟩ same
  have rendered : Session.render { s.withProgram p' with assets := ⟨s.assets.staging, claims⟩ } =
      s.render := render_congr rfl rfl (respells.resolve _)
  rw [perform_renderLogged, perform_renderLogged, rendered, same.objects]
  exact ⟨Outcome.accord_refl _, ⟨rfl, claims, rfl⟩, same.files, same.asked, same.runs, rfl⟩

/-- A file that is spelled in another way is rendered to the same place. -/
theorem accord_renderFile {v v' : Value} (respelled : p.Respelled v v') :
    Action.Accord (Respelled p p') Eq (renderFile v) (renderFile v') := by
  apply accord_state.bind
  rintro s _ ⟨rfl, claims, rfl⟩
  apply (accord_log _ _ _ _).bindEq
  intro _
  apply (accord_ofOutcome respelled).bind
  intro path path' alike
  apply accord_files.bindEq
  intro t
  apply (accord_ofOutcome (accord_contained alike.same t s.plan.srcFolder)).bindEq
  intro destination
  apply (accord_onDisk _).bindEq
  intro _
  apply accord_files.bindEq
  intro t
  have read : Outcome.Accord Eq (s.plan.program.resourceText t path) (p'.resourceText t path') := by
    rw [← respells.resourceText]
    exact Program.accord_resourceText alike t
  apply (accord_ofOutcome read).bindEq
  intro template
  apply (accord_renderLogged respells template).bindEq
  intro rendered
  exact accord_onDisk _

/-- So are all files, one after the other. -/
theorem accord_renderFiles {vs vs' : List Value} (respelled : List.Forall₂ p.Respelled vs vs') :
    Action.Accord (Respelled p p') Eq (renderFiles vs) (renderFiles vs') := by
  induction respelled with
  | nil => exact accord_pure rfl
  | cons first rest inductionHypothesis =>
      exact (accord_renderFile respells first).bindEq fun _ => inductionHypothesis

/-- Everything before rendering accords. -/
theorem accord_beforeRendering (source : PackageSource) :
    Action.Accord (Respelled p p') Eq (beforeRendering source) (beforeRendering source) := by
  apply accord_state.bind
  rintro s _ ⟨rfl, claims, rfl⟩
  change Action.Accord _ _ (if s.info.isNone then _ else _) (if s.info.isNone then _ else _)
  split
  · exact accord_throw _
  · apply (accord_onDisk _).bindEq
    intro _
    apply (accord_log _ _ _ _).bindEq
    intro _
    apply accord_objects.bindEq
    intro o
    -- Installing looks at the libraries of the program only, which are the same.
    have installed := LibraryManager.accord_installRequired source s.plan.subject
      (some (s.plan.settingsNow o))
    have same : LibraryManager.installRequired source s.plan.subject (some (s.plan.settingsNow o)) =
        LibraryManager.installRequired source ⟨0, p'⟩ (some (s.plan.settingsNow o)) :=
      LibraryManager.installRequired_of_declared respells.libraries source 0 _
    dsimp only
    rw [same] at installed ⊢
    apply (accord_onLibraries installed).bindEq
    intro _
    apply (accord_enter _).bindEq
    intro _
    apply (accord_log _ _ _ _).bindEq
    intro _
    apply (accord_onAssets (AssetStager.accord_stage respells (s.plan.settingsNow o))).bindEq
    intro _
    exact accord_enter _

/-- The same command is prepared. -/
theorem accord_prepareCommand :
    Action.Accord (Respelled p p') Eq prepareCommand prepareCommand := by
  apply accord_state.bind
  rintro s _ ⟨rfl, claims, rfl⟩
  have rendered : Action.Accord (Respelled s.plan.program p') Eq
      (renderLogged (Command.template s.plan.program)) (renderLogged (Command.template p')) := by
    rw [respells.command]
    exact accord_renderLogged respells _
  apply rendered.bindEq
  intro text
  have recorded : Action.Accord (Respelled s.plan.program p') Eq
      (update fun s => { s with lastCommand := Command.split text })
      (update fun s => { s with lastCommand := Command.split text }) := by
    apply accord_update
    rintro s _ ⟨is, claims, rfl⟩
    exact ⟨is, claims, rfl⟩
  apply recorded.bindEq
  intro _
  cases Command.split text with
  | nil => exact accord_throw _
  | cons binary arguments => exact accord_pure rfl

/-- Whole compilations accord. -/
theorem accord_compile (source : PackageSource) (runner : ProcessRunner) (check : Bool) :
    Action.Accord (Respelled p p') Eq (compile source runner check)
      (compile source runner check) := by
  rintro s _ w w' ⟨rfl, claims, rfl⟩ same
  rw [perform_compile, perform_compile]
  refine Accord.bindEq (accord_beforeRendering respells source) ?_ s _ w w' ⟨rfl, claims, rfl⟩ same
  intro _
  apply (accord_renderFiles respells respells.rendered).bindEq
  intro _
  apply (accord_prepareCommand respells).bindEq
  intro command
  exact accord_runToolchain runner check _ _

end

end Session

/-- Two runs answer or fail in the same way and do the same; their logs may differ. -/
def SameEffect {σ α : Type} (done done' : Except BuildError α × σ × World) : Prop :=
  Outcome.Accord Eq done.1 done'.1 ∧ done.2.2.SameDeeds done'.2.2

theorem Action.Accord.sameEffect {σ α : Type} {related : σ → σ → Prop} {act act' : Action σ α}
    (accord : Action.Accord related Eq act act') {s s' : σ} (known : related s s') (w : World) :
    SameEffect (perform act (s, w)) (perform act' (s', w)) :=
  have ⟨answers, _, worlds⟩ := accord s s' w w known (.refl w)
  ⟨answers, worlds⟩

/-- Leading slashes of a path do not count where it is checked. Where it is read, they count only if
the path without them is no key and the spellings stand for different things in memory. Programs whose
declared paths are read alike have the same effect: when their assets are staged, when their files are
rendered, and when they are compiled. -/
theorem leading_slashes_ignored {path path' : Text} (same : path.SamePath path') (p : Program)
    {s : Session} (respells : s.plan.program.Respells p') (a : AssetStager) (w : World)
    (source : PackageSource) (runner : ProcessRunner) (check : Bool) :
    (∀ t root, Outcome.Accord Eq (FileTree.contained t root path) (t.contained root path')) ∧
      ((∀ t, Outcome.Accord Eq (p.resource t path) (p.resource t path')) ↔
        (p.resources.lookup (Text.dropLeading (.char '/') path)).isSome ∨
          p.resources.lookup path = p.resources.lookup path') ∧
        SameEffect (perform (AssetStager.stageEmbedded s.plan.program) (a, w))
          (perform (AssetStager.stageEmbedded p') (a, w)) ∧
          SameEffect (perform (Session.renderFiles (Session.prebuildFiles s.plan)) (s, w))
            (perform (Session.renderFiles (Session.prebuildFiles (s.withProgram p').plan))
              (s.withProgram p', w)) ∧
            SameEffect (perform (Session.compile source runner check) (s, w))
              (perform (Session.compile source runner check) (s.withProgram p', w)) := by
  have known := s.respelled_withProgram p'
  refine ⟨accord_contained same, ?_, ?_, ?_, ?_⟩
  · rw [Program.accord_resource_iff same, ← Program.stored?_eq_iff same]
    exact ⟨fun alike => alike.stored, fun stored => ⟨same, stored⟩⟩
  · exact (AssetStager.accord_stageEmbedded respells).sameEffect rfl w
  · exact (Session.accord_renderFiles respells respells.rendered).sameEffect known w
  · exact (Session.accord_compile respells source runner check).sameEffect known w

namespace Session.Small

/-- Resources under keys that do not begin with a slash. -/
def stock : List (Text × Bytes) := [("icon.png", [137]), ("docs/readme.txt", [104, 105])]

/-- A program with an asset and a file to render, whose paths are given. -/
def spelled (icon readme : Text) : Program where
  classes := [⟨"app.Main", [], [], [
    (.addAssets, [.text icon]),
    (.filesBeforeBuildTemplate, [.list [.text readme]]),
    (.customBuildCommandLine, [.text "haxe"])]⟩]
  resources := stock
  resourcesDir := none

/-- The program with its paths as they are stored. -/
def bare : Program := spelled "icon.png" "docs/readme.txt"

/-- The program with slashes before its paths. -/
def slashed : Program := spelled (Text.slashed 3 "icon.png") (Text.slashed 1 "docs/readme.txt")

/-- A build of the program whose sources are generated. -/
def buildOf (p : Program) : Session :=
  { start.1.withProgram p with
    assets := .new (some (Path.ofText "/target/assets"))
    info := some ⟨"app.Main", "Main.hx"⟩ }

/-- More slashes respell the program. -/
theorem respells_spelled (n m : Nat) (icon readme : Text) :
    (spelled icon readme).Respells (spelled (icon.slashed n) (readme.slashed m)) := by
  have clean : ∀ entry ∈ stock, entry.1.head? ≠ some (.char '/') := by decide +kernel
  have alike (n : Nat) (path : Text) :
      (spelled icon readme).Respelled (.text path) (.text (path.slashed n)) :=
    .ok (Program.readsAlike_of_keys clean (Text.samePath_slashed n path).symm)
  exact ⟨rfl, .cons (alike n icon) .nil, .cons (alike m readme) .nil⟩

end Session.Small

section

open Session.Small

/-- The asset is staged from both spellings. -/
theorem leading_slashes_ignored_slashed :
    Text.SamePath (Text.slashed 1 "icon.png") "icon.png" ∧
      (buildOf bare).plan.program.Respells slashed ∧
        SameEffect
          (perform (Session.compile (sourceWithout []) (toolchain id) true)
            (buildOf bare, .ofFiles ⟨[], []⟩))
          (perform (Session.compile (sourceWithout []) (toolchain id) true)
            ((buildOf bare).withProgram slashed, .ofFiles ⟨[], []⟩)) ∧
          (perform (Session.compile (sourceWithout []) (toolchain id) true)
            (buildOf bare, .ofFiles ⟨[], []⟩)).2.2.files.get?
              [("target" : Text), "assets", "icon.png"] = some (.file [137]) := by
  have same := Text.samePath_slashed 1 "icon.png"
  have respells : (buildOf bare).plan.program.Respells slashed := respells_spelled 3 1 _ _
  have ⟨_, _, _, _, compiled⟩ := leading_slashes_ignored same bare respells (.new none)
    (.ofFiles ⟨[], []⟩) (sourceWithout []) (toolchain id) true
  exact ⟨same, respells, compiled, by decide +kernel⟩

end

/-- What is stored under a key with a leading slash is not found without it, and a path can also be
refused for another reason than that it leaves the directory. -/
theorem Program.resource_slash_counts :
    let p : Program := ⟨[], [("/img/a.png", [65])], none⟩
    p.resource ⟨[], []⟩ "/img/a.png" = .ok [65] ∧
      p.resource ⟨[], []⟩ "img/a.png" = .error (.resourceNotFound "img/a.png") ∧
        FileTree.contained ⟨[], []⟩ (Path.ofText "/") "/\x00" = .error (.fault .badValue) := by
  decide +kernel

end HaxeBuild
