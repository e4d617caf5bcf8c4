import HaxeBuild.Proofs.Build.Containment
import HaxeBuild.Proofs.Build.History
import HaxeBuild.Proofs.Files.Overlay

namespace HaxeBuild

open Effect HaxeBuild.Action
open FileTree (Grows)

/-- A text that is not written leaves the tree as it is, or a file that is empty. -/
theorem Disk.perform_writeText_error {p : Path} {text : Text} {t t' : FileTree} {f : Fault}
    (failed : perform (Disk.writeText p text) t = (.error f, t')) :
    t' = t ∨ ∃ l, Text.utf8? text = none ∧ t.Opens p l ∧ t' = t.set l (.file []) := by
  rcases Disk.perform_openFile p t with ⟨f', refused⟩ | ⟨l, opens, opened⟩
  · rw [Disk.writeText, perform_bind_error refused] at failed
    cases failed
    exact .inl rfl
  · rw [Disk.writeText, perform_bind_ok opened] at failed
    cases encoded : Text.utf8? text with
    | some content =>
      rw [encoded] at failed
      cases failed
    | none =>
      rw [encoded] at failed
      cases failed
      exact .inr ⟨l, rfl, opens, rfl⟩

theorem Disk.perform_writeText_unencoded {p : Path} {text : Text} {t : FileTree} {l : Location}
    (unencoded : Text.utf8? text = none) (opens : t.Opens p l) :
    perform (Disk.writeText p text) t = (.error .unencodable, t.set l (.file [])) := by
  rcases Disk.perform_openFile p t with ⟨f, refused⟩ | ⟨l', others, opened⟩
  · rw [Disk.openFile, perform_bind, Disk.perform_locate] at refused
    cases opens with
    | free found =>
      rw [found] at refused
      cases refused
    | file found =>
      rw [found] at refused
      cases refused
  · have same := others.resolve_eq.symm.trans opens.resolve_eq
    cases same
    rw [Disk.writeText, perform_bind_ok opened, unencoded]
    rfl

namespace AssetStager

/-- A resource that is not staged leaves no more than directories behind. -/
theorem spares_stageResource (p : Program) (directory : Path) (v : Value) (t : FileTree) :
    Spares (OnFiles Any (Grows t)) (stageResource p directory v) := by
  refine (keepsFiles_log _ _).spares fun _ _ => ?_
  refine (keepsFiles_ofOutcome fun _ _ => trivial).spares fun path _ => ?_
  refine keepsFiles_files.spares fun t' _ => ?_
  refine (keepsFiles_ofOutcome fun _ _ => trivial).spares fun destination _ => ?_
  refine (keepsFiles_claim _ _).spares fun _ _ => ?_
  have makes := FileTree.keeps_grows_ensureDirectory t destination.parent
  refine (keepsFiles_onDisk makes).spares fun _ _ => ?_
  refine keepsFiles_files.spares fun t'' _ => ?_
  refine (keepsFiles_ofOutcome fun _ _ => trivial).spares fun content _ => ?_
  exact (sparesFiles_onDisk (Disk.spares_writeFile destination content)).bind_pure _

/-- Where a list of resources is not staged, one of them fails after all before it are staged. -/
theorem failing_of_stageResources {p : Program} {directory : Path} {vs : List Value}
    {a a' : AssetStager} {w w' : World} {e : BuildError}
    (failed : perform (stageResources p directory vs) (a, w) = (.error e, (a', w'))) :
    ∃ before v later paths a1 w1, vs = before ++ v :: later ∧
      perform (stageResources p directory before) (a, w) = (.ok paths, (a1, w1)) ∧
      perform (stageResource p directory v) (a1, w1) = (.error e, (a', w')) := by
  induction vs generalizing a w with
  | nil => cases failed
  | cons v vs inductionHypothesis =>
    rw [stageResources] at failed
    rcases perform_bind_eq_error.mp failed with here | ⟨path, ⟨a1, w1⟩, done, rest⟩
    · exact ⟨[], v, vs, [], a, w, rfl, rfl, here⟩
    · rw [perform_bind_pure] at rest
      rcases others : perform (stageResources p directory vs) (a1, w1) with ⟨e' | paths, x⟩
      · rw [others] at rest
        cases rest
        obtain ⟨before, other, later, paths, a2, w2, rfl, before_done, fails⟩ :=
          inductionHypothesis others
        refine ⟨v :: before, other, later, path :: paths, a2, w2, rfl, ?_, fails⟩
        rw [stageResources, perform_bind_ok done, perform_bind_ok before_done]
        rfl
      · rw [others] at rest
        cases rest

/-- The resources are staged up to one that fails, after which no file is changed. -/
inductive StagingStops (p : Program) (directory : Path) (a : AssetStager) (w : World)
    (e : BuildError) (w' : World) : Prop where
  | intro {before later : List Value} {v : Value} {paths : List Path} {a1 : AssetStager}
      {w1 : World} (entries : Value.flattenAll (p.metadata .addAssets) = before ++ v :: later)
      (staged : perform (stageResources p directory before) (a, w) = (.ok paths, (a1, w1)))
      (failed : (perform (stageResource p directory v) (a1, w1)).1 = .error e)
      (same : w'.files.bytesAt = w1.files.bytesAt) : StagingStops p directory a w e w'

theorem stops_of_stageEmbedded {p : Program} {a a' : AssetStager} {w w' : World} {e : BuildError}
    (failed : perform (stageEmbedded p) (a, w) = (.error e, (a', w'))) :
    ∃ directory, a.staging = some directory ∧
      StagingStops p directory a
        { w with
          log := w.log ++ [⟨.info, "Copying embedded resources to " ++ directory.toText⟩] } e w' := by
  rw [stageEmbedded, perform_bind_ok (perform_state a w)] at failed
  cases given : a.staging with
  | none =>
    simp only [given] at failed
    cases failed
  | some directory =>
    simp only [given, perform_bind_ok (perform_log ..)] at failed
    obtain ⟨before, v, later, paths, a1, w1, entries, staged, fails⟩ :=
      failing_of_stageResources failed
    have spared := spares_stageResource p directory v w1.files (a1, w1) ⟨trivial, .refl _⟩ e
    rw [fails] at spared
    exact ⟨directory, rfl, .intro entries staged (by rw [fails]) (spared rfl).2.bytesAt⟩

end AssetStager

namespace Session

/-- What an entry is rendered to has no encoding, and there is a file that it is opened for. -/
inductive Spoils (s : Session) (v : Value) (w : World) (l : Location) : Prop where
  | intro {path template text : Text} {destination : Path} {t1 : FileTree}
      (named : AssetStager.pathText v = .ok path)
      (inside : w.files.contained s.plan.srcFolder path = .ok destination)
      (made : perform (Disk.ensureDirectory destination.parent) w.files = (.ok (), t1))
      (found : s.plan.program.resourceText t1 path = .ok template)
      (rendered : (s.render w.objects template).result = .ok text)
      (unencoded : Text.utf8? text = none) (opens : t1.Opens destination l)

variable {s s' : Session} {v : Value} {w w' : World} {e : BuildError}

/-- An entry that is not rendered leaves no more than directories behind, unless it spoils a
file. -/
theorem spares_or_spoils (failed : perform (renderFile v) (s, w) = (.error e, (s', w'))) :
    Grows w.files w'.files ∨ ∃ l, Spoils s v w l := by
  rw [renderFile, perform_bind_ok (perform_state s w), perform_bind_ok (perform_log ..)] at failed
  obtain ⟨-, is⟩ | ⟨path, named, failed⟩ := perform_ofOutcome_bind_eq_error.mp failed
  · cases is
    exact .inl (.refl _)
  rw [perform_bind_ok (perform_files ..)] at failed
  obtain ⟨-, is⟩ | ⟨destination, inside, failed⟩ := perform_ofOutcome_bind_eq_error.mp failed
  · cases is
    exact .inl (.refl _)
  rw [perform_bind, perform_onDisk] at failed
  have grows := (FileTree.keeps_grows_ensureDirectory _ destination.parent _ (.refl w.files)).1
  rcases made : perform (Disk.ensureDirectory destination.parent) w.files with ⟨f | _, t1⟩
  · simp only [made] at failed grows
    cases failed
    exact .inl grows
  simp only [made, Outcome.ofFault] at failed grows
  rw [perform_bind_ok (perform_files ..)] at failed
  obtain ⟨-, is⟩ | ⟨template, found, failed⟩ := perform_ofOutcome_bind_eq_error.mp failed
  · cases is
    exact .inl grows
  rw [perform_bind, perform_renderLogged] at failed
  rcases rendered : (s.render w.objects template).result with e' | text
  · simp only [rendered] at failed
    cases failed
    exact .inl grows
  simp only [rendered, perform_onDisk] at failed
  rcases written : perform (Disk.writeText destination text) t1 with ⟨f | _, t2⟩
  · rw [written] at failed
    cases failed
    rcases Disk.perform_writeText_error written with rfl | ⟨l, unencoded, opens, -⟩
    · exact .inl grows
    · exact .inr ⟨l, .intro named inside made found rendered unencoded opens⟩
  · rw [written] at failed
    cases failed

/-- The file that an entry spoils is left empty. -/
theorem Spoils.perform_renderFile {l : Location} (spoils : Spoils s v w l) :
    (perform (renderFile v) (s, w)).1 = .error (.fault .unencodable) ∧
      ∃ t1, Grows w.files t1 ∧ t1.get? l ≠ some .directory ∧
        (perform (renderFile v) (s, w)).2.2.files = t1.set l (.file []) := by
  obtain ⟨named, inside, made, found, rendered, unencoded, opens⟩ := spoils
  rename_i path template text destination t1
  have grows := (FileTree.keeps_grows_ensureDirectory _ destination.parent _ (.refl w.files)).1
  rw [made] at grows
  have written := Disk.perform_writeText_unencoded unencoded opens
  rw [renderFile, perform_bind_ok (perform_state s w), perform_bind_ok (perform_log ..), named,
    perform_bind_ok (perform_ofOutcome ..), perform_bind_ok (perform_files ..), inside,
    perform_bind_ok (perform_ofOutcome ..), perform_bind_ok (perform_onDisk_ok made ..),
    perform_bind_ok (perform_files ..), found, perform_bind_ok (perform_ofOutcome ..),
    perform_bind, perform_renderLogged]
  simp only [rendered]
  rw [perform_onDisk_error written]
  exact ⟨rfl, t1, grows, opens.ne_directory, rfl⟩

theorem Spoils.bytesAt {l : Location} (spoils : Spoils s v w l) (l' : Location) :
    (perform (renderFile v) (s, w)).2.2.files.bytesAt l' =
      if l' = l then some [] else w.files.bytesAt l' := by
  obtain ⟨-, t1, grows, other, left⟩ := spoils.perform_renderFile
  rw [left, FileTree.bytesAt_set other, grows.bytesAt]

/-- The files are as they were, unless a file with content, or a missing one, was spoiled. -/
theorem bytesAt_eq_iff (failed : perform (renderFile v) (s, w) = (.error e, (s', w'))) :
    w'.files.bytesAt = w.files.bytesAt ↔
      ∀ l, Spoils s v w l → w.files.bytesAt l = some [] := by
  have left {l : Location} (spoils : Spoils s v w l) (l' : Location) :
      w'.files.bytesAt l' = if l' = l then some [] else w.files.bytesAt l' := by
    have left := spoils.bytesAt l'
    rwa [failed] at left
  constructor
  · intro same l spoils
    rw [← same, left spoils, if_pos rfl]
  · intro empty
    rcases spares_or_spoils failed with grows | ⟨l, spoils⟩
    · exact grows.bytesAt
    · funext l'
      rw [left spoils]
      split
      · rename_i here
        rw [here, empty l spoils]
      · rfl

/-- Where a list of entries is not rendered, one of them fails after all before it are rendered. -/
theorem failing_of_renderFiles {vs : List Value}
    (failed : perform (renderFiles vs) (s, w) = (.error e, (s', w'))) :
    ∃ before v later w1, vs = before ++ v :: later ∧
      perform (renderFiles before) (s, w) = (.ok (), (s, w1)) ∧
      perform (renderFile v) (s, w1) = (.error e, (s', w')) := by
  induction vs generalizing w with
  | nil => cases failed
  | cons v vs inductionHypothesis =>
    rw [renderFiles] at failed
    rcases perform_bind_eq_error.mp failed with here | ⟨_, ⟨s1, w1⟩, done, rest⟩
    · exact ⟨[], v, vs, w, rfl, rfl, here⟩
    · have kept : perform (renderFiles [v]) (s, w) = (.ok (), (s1, w1)) := by
        rw [renderFiles, perform_bind_ok done]
        rfl
      obtain ⟨rfl, -, -⟩ := renderFiles_keeps kept
      obtain ⟨before, other, later, w2, rfl, rendered, fails⟩ := inductionHypothesis rest
      refine ⟨v :: before, other, later, w2, rfl, ?_, fails⟩
      rw [renderFiles, perform_bind_ok done, rendered]

/-- The entries are rendered up to one that fails. After it the files are those that the earlier
entries left, but for a file that the failing one spoiled. -/
inductive RenderingStops (vs : List Value) (s : Session) (w : World) (e : BuildError) (w' : World) :
    Prop where
  | intro {before later : List Value} {v : Value} {w1 : World}
      (entries : vs = before ++ v :: later)
      (rendered : perform (renderFiles before) (s, w) = (.ok (), (s, w1)))
      (failed : (perform (renderFile v) (s, w1)).1 = .error e)
      (same : w'.files.bytesAt = w1.files.bytesAt ↔
        ∀ l, Spoils s v w1 l → w1.files.bytesAt l = some [])
      (emptied : ∀ l, Spoils s v w1 l → ∀ l',
        w'.files.bytesAt l' = if l' = l then some [] else w1.files.bytesAt l') :
      RenderingStops vs s w e w'

theorem stops_of_renderFiles {vs : List Value}
    (failed : perform (renderFiles vs) (s, w) = (.error e, (s', w'))) :
    RenderingStops vs s w e w' := by
  obtain ⟨before, v, later, w1, entries, rendered, fails⟩ := failing_of_renderFiles failed
  refine .intro entries rendered (by rw [fails]) (bytesAt_eq_iff fails) fun l spoils l' => ?_
  have left := spoils.bytesAt l'
  rwa [fails] at left

/-- A compilation that cannot render all of its files ends there. -/
theorem compile_stops {s1 : Session} {w1 : World} {source : PackageSource}
    (begun : perform (beforeRendering source) (s, w) = (.ok (), (s1, w1)))
    (failed : perform (renderFiles (prebuildFiles s.plan)) (s1, w1) = (.error e, (s', w')))
    (runner : ProcessRunner) (check : Bool) :
    perform (compile source runner check) (s, w) = (.error e, (s', w')) := by
  rw [perform_compile, perform_bind_ok begun, perform_bind_error failed]

end Session

/-- If an entry fails, the files are those that the entries before it left. Only among the files to
render can there be one whose text has no encoding: then its file is empty. -/
theorem entries_before_failure (p : Program) (a : AssetStager) (s : Session) (w : World)
    (source : PackageSource) (runner : ProcessRunner) (check : Bool) :
    (∀ (a' : AssetStager) (w' : World) (e : BuildError),
      perform (AssetStager.stageEmbedded p) (a, w) = (.error e, (a', w')) →
        ∃ directory, a.staging = some directory ∧
          AssetStager.StagingStops p directory a
            { w with
              log := w.log ++ [⟨.info, "Copying embedded resources to " ++ directory.toText⟩] }
            e w') ∧
      ∀ (s1 s' : Session) (w1 w' : World) (e : BuildError),
        perform (Session.beforeRendering source) (s, w) = (.ok (), (s1, w1)) →
        perform (Session.renderFiles (Session.prebuildFiles s.plan)) (s1, w1) =
          (.error e, (s', w')) →
        perform (Session.compile source runner check) (s, w) = (.error e, (s', w')) ∧
          Session.RenderingStops (Session.prebuildFiles s.plan) s1 w1 e w' :=
  ⟨fun _ _ _ => AssetStager.stops_of_stageEmbedded,
    fun _ _ _ _ _ begun failed =>
      ⟨Session.compile_stops begun failed runner check, Session.stops_of_renderFiles failed⟩⟩

/-! Lists in which the second of three entries fails. -/

namespace Small

/-- A program whose class declares entries, and the resources of the program. -/
def declaring (kind : MetadataKind) (entries : List Text) (resources : List (Text × Bytes)) :
    Program where
  classes := [⟨"app.Main", [], [],
    [(kind, entries.map .text), (.customBuildCommandLine, [.text "haxe"])]⟩]
  resources := resources
  resourcesDir := none

def assets : Program := declaring .addAssets ["a", "../b", "c"] [("a", [1]), ("c", [2])]

def stager : AssetStager := .new (some (Path.ofText "/assets"))

def staging : Outcome (List Path) × AssetStager × World :=
  perform (AssetStager.stageEmbedded assets) (stager, .ofFiles ⟨[], []⟩)

def entries : List Text := ["a", "b/c", "c"]

/-- A session that has its sources, and files to render of which the first has some content. -/
def prepared (content : Bytes) : Session × World :=
  (Session.follow [.buildSource Session.Small.generator,
    .changeProgram fun _ => declaring .filesBeforeBuildTemplate entries
      [("a", content), ("c", [2])]] [] Session.Small.start).2

def begun (content : Bytes) : Outcome Unit × Session × World :=
  perform (Session.beforeRendering (Session.Small.sourceWithout [])) (prepared content)

def rendering (content : Bytes) : Outcome Unit × Session × World :=
  perform (Session.renderFiles (Session.prebuildFiles (prepared content).1.plan)) (begun content).2

/-- A template that renders to a lone surrogate. -/
def surrogate : Bytes := (Text.utf8? ("\x7b\x7b '\\ud800' \x7d\x7d" : Text)).getD []

end Small

/-- In both lists the first entry is complete and the second one changes no file. -/
theorem entries_before_failure_second :
    (∃ e, AssetStager.StagingStops Small.assets (Path.ofText "/assets") Small.stager
        { World.ofFiles ⟨[], []⟩ with
          log := [⟨.info, "Copying embedded resources to /assets"⟩] } e Small.staging.2.2) ∧
      Small.staging.2.2.files.bytesAt ["assets", "a"] = some [1] ∧
      (∃ e, Session.RenderingStops (Session.prebuildFiles (Small.prepared [120]).1.plan)
        (Small.begun [120]).2.1 (Small.begun [120]).2.2 e (Small.rendering [120]).2.2) ∧
      (Small.rendering [120]).2.2.files.bytesAt ["target", "haxe-build", "src", "a"] =
        some [120] := by
  have all (s : Session) (w : World) := entries_before_failure Small.assets Small.stager s w
    (Session.Small.sourceWithout []) (Session.Small.toolchain id) false
  have stops {start : Session × World} {s1 s' : Session} {w1 w' : World} {e : BuildError}
      (begun : perform (Session.beforeRendering (Session.Small.sourceWithout [])) start =
        (.ok (), (s1, w1)))
      (failed : perform (Session.renderFiles (Session.prebuildFiles start.1.plan)) (s1, w1) =
        (.error e, (s', w'))) :
      Session.RenderingStops (Session.prebuildFiles start.1.plan) s1 w1 e w' :=
    ((all start.1 start.2).2 _ _ _ _ _ begun failed).2
  refine ⟨?_, by decide +kernel, ?_, by decide +kernel⟩
  · have failed : Small.staging.1.toBool = false := by decide +kernel
    rcases performed : Small.staging with ⟨e | paths, a, w⟩
    · obtain ⟨directory, configured, stops⟩ := (all (Small.prepared []).1 _).1 _ _ _ performed
      cases configured
      exact ⟨e, stops⟩
    · rw [performed] at failed
      cases failed
  · have done : (Small.begun [120]).1.toBool = true := by decide +kernel
    have failed : (Small.rendering [120]).1.toBool = false := by decide +kernel
    rcases performed : Small.rendering [120] with ⟨e | _, s, w⟩
    · rcases begun : Small.begun [120] with ⟨e' | _, s1, w1⟩
      · rw [begun] at done
        cases done
      · rw [Small.rendering, begun] at performed
        rw [Small.begun] at begun
        exact ⟨e, stops begun performed⟩
    · rw [performed] at failed
      cases failed

/-- The entry fails, but there is an empty file where there was none. -/
theorem rendering_spoils :
    (Small.begun Small.surrogate).1.toBool = true ∧
      (Small.rendering Small.surrogate).1.toBool = false ∧
      (Small.begun Small.surrogate).2.2.files.bytesAt ["target", "haxe-build", "src", "a"] = none ∧
      (Small.rendering Small.surrogate).2.2.files.bytesAt ["target", "haxe-build", "src", "a"] =
        some [] := by
  decide +kernel

end HaxeBuild
