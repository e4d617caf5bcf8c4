import HaxeBuild.Proofs.Alike
import HaxeBuild.Proofs.Build.History
import HaxeBuild.Proofs.Program.Scope

namespace HaxeBuild

open Effect HaxeBuild.Action

section

variable {p p' : Program}

/-- Installing looks at the declared libraries of a program only. -/
theorem LibraryManager.installRequired_of_declared
    (same : LibraryReference.declared p = LibraryReference.declared p') (source : PackageSource)
    (identity : Nat) (s : Option Settings) :
    installRequired source ⟨identity, p⟩ s = installRequired source ⟨identity, p'⟩ s := by
  simp only [installRequired, required, libraries, same]

namespace AssetStager

/-- Similar programs have the same resources to stage. -/
theorem stageResources_of_similar (similar : p.Similar p') (directory : Path) (vs : List Value) :
    stageResources p directory vs = stageResources p' directory vs := by
  induction vs with
  | nil => rfl
  | cons v vs inductionHypothesis =>
    simp only [stageResources, stageResource, inductionHypothesis, similar.resource]

/-- Similar programs are staged alike. -/
theorem stage_of_similar (similar : p.Similar p') (s : Settings) : stage p s = stage p' s := by
  simp only [stage, stageEmbedded, stageResources_of_similar similar,
    similar.metadata .addAssets rfl]

end AssetStager

end

namespace Session

/-- The session with another program. -/
def withProgram (s : Session) (p : Program) : Session :=
  { s with plan := { s.plan with program := p } }

/-- Sessions that differ in their programs only, and these are related. -/
def Exchanged (related : Program → Program → Prop) (s s' : Session) : Prop :=
  ∃ p, related s.plan.program p ∧ s' = s.withProgram p

/-- Sessions agree if they differ in their programs only, and these agree. -/
def Agrees (s s' : Session) : Prop := ∃ p, s.plan.program.Agrees p ∧ s' = s.withProgram p

/-! ### Steps of sessions whose programs are exchanged -/

section

variable {α : Type}

/-- References are resolved alike, and nothing else of the program is seen by a template. -/
theorem render_congr {s s' : Session} (names : s'.plan.names = s.plan.names)
    (parameters : s'.parameters = s.parameters)
    (resolve : Resolver.resolve ⟨s'.plan.program, s.plan.names⟩ =
      Resolver.resolve ⟨s.plan.program, s.plan.names⟩) : s'.render = s.render := by
  have tags : s'.tags = s.tags := by
    have rendered : Template.Tag.Reference.render ⟨s'.plan.program, s.plan.names⟩ =
        Template.Tag.Reference.render ⟨s.plan.program, s.plan.names⟩ := by
      funext name content
      simp only [Template.Tag.Reference.render, resolve]
    simp only [tags, Template.Tag.reference, names, rendered]
  have command : s'.defaultCommand = s.defaultCommand := by
    funext o
    rw [defaultCommand, defaultCommand, tags, parameters]
  funext o template
  rw [render, render, tags, parameters, command]

/-- A template is rendered alike with a similar program. -/
theorem render_withProgram {s : Session} {p : Program} (similar : s.plan.program.Similar p) :
    (s.withProgram p).render = s.render :=
  render_congr rfl rfl (similar.resolve _).symm

variable {related : Program → Program → Prop}

/-- What follows may depend on the session, whose program may be exchanged. -/
theorem alike_ofState {next next' : Session → Step α}
    (rest : ∀ s p, related s.plan.program p →
      Action.Alike (Exchanged related) (next s) (next' (s.withProgram p))) :
    Action.Alike (Exchanged related) (Action.state >>= next) (Action.state >>= next') := by
  refine Alike.ofState ?_
  rintro s _ ⟨p, known, rfl⟩
  exact rest s p known

/-- An update that keeps programs related is alike on them. -/
theorem alike_update {f : Session → Session}
    (keeps : ∀ s p, related s.plan.program p → Exchanged related (f s) (f (s.withProgram p))) :
    Action.Alike (Exchanged related) (update f) (update f) :=
  alike_ofState fun s p known => alike_setState (keeps s p known)

/-- Entering a state does not look at the program. -/
theorem alike_enter (state : BuildState) :
    Action.Alike (Exchanged related) (enter state) (enter state) :=
  alike_update fun _ p known => ⟨p, known, rfl⟩

/-- Neither does work on the libraries. -/
theorem alike_onLibraries (act : Action LibraryManager α) :
    Action.Alike (Exchanged related) (onLibraries act) (onLibraries act) := by
  refine alike_onPart ?_ ?_ act
  · rintro s _ ⟨p, known, rfl⟩
    rfl
  · rintro s _ m ⟨p, known, rfl⟩
    exact ⟨p, known, rfl⟩

/-- Neither does work on the assets. -/
theorem alike_onAssets (act : Action AssetStager α) :
    Action.Alike (Exchanged related) (onAssets act) (onAssets act) := by
  refine alike_onPart ?_ ?_ act
  · rintro s _ ⟨p, known, rfl⟩
    rfl
  · rintro s _ a ⟨p, known, rfl⟩
    exact ⟨p, known, rfl⟩

variable (similar : ∀ p p', related p p' → p.Similar p')
include similar

/-- Templates are rendered alike with similar programs. -/
theorem alike_renderLogged (template : Text) :
    Action.Alike (Exchanged related) (renderLogged template) (renderLogged template) := by
  rintro ⟨s, w⟩ ⟨_, _⟩ ⟨⟨p, known, rfl⟩, rfl⟩
  rw [perform_renderLogged, perform_renderLogged, render_withProgram (similar _ _ known)]
  exact ⟨rfl, ⟨p, known, rfl⟩, rfl⟩

/-- So is a file before the build. -/
theorem alike_renderFile (v : Value) :
    Action.Alike (Exchanged related) (renderFile v) (renderFile v) := by
  refine alike_ofState fun s p known => (alike_log _ _).bind fun _ => ?_
  refine (alike_ofOutcome _).bind fun path => alike_files.bind fun t => ?_
  refine (alike_ofOutcome _).bind fun destination => (alike_onDisk _).bind fun _ => ?_
  refine alike_files.bind fun t => Alike.bind ?_ fun template => ?_
  · simp only [(similar _ _ known).resourceText]
    exact alike_ofOutcome _
  · exact (alike_renderLogged similar template).bind fun rendered => alike_onDisk _

/-- So are all files before the build. -/
theorem alike_renderFiles (vs : List Value) :
    Action.Alike (Exchanged related) (renderFiles vs) (renderFiles vs) := by
  induction vs with
  | nil => exact alike_pure _
  | cons v vs inductionHypothesis =>
    exact (alike_renderFile similar v).bind fun _ => inductionHypothesis

/-- Command lines do not count before the command is prepared. -/
theorem alike_beforeRendering (source : PackageSource) :
    Action.Alike (Exchanged related) (beforeRendering source) (beforeRendering source) := by
  refine alike_ofState fun s p known => ?_
  change Action.Alike (Exchanged related) (if s.info.isNone then _ else _)
    (if s.info.isNone then _ else _)
  split
  · exact alike_throw _
  · refine (alike_onDisk _).bind fun _ => (alike_log _ _).bind fun _ => ?_
    refine alike_objects.bind fun o => Alike.bind ?_ fun _ => ?_
    · simp only [BuildPlan.subject,
        LibraryManager.installRequired_of_declared (similar _ _ known).libraries]
      exact alike_onLibraries _
    refine (alike_enter _).bind fun _ => (alike_log _ _).bind fun _ => Alike.bind ?_ fun _ => ?_
    · simp only [AssetStager.stage_of_similar (similar _ _ known)]
      exact alike_onAssets _
    · exact alike_enter _

end

/-! ### Steps of sessions that agree -/

/-- Everything but the program: the parameters and their objects, the state, the last command, what
was installed, staged and compiled, the log, the calls of the collaborators, and the files. -/
def observed (now : Session × World) : Session × World := (now.1.withProgram ⟨[], [], none⟩, now.2)

/-- What can be observed after each call, and its answer; the latest comes first. -/
def observations (moments : List Moment) : List (Outcome Answer × Session × World) :=
  moments.map fun m => (m.answer, observed m.after)

/-- A build of a program: the session is created, then the calls are made one after the other. -/
def build (program : Program) (settings : Settings) (target : BuildTarget)
    (standard : List Subtarget) (configuration : Configuration) (toolchain : Option Text)
    (cwd : Path) (t : FileTree) (clock : List Nat) (calls : List Call) :
    Outcome ((Session × World) × List (Outcome Answer × Session × World)) := do
  let (s, log) ← new program settings target standard configuration toolchain cwd
  let start := (s, { World.ofFiles t with log, clock })
  return (observed start, observations (follow calls [] start).1)

namespace Small

end Small

end Session

end HaxeBuild
