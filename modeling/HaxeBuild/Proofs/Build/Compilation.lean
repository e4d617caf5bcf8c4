import HaxeBuild.Build.Steps
import HaxeBuild.Proofs.Effect

namespace HaxeBuild

open Effect HaxeBuild.Action

namespace AssetStager

/-- Any state of a stager is as good as any other. -/
abbrev Any : AssetStager → Prop := fun _ => True

/-- The stager stages into the directory, or is idle if there is none. -/
abbrev At (directory : Option Path) : AssetStager → Prop := fun a => a.staging = directory

/-- A claim is remembered, and it may be worth a warning. -/
theorem perform_claim (destination : Path) (source : Text) (a : AssetStager) (w : World) :
    ∃ log, perform (claim destination source) (a, w) =
      (.ok (), ({ a with claims := setClaim destination source a.claims }, { w with log })) := by
  rw [claim, perform_bind_ok (perform_state a w)]
  dsimp only
  split
  · split
    · exact ⟨_, rfl⟩
    · exact ⟨w.log, rfl⟩
  · exact ⟨w.log, rfl⟩

variable {staging : Option Path}

/-- A claim is bookkeeping of the stager alone. -/
theorem quiet_claim (destination : Path) (source : Text) :
    Quiet (At staging) (claim destination source) := by
  intro asked runs ⟨a, w⟩ known
  obtain ⟨log, claimed⟩ := perform_claim destination source a w
  rw [claimed]
  exact ⟨known, fun _ _ => trivial⟩

/-- Staging a resource asks for no library, runs nothing and keeps the directory. -/
theorem quiet_stageResource (p : Program) (directory : Path) (v : Value) :
    Quiet (At staging) (stageResource p directory v) := by
  refine (quiet_log _ _).bind fun _ => (quiet_ofOutcome _).bind fun path => ?_
  refine quiet_files.bind fun t => (quiet_ofOutcome _).bind fun destination => ?_
  refine (quiet_claim _ _).bind fun _ => (quiet_onDisk _).bind fun _ => ?_
  refine quiet_files.bind fun t => (quiet_ofOutcome _).bind fun content => ?_
  exact (quiet_onDisk _).bind fun _ => quiet_pure _

theorem quiet_stageResources (p : Program) (directory : Path) (vs : List Value) :
    Quiet (At staging) (stageResources p directory vs) := by
  induction vs with
  | nil => exact quiet_pure _
  | cons v vs inductionHypothesis =>
    refine (quiet_stageResource p directory v).bind fun _ => ?_
    exact inductionHypothesis.bind fun _ => quiet_pure _

theorem quiet_stageEmbedded (p : Program) : Quiet (At staging) (stageEmbedded p) := by
  refine quiet_state.bind fun a => ?_
  split
  · exact quiet_pure _
  · exact (quiet_log _ _).bind fun _ => quiet_stageResources _ _ _

/-- So does copying files. -/
theorem quiet_copyAll (pairs : List (Path × Path)) : Quiet (At staging) (copyAll pairs) := by
  induction pairs with
  | nil => exact quiet_pure _
  | cons pair pairs inductionHypothesis =>
    refine (quiet_claim _ _).bind fun _ => (quiet_onDisk _).bind fun _ => ?_
    exact (quiet_onDisk _).bind fun _ => inductionHypothesis.bind fun _ => quiet_pure _

/-- So does staging a tree. -/
theorem quiet_stageTree (directory tree : Path) : Quiet (At staging) (stageTree directory tree) := by
  refine (quiet_onDisk _).bind fun found => ?_
  split
  · exact quiet_throw _
  · refine (quiet_log _ _).bind fun _ => quiet_files.bind fun t => ?_
    exact quiet_copyAll _

theorem quiet_stageAll (directory : Path) (trees : List Value) :
    Quiet (At staging) (stageAll directory trees) := by
  induction trees with
  | nil => exact quiet_pure _
  | cons v trees inductionHypothesis =>
    refine (quiet_ofOutcome _).bind fun tree => (quiet_stageTree directory tree).bind fun _ => ?_
    exact inductionHypothesis.bind fun _ => quiet_pure _

theorem quiet_stageTrees (trees : List Value) : Quiet (At staging) (stageTrees trees) := by
  refine quiet_state.bind fun a => ?_
  split
  · exact quiet_pure _
  · exact quiet_stageAll _ _

/-- So does a whole staging. -/
theorem quiet_stage (p : Program) (s : Settings) : Quiet (At staging) (stage p s) := by
  refine .ofState fun a is => ?_
  split
  · exact (quiet_log _ _).bind fun _ => quiet_pure _
  · have cleared : At staging { a with claims := [] } := is
    refine (quiet_setState cleared).bind fun _ => (quiet_stageEmbedded p).bind fun _ => ?_
    exact (quiet_stageTrees _).bind fun _ => quiet_pure _

end AssetStager

namespace Session

/-- The session stays the same. -/
theorem quiet_renderLogged (s : Session) (template : Text) :
    Quiet (· = s) (renderLogged template) := by
  refine quiet_state.bind fun _ => .ofObjects fun _ => ?_
  refine Quiet.bind (quiet_onWorld ?_) fun _ => quiet_ofOutcome _
  exact fun _ => ⟨rfl, rfl⟩

/-- Rendering a file asks for no library, runs nothing and keeps the session. -/
theorem quiet_renderFile (s : Session) (v : Value) : Quiet (· = s) (renderFile v) := by
  refine quiet_state.bind fun _ => (quiet_log _ _).bind fun _ => ?_
  refine (quiet_ofOutcome _).bind fun path => quiet_files.bind fun t => ?_
  refine (quiet_ofOutcome _).bind fun destination => (quiet_onDisk _).bind fun _ => ?_
  refine quiet_files.bind fun t => (quiet_ofOutcome _).bind fun template => ?_
  exact (quiet_renderLogged s template).bind fun _ => quiet_onDisk _

theorem quiet_renderFiles (s : Session) (vs : List Value) : Quiet (· = s) (renderFiles vs) := by
  induction vs with
  | nil => exact quiet_pure _
  | cons v vs inductionHypothesis =>
    exact (quiet_renderFile s v).bind fun _ => inductionHypothesis

/-- The paths that are rendered before the toolchain runs. -/
def prebuildFiles (p : BuildPlan) : List Value :=
  Value.flattenAll (p.program.metadata .filesBeforeBuildTemplate)

/-- What a compilation does before it renders files. -/
def beforeRendering (source : PackageSource) : Step Unit := do
  let s ← Action.state
  let p := s.plan
  if s.info.isNone then throw (.outOfOrder .sources)
  else
    Action.onDisk (Disk.remove p.outputFile)
    Action.log .info ("Build source path: " ++ p.srcFolder.toText)
    let settings := p.settingsNow (← Action.objects)
    let _ ← onLibraries (LibraryManager.installRequired source p.subject (some settings))
    enter .librariesInstalled
    Action.log .info "Copying assets..."
    let _ ← onAssets (AssetStager.stage p.program settings)
    enter .assetsStaged

/-- A compilation renders its files between two parts. -/
theorem perform_compile (source : PackageSource) (runner : ProcessRunner) (check : Bool)
    (s : Session) (w : World) :
    perform (compile source runner check) (s, w) = perform (do
      beforeRendering source
      renderFiles (prebuildFiles s.plan)
      let (binary, arguments) ← prepareCommand
      runToolchain runner check binary arguments) (s, w) := by
  rw [compile, beforeRendering, bind_assoc, perform_bind_ok (perform_state s w),
    perform_bind_ok (perform_state s w)]
  cases s.info with
  | none => rfl
  | some info =>
    simp only [Option.isNone_some, Bool.false_eq_true, if_false, bind_assoc]
    rfl

/-- A rendering answers, logs and changes objects, and does nothing else. -/
theorem perform_renderLogged (template : Text) (s : Session) (w : World) :
    perform (renderLogged template) (s, w) =
      ((s.render w.objects template).result, (s, { w with
        log := w.log ++ (s.render w.objects template).log
        objects := (s.render w.objects template).objects })) := by
  simp only [renderLogged, perform_bind, perform_state, perform_objects, perform_onWorld,
    perform_ofOutcome]

/-- What the command line is rendered to, and what that leaves behind. -/
def renderedCommand (s : Session) (o : Objects) : Template.Rendering :=
  s.render o (Command.template s.plan.program)

/-- How the command is prepared: it may not render, it may render to nothing, or there it is. -/
inductive CommandExit (s : Session) (w : World) : Outcome (Text × List Text) → Session → World →
    Prop where
  | unrendered {e : BuildError} {log : Log} (failed : (renderedCommand s w.objects).result = .error e) :
      CommandExit s w (.error e) s
        { w with log, objects := (renderedCommand s w.objects).objects }
  | empty {text : Text} {log : Log} (rendered : (renderedCommand s w.objects).result = .ok text)
      (nothing : Command.split text = []) :
      CommandExit s w (.error (.toolchain (-1) "Build command rendered empty" []))
        { s with lastCommand := [] }
        { w with log, objects := (renderedCommand s w.objects).objects }
  | prepared {text binary : Text} {arguments : List Text} {log : Log}
      (rendered : (renderedCommand s w.objects).result = .ok text)
      (command : Command.split text = binary :: arguments) :
      CommandExit s w (.ok (binary, arguments)) { s with lastCommand := binary :: arguments }
        { w with log, objects := (renderedCommand s w.objects).objects }

/-- However the command is prepared, it ends in one of the three ways. -/
theorem exit_of_prepareCommand {s s' : Session} {w w' : World} {o : Outcome (Text × List Text)}
    (performed : perform prepareCommand (s, w) = (o, (s', w'))) : CommandExit s w o s' w' := by
  rw [prepareCommand, perform_bind_ok (perform_state s w)] at performed
  rcases logged : perform (renderLogged (Command.template s.plan.program)) (s, w)
    with ⟨e | text, s1, w1⟩
  · rw [perform_bind_error logged] at performed
    cases performed
    rw [perform_renderLogged] at logged
    obtain ⟨failed, rfl, rfl⟩ := Prod.mk.inj logged
    exact .unrendered failed
  · rw [perform_bind_ok logged] at performed
    rw [perform_renderLogged] at logged
    obtain ⟨rendered, rfl, rfl⟩ := Prod.mk.inj logged
    simp only [update, perform_bind, perform_state, perform_setState] at performed
    split at performed
    · rename_i nothing
      rw [nothing] at performed
      cases performed
      exact .empty rendered nothing
    · rename_i binary arguments command
      rw [command] at performed
      cases performed
      exact .prepared rendered command

@[simp] theorem perform_enter (state : BuildState) (s : Session) (w : World) :
    perform (enter state) (s, w) = (.ok (), ({ s with state }, w)) := rfl

/-- Work on the libraries changes no other part of the session. -/
theorem perform_onLibraries {α : Type} (act : Action LibraryManager α) (s : Session) (w : World) :
    perform (onLibraries act) (s, w) =
      ((perform act (s.libraries, w)).1,
        ({ s with libraries := (perform act (s.libraries, w)).2.1 },
          (perform act (s.libraries, w)).2.2)) := rfl

/-- Work on the assets changes no other part of the session. -/
theorem perform_onAssets {α : Type} (act : Action AssetStager α) (s : Session) (w : World) :
    perform (onAssets act) (s, w) =
      ((perform act (s.assets, w)).1,
        ({ s with assets := (perform act (s.assets, w)).2.1 },
          (perform act (s.assets, w)).2.2)) := rfl

/-- What a process leaves behind is in the world, and the process is on record. -/
structure Ran (runner : ProcessRunner) (i : Invocation) (w w' : World) : Prop where
  files : w'.files = (runner w.runs i w.files).files
  asked : w'.asked = w.asked
  runs : w'.runs = w.runs ++ [i]
  objects : w'.objects = w.objects

/-- How a run of the toolchain ends: it may not start, it may fail, or it succeeds. -/
inductive ToolchainExit (runner : ProcessRunner) (check : Bool) (i : Invocation) (s : Session)
    (w : World) : Outcome Bool → Session → World → Prop where
  | unstarted {f : Fault} {w' : World} (ran : Ran runner i w w')
      (raised : (runner w.runs i w.files).result = .error f) :
      ToolchainExit runner check i s w (.error (.fault f)) s w'
  | failed {r : ProcessResult} {w' : World} (ran : Ran runner i w w')
      (returned : (runner w.runs i w.files).result = .ok r) (fails : r.success = false) :
      ToolchainExit runner check i s w
        (if check then .error (.toolchain r.exitCode r.output (i.binary :: i.arguments))
          else .ok false)
        { s with compileResult := some r } w'
  | succeeded {r : ProcessResult} {w' : World} (ran : Ran runner i w w')
      (returned : (runner w.runs i w.files).result = .ok r) (succeeds : r.success = true) :
      ToolchainExit runner check i s w (.ok true)
        { s with compileResult := some r, state := .compiled } w'

/-- The toolchain leaves the command of the session as it is. -/
theorem ToolchainExit.lastCommand_eq {runner : ProcessRunner} {check : Bool} {i : Invocation}
    {s s' : Session} {w w' : World} {o : Outcome Bool}
    (exit : ToolchainExit runner check i s w o s' w') : s'.lastCommand = s.lastCommand := by
  cases exit <;> rfl

/-- However the toolchain ends, it was run once. -/
theorem ToolchainExit.runs_eq {runner : ProcessRunner} {check : Bool} {i : Invocation}
    {s s' : Session} {w w' : World} {o : Outcome Bool}
    (exit : ToolchainExit runner check i s w o s' w') : w'.runs = w.runs ++ [i] := by
  cases exit with
  | unstarted ran => exact ran.runs
  | failed ran => exact ran.runs
  | succeeded ran => exact ran.runs

/-- The toolchain sees no objects. -/
theorem ToolchainExit.objects_eq {runner : ProcessRunner} {check : Bool} {i : Invocation}
    {s s' : Session} {w w' : World} {o : Outcome Bool}
    (exit : ToolchainExit runner check i s w o s' w') : w'.objects = w.objects := by
  cases exit with
  | unstarted ran => exact ran.objects
  | failed ran => exact ran.objects
  | succeeded ran => exact ran.objects

/-- However the toolchain is run, it ends in one of these ways. -/
theorem exit_of_runToolchain {runner : ProcessRunner} {check : Bool} {binary : Text}
    {arguments : List Text} {s s' : Session} {w w' : World} {o : Outcome Bool}
    (performed : perform (runToolchain runner check binary arguments) (s, w) = (o, (s', w'))) :
    ToolchainExit runner check ⟨s.plan.srcFolder, binary, arguments, true⟩ s w o s' w' := by
  rw [runToolchain, perform_bind_ok (perform_state s w), perform_bind_ok (perform_log _ _ s w),
    perform_bind, perform_run] at performed
  rcases returned : (runner w.runs ⟨s.plan.srcFolder, binary, arguments, true⟩ w.files).result
    with f | r
  · simp only [returned, Outcome.ofFault] at performed
    cases performed
    exact .unstarted ⟨rfl, rfl, rfl, rfl⟩ returned
  · simp only [returned, Outcome.ofFault, enter, update, perform_bind, perform_state,
      perform_setState] at performed
    cases succeeds : r.success with
    | true =>
      simp only [succeeds, if_true, perform_bind, perform_state, perform_setState,
        perform_pure] at performed
      cases performed
      exact .succeeded ⟨rfl, rfl, rfl, rfl⟩ returned succeeds
    | false =>
      simp only [succeeds, Bool.false_eq_true, if_false, perform_bind, perform_log] at performed
      cases check
      · cases performed
        exact .failed ⟨rfl, rfl, rfl, rfl⟩ returned succeeds
      · cases performed
        exact .failed ⟨rfl, rfl, rfl, rfl⟩ returned succeeds

/-- The world without the previous artifact. -/
def clearedWorld (s : Session) (w : World) (files : FileTree) : World :=
  { w with files, log := w.log ++ [⟨.info, "Build source path: " ++ s.plan.srcFolder.toText⟩] }

/-- The sources are there, and the previous artifact was removed. -/
structure Cleared (s : Session) (w w' : World) : Prop where
  known : s.info ≠ none
  removed : perform (Disk.remove s.plan.outputFile) w.files = (.ok (), w'.files)
  world : w' = clearedWorld s w w'.files

namespace Cleared

variable {s : Session} {w w' : World}

theorem asked (cleared : Cleared s w w') : w'.asked = w.asked := by rw [cleared.world]; rfl

theorem runs (cleared : Cleared s w w') : w'.runs = w.runs := by rw [cleared.world]; rfl

theorem objects (cleared : Cleared s w w') : w'.objects = w.objects := by rw [cleared.world]; rfl

end Cleared

/-- The libraries are installed. -/
inductive Supplied (source : PackageSource) (s : Session) (w : World) : Session → World → Prop where
  | intro {m : LibraryManager} {w1 w2 : World} {ls : List LibraryReference}
      (cleared : Cleared s w w1)
      (installed : perform (LibraryManager.installRequired source s.plan.subject
        (some (s.plan.settingsNow w.objects))) (s.libraries, w1) = (.ok ls, (m, w2))) :
      Supplied source s w { s with libraries := m, state := .librariesInstalled } w2

/-- The assets are staged. -/
inductive Staged (source : PackageSource) (s : Session) (w : World) : Session → World → Prop where
  | intro {s1 : Session} {a : AssetStager} {w1 w2 : World} {log : Log} {paths : List Path}
      (supplied : Supplied source s w s1 w1)
      (staged : perform (AssetStager.stage s.plan.program (s.plan.settingsNow w.objects))
        (s1.assets, { w1 with log }) = (.ok paths, (a, w2))) :
      Staged source s w { s1 with assets := a, state := .assetsStaged } w2

/-- The files are rendered. -/
inductive Rendered (source : PackageSource) (s : Session) (w : World) : Session → World → Prop where
  | intro {s1 : Session} {w1 w2 : World} (staged : Staged source s w s1 w1)
      (rendered : perform (renderFiles (prebuildFiles s.plan)) (s1, w1) = (.ok (), (s1, w2))) :
      Rendered source s w s1 w2

/-- The command is prepared. -/
inductive Prepared (source : PackageSource) (s : Session) (w : World) (binary : Text)
    (arguments : List Text) : Session → World → Prop where
  | intro {s1 : Session} {w1 : World} {log : Log} {objects : Objects}
      (rendered : Rendered source s w s1 w1)
      (prepared : perform prepareCommand (s1, w1) =
        (.ok (binary, arguments), ({ s1 with lastCommand := binary :: arguments },
          { w1 with log, objects }))) :
      Prepared source s w binary arguments { s1 with lastCommand := binary :: arguments }
        { w1 with log, objects }

/-- How a compilation ends: before the sources are there, in one of its phases, or with the
toolchain. -/
inductive CompileExit (source : PackageSource) (runner : ProcessRunner) (check : Bool)
    (s : Session) (w : World) : Outcome Bool → Session → World → Prop where
  | outOfOrder (unknown : s.info = none) :
      CompileExit source runner check s w (.error (.outOfOrder .sources)) s w
  | uncleared {f : Fault} {t : FileTree} (known : s.info ≠ none)
      (kept : perform (Disk.remove s.plan.outputFile) w.files = (.error f, t)) :
      CompileExit source runner check s w (.error (.fault f)) s { w with files := t }
  | unsupplied {e : BuildError} {m : LibraryManager} {w1 w2 : World} (cleared : Cleared s w w1)
      (refused : perform (LibraryManager.installRequired source s.plan.subject
        (some (s.plan.settingsNow w.objects))) (s.libraries, w1) = (.error e, (m, w2))) :
      CompileExit source runner check s w (.error e) { s with libraries := m } w2
  | unstaged {e : BuildError} {s1 : Session} {a : AssetStager} {w1 w2 : World} {log : Log}
      (supplied : Supplied source s w s1 w1)
      (unfinished : perform (AssetStager.stage s.plan.program (s.plan.settingsNow w.objects))
        (s1.assets, { w1 with log }) = (.error e, (a, w2))) :
      CompileExit source runner check s w (.error e) { s1 with assets := a } w2
  | unrendered {e : BuildError} {s1 : Session} {w1 w2 : World} (staged : Staged source s w s1 w1)
      (unfinished : perform (renderFiles (prebuildFiles s.plan)) (s1, w1) =
        (.error e, (s1, w2))) :
      CompileExit source runner check s w (.error e) s1 w2
  | unprepared {e : BuildError} {s1 s2 : Session} {w1 w2 : World}
      (rendered : Rendered source s w s1 w1)
      (unfinished : perform prepareCommand (s1, w1) = (.error e, (s2, w2))) :
      CompileExit source runner check s w (.error e) s2 w2
  | finished {o : Outcome Bool} {binary : Text} {arguments : List Text} {s1 s2 : Session}
      {w1 w2 : World} (prepared : Prepared source s w binary arguments s1 w1)
      (exit : ToolchainExit runner check ⟨s.plan.srcFolder, binary, arguments, true⟩ s1 w1
        o s2 w2) :
      CompileExit source runner check s w o s2 w2

/-- Between the two only assets were staged, files and log were written, and a command was
prepared. -/
structure Follows (s : Session) (w : World) (s' : Session) (w' : World) : Prop where
  plan : s'.plan = s.plan
  libraries : s'.libraries = s.libraries
  parameters : s'.parameters = s.parameters
  staging : s'.assets.staging = s.assets.staging
  info : s'.info = s.info
  compileResult : s'.compileResult = s.compileResult
  asked : w'.asked = w.asked
  runs : w'.runs = w.runs

/-- Phases that follow each other follow as a whole. -/
theorem Follows.trans {s s1 s2 : Session} {w w1 w2 : World} (first : Follows s w s1 w1)
    (second : Follows s1 w1 s2 w2) : Follows s w s2 w2 where
  plan := second.plan.trans first.plan
  libraries := second.libraries.trans first.libraries
  parameters := second.parameters.trans first.parameters
  staging := second.staging.trans first.staging
  info := second.info.trans first.info
  compileResult := second.compileResult.trans first.compileResult
  asked := second.asked.trans first.asked
  runs := second.runs.trans first.runs

/-- A staging follows what was before, whether it succeeds or fails. -/
theorem follows_of_stage {p : Program} {settings : Settings} {s : Session} {a : AssetStager}
    {w w' : World} {log : Log} {o : Outcome (List Path)} (state : BuildState)
    (performed : perform (AssetStager.stage p settings) (s.assets, { w with log }) =
      (o, (a, w'))) : Follows s w { s with assets := a, state } w' := by
  have quiet := (AssetStager.quiet_stage p settings w.asked w.runs (s.assets, { w with log })
    ⟨rfl, rfl, rfl⟩).1
  rw [performed] at quiet
  exact ⟨rfl, rfl, rfl, quiet.1, rfl, rfl, quiet.2.1, quiet.2.2⟩

/-- Rendering files leaves the session, the requests and the runs as they are. -/
theorem renderFiles_keeps {vs : List Value} {s s' : Session} {w w' : World} {o : Outcome Unit}
    (performed : perform (renderFiles vs) (s, w) = (o, (s', w'))) :
    s' = s ∧ w'.asked = w.asked ∧ w'.runs = w.runs := by
  have quiet := (quiet_renderFiles s vs w.asked w.runs (s, w) ⟨rfl, rfl, rfl⟩).1
  rw [performed] at quiet
  exact quiet

/-- Rendering files follows what was before. -/
theorem follows_of_renderFiles {vs : List Value} {s s' : Session} {w w' : World} {o : Outcome Unit}
    (performed : perform (renderFiles vs) (s, w) = (o, (s', w'))) : Follows s w s' w' := by
  obtain ⟨rfl, asked, runs⟩ := renderFiles_keeps performed
  exact ⟨rfl, rfl, rfl, rfl, rfl, rfl, asked, runs⟩

/-- Preparing the command follows what was before. -/
theorem CommandExit.follows {s s' : Session} {w w' : World} {o : Outcome (Text × List Text)}
    (exit : CommandExit s w o s' w') : Follows s w s' w' := by
  cases exit with
  | unrendered => exact ⟨rfl, rfl, rfl, rfl, rfl, rfl, rfl, rfl⟩
  | empty => exact ⟨rfl, rfl, rfl, rfl, rfl, rfl, rfl, rfl⟩
  | prepared => exact ⟨rfl, rfl, rfl, rfl, rfl, rfl, rfl, rfl⟩

/-- The state of the build does not change when the command is prepared. -/
theorem CommandExit.state_eq {s s' : Session} {w w' : World} {o : Outcome (Text × List Text)}
    (exit : CommandExit s w o s' w') : s'.state = s.state := by
  cases exit <;> rfl

section Phases

variable {source : PackageSource} {s s' : Session} {w w' : World}

theorem Supplied.plan_eq (supplied : Supplied source s w s' w') : s'.plan = s.plan := by
  obtain ⟨-, -⟩ := supplied
  rfl

theorem Supplied.info_eq (supplied : Supplied source s w s' w') : s'.info = s.info := by
  obtain ⟨-, -⟩ := supplied
  rfl

theorem Supplied.parameters_eq (supplied : Supplied source s w s' w') :
    s'.parameters = s.parameters := by
  obtain ⟨-, -⟩ := supplied
  rfl

/-- The state says that the libraries are installed. -/
theorem Supplied.state_eq (supplied : Supplied source s w s' w') :
    s'.state = .librariesInstalled := by
  obtain ⟨-, -⟩ := supplied
  rfl

/-- Before the libraries were installed the artifact was removed. -/
theorem Supplied.cleared (supplied : Supplied source s w s' w') : ∃ w1, Cleared s w w1 := by
  obtain ⟨cleared, -⟩ := supplied
  exact ⟨_, cleared⟩

/-- Libraries are installed only after the sources were generated. -/
theorem Supplied.known (supplied : Supplied source s w s' w') : s.info ≠ none := by
  obtain ⟨w1, cleared⟩ := supplied.cleared
  exact cleared.known

/-- From the installed libraries on, the phases only follow each other. -/
theorem Staged.follows (staged : Staged source s w s' w') :
    ∃ s1 w1, Supplied source s w s1 w1 ∧ Follows s1 w1 s' w' := by
  obtain ⟨supplied, performed⟩ := staged
  exact ⟨_, _, supplied, follows_of_stage _ performed⟩

theorem Rendered.follows (rendered : Rendered source s w s' w') :
    ∃ s1 w1, Supplied source s w s1 w1 ∧ Follows s1 w1 s' w' := by
  obtain ⟨staged, performed⟩ := rendered
  obtain ⟨s1, w1, supplied, first⟩ := staged.follows
  exact ⟨s1, w1, supplied, first.trans (follows_of_renderFiles performed)⟩

/-- A prepared command follows the installed libraries. -/
theorem Prepared.follows {binary : Text} {arguments : List Text}
    (prepared : Prepared source s w binary arguments s' w') :
    ∃ s1 w1, Supplied source s w s1 w1 ∧ Follows s1 w1 s' w' := by
  obtain ⟨rendered, performed⟩ := prepared
  obtain ⟨s1, w1, supplied, first⟩ := rendered.follows
  exact ⟨s1, w1, supplied, first.trans (exit_of_prepareCommand performed).follows⟩

theorem Prepared.plan_eq {binary : Text} {arguments : List Text}
    (prepared : Prepared source s w binary arguments s' w') : s'.plan = s.plan := by
  obtain ⟨s1, w1, supplied, since⟩ := prepared.follows
  exact since.plan.trans supplied.plan_eq

/-- The state says that the assets are staged, and stays so up to the toolchain. -/
theorem Staged.state_eq (staged : Staged source s w s' w') : s'.state = .assetsStaged := by
  obtain ⟨-, -⟩ := staged
  rfl

theorem Rendered.state_eq (rendered : Rendered source s w s' w') : s'.state = .assetsStaged := by
  obtain ⟨staged, -⟩ := rendered
  exact staged.state_eq

theorem Prepared.state_eq {binary : Text} {arguments : List Text}
    (prepared : Prepared source s w binary arguments s' w') : s'.state = .assetsStaged := by
  obtain ⟨rendered, -⟩ := prepared
  exact rendered.state_eq

theorem Rendered.known (rendered : Rendered source s w s' w') : s.info ≠ none := by
  obtain ⟨s1, w1, supplied, -⟩ := rendered.follows
  exact supplied.known

theorem Prepared.known {binary : Text} {arguments : List Text}
    (prepared : Prepared source s w binary arguments s' w') : s.info ≠ none := by
  obtain ⟨rendered, -⟩ := prepared
  exact rendered.known

/-- The prepared command is the last command of the session. -/
theorem Prepared.lastCommand_eq {binary : Text} {arguments : List Text}
    (prepared : Prepared source s w binary arguments s' w') :
    s'.lastCommand = binary :: arguments := by
  obtain ⟨-, -⟩ := prepared
  rfl

/-- A compilation never touches the parameters. -/
theorem CompileExit.parameters_eq {runner : ProcessRunner} {check : Bool} {o : Outcome Bool}
    (exit : CompileExit source runner check s w o s' w') : s'.parameters = s.parameters := by
  have since {s1 s2 : Session} {w1 : World}
      (is : ∃ s0 w0, Supplied source s w s0 w0 ∧ Follows s0 w0 s1 w1)
      (same : s2.parameters = s1.parameters) : s2.parameters = s.parameters := by
    obtain ⟨s0, w0, supplied, follows⟩ := is
    exact same.trans (follows.parameters.trans supplied.parameters_eq)
  cases exit with
  | outOfOrder => rfl
  | uncleared => rfl
  | unsupplied => rfl
  | unstaged supplied => exact supplied.parameters_eq
  | unrendered staged => exact since staged.follows rfl
  | unprepared rendered unfinished =>
    exact since rendered.follows (exit_of_prepareCommand unfinished).follows.parameters
  | finished prepared exit =>
    refine since prepared.follows ?_
    cases exit <;> rfl

end Phases

/-- Once the assets are staged, rendering, the command and the toolchain follow. -/
theorem Staged.exit {source : PackageSource} {runner : ProcessRunner} {check : Bool}
    {s s1 s' : Session} {w w1 w' : World} {o : Outcome Bool} (staged : Staged source s w s1 w1)
    (performed : perform (do
      renderFiles (prebuildFiles s.plan)
      let (binary, arguments) ← prepareCommand
      runToolchain runner check binary arguments) (s1, w1) = (o, (s', w'))) :
    CompileExit source runner check s w o s' w' := by
  rcases finished : perform (renderFiles (prebuildFiles s.plan)) (s1, w1) with ⟨e | _, s2, w2⟩
  · obtain ⟨rfl, -, -⟩ := renderFiles_keeps finished
    rw [perform_bind_error finished] at performed
    cases performed
    exact .unrendered staged finished
  · obtain ⟨rfl, -, -⟩ := renderFiles_keeps finished
    rw [perform_bind_ok finished] at performed
    have rendered := Rendered.intro staged finished
    rcases command : perform prepareCommand (s2, w2) with ⟨e | ⟨binary, arguments⟩, s3, w3⟩
    · rw [perform_bind_error command] at performed
      cases performed
      exact .unprepared rendered command
    · rw [perform_bind_ok command] at performed
      cases exit_of_prepareCommand command with
      | prepared =>
        have prepared := Prepared.intro rendered command
        have folder := congrArg BuildPlan.srcFolder prepared.plan_eq
        refine .finished prepared ?_
        rw [← folder]
        exact exit_of_runToolchain performed

/-- However a compilation goes, it ends in one of these ways. -/
theorem exit_of_compile {source : PackageSource} {runner : ProcessRunner} {check : Bool}
    {s s' : Session} {w w' : World} {o : Outcome Bool}
    (performed : perform (compile source runner check) (s, w) = (o, (s', w'))) :
    CompileExit source runner check s w o s' w' := by
  rw [compile, perform_bind_ok (perform_state s w)] at performed
  cases known : s.info with
  | none =>
    simp only [known, Option.isNone_none, if_true, perform_throw] at performed
    cases performed
    exact .outOfOrder known
  | some i =>
    have given : s.info ≠ none := by
      rw [known]
      exact Option.some_ne_none i
    simp only [known, Option.isNone_some, Bool.false_eq_true, if_false] at performed
    rcases removed : perform (Disk.remove s.plan.outputFile) w.files with ⟨f | _, t⟩
    · rw [perform_bind_error (perform_onDisk_error removed ..)] at performed
      cases performed
      exact .uncleared given removed
    · rw [perform_bind_ok (perform_onDisk_ok removed ..), perform_bind_ok (perform_log ..),
        perform_bind_ok (perform_objects ..), perform_bind, perform_onLibraries] at performed
      have cleared : Cleared s w (clearedWorld s w t) := ⟨given, removed, rfl⟩
      rcases installed : perform (LibraryManager.installRequired source s.plan.subject
        (some (s.plan.settingsNow w.objects))) (s.libraries, clearedWorld s w t)
        with ⟨e | ls, m, w2⟩
      · rw [clearedWorld] at installed
        rw [installed] at performed
        cases performed
        exact .unsupplied cleared installed
      · rw [clearedWorld] at installed
        rw [installed] at performed
        have supplied := Supplied.intro cleared installed
        simp only [perform_bind_ok (perform_enter ..),
          perform_bind_ok (perform_log ..)] at performed
        rw [perform_bind, perform_onAssets] at performed
        rcases finished : perform (AssetStager.stage s.plan.program (s.plan.settingsNow w.objects))
          (s.assets, { w2 with log := w2.log ++ [⟨.info, "Copying assets..."⟩] })
          with ⟨e | paths, a, w3⟩
        · simp only [finished] at performed
          cases performed
          exact .unstaged supplied finished
        · simp only [finished] at performed
          have staged := Staged.intro supplied finished
          rw [perform_bind_ok (perform_enter ..)] at performed
          exact staged.exit performed

end Session

end HaxeBuild
