import HaxeBuild.Proofs.Build.Tasks

namespace HaxeBuild

open Effect HaxeBuild.Action

namespace Session

/-- What the classes of a program declare for a kind. A list or a tuple declares each of its
members. -/
def entries (p : Program) (kind : MetadataKind) : List Value :=
  p.classes.flatMap fun c => (c.metadata.values kind).flatMap fun v =>
    (v.list?.or v.tuple?).getD [v]

theorem entries_eq (p : Program) (kind : MetadataKind) :
    entries p kind = Value.flattenAll (p.metadata kind) := by
  rw [Value.flattenAll, Program.metadata, List.flatMap_assoc]
  rfl

/-- What is staged if there is a directory for it. -/
def stagings (p : BuildPlan) (o : Objects) : List Task :=
  match p.assetsDir with
  | none => []
  | some directory =>
    (entries p.program .addAssets).map (.stage directory) ++
      (p.settingsNow o).assets.map (.merge directory)

/-- The libraries are listed, and those that are not installed yet are asked for. -/
def askings (s : Session) (o : Objects) : List Task :=
  .list :: match s.libraries.requiredNow s.plan.subject (some (s.plan.settingsNow o)) with
    | .ok required => (s.libraries.pending required).map .ask
    | .error _ => []

def renderings (p : BuildPlan) : List Task :=
  (entries p.program .filesBeforeBuildTemplate).map .render

/-- The tasks of a compilation before its command, in their order. -/
def preparations (s : Session) (o : Objects) : List Task :=
  [.remove] ++ askings s o ++ stagings s.plan o ++ renderings s.plan

/-- The tasks of a compilation in their order. -/
def tasks (s : Session) (o : Objects) : List Task := preparations s o ++ [.prepare]

/-- The phases of the tasks follow each other, and none comes after the given one. -/
structure InPhases (tasks : List Task) (last : Nat) : Prop where
  order : tasks.Pairwise fun a b => a.phase ≤ b.phase
  bound : ∀ task ∈ tasks, task.phase ≤ last

namespace InPhases

variable {tasks more : List Task} {last next : Nat}

theorem of_phase (all : ∀ task ∈ tasks, task.phase = last) : InPhases tasks last where
  order := List.pairwise_of_forall_mem_list fun a first b second => by
    rw [all a first, all b second]
  bound := fun task among => (all task among).le

theorem append (phases : InPhases tasks last) (later : last ≤ next)
    (all : ∀ task ∈ more, task.phase = next) : InPhases (tasks ++ more) next where
  order := by
    refine List.pairwise_append.mpr ⟨phases.order, (of_phase all).order, ?_⟩
    intro a first b second
    rw [all b second]
    exact (phases.bound a first).trans later
  bound := by
    intro task among
    rcases List.mem_append.mp among with first | second
    · exact (phases.bound task first).trans later
    · exact (all task second).le

theorem append_map {α : Type} (phases : InPhases tasks last) (later : last ≤ next) (f : α → Task)
    (all : ∀ a, (f a).phase = next) (as : List α) : InPhases (tasks ++ as.map f) next :=
  phases.append later (List.forall_mem_map.mpr fun a _ => all a)

end InPhases

theorem phase_of_mem_stagings {p : BuildPlan} {o : Objects} {task : Task}
    (among : task ∈ stagings p o) : task.phase = 2 := by
  rw [stagings] at among
  split at among
  · cases among
  · rcases List.mem_append.mp among with resource | tree
    · obtain ⟨v, -, rfl⟩ := List.mem_map.mp resource
      rfl
    · obtain ⟨v, -, rfl⟩ := List.mem_map.mp tree
      rfl

/-- Libraries are asked for in the second phase. -/
theorem phase_of_mem_askings {s : Session} {o : Objects} {task : Task}
    (among : task ∈ askings s o) : task.phase = 1 := by
  rw [askings] at among
  rcases List.mem_cons.mp among with rfl | asked
  · rfl
  · split at asked
    · obtain ⟨l, -, rfl⟩ := List.mem_map.mp asked
      rfl
    · cases asked

/-- The tasks come in the order of their phases. -/
theorem inPhases_tasks (s : Session) (o : Objects) : InPhases (s.tasks o) 4 := by
  have removed : InPhases [.remove] 0 := .of_phase (List.forall_mem_singleton.mpr rfl)
  have asked : InPhases (_ ++ askings s o) 1 :=
    removed.append (Nat.zero_le 1) fun _ => phase_of_mem_askings
  have staged : InPhases (_ ++ stagings s.plan o) 2 :=
    asked.append (Nat.le_succ 1) fun _ => phase_of_mem_stagings
  have rendered := staged.append_map (Nat.le_succ 2) .render (fun _ => rfl)
    (entries s.plan.program .filesBeforeBuildTemplate)
  exact rendered.append (Nat.le_succ 3) (List.forall_mem_singleton.mpr rfl)

/-- Staging the resources carries out one task for each. -/
theorem carries_stageEmbedded (source : PackageSource) (s : Session) (directory : Path) :
    Carries source s (AssetStager.At (some directory))
      ((entries s.plan.program .addAssets).map (.stage directory))
      (AssetStager.stageEmbedded s.plan.program) := by
  rw [entries_eq]
  refine .ofState fun a is => ?_
  simp only [show a.staging = some directory from is]
  exact (carries_log _ _).bind fun _ => carries_stageResources _

/-- Staging the trees carries out one task for each. -/
theorem carries_stageTrees {source : PackageSource} {s : Session} {directory : Path}
    (trees : List Value) :
    Carries source s (AssetStager.At (some directory)) (trees.map (.merge directory))
      (AssetStager.stageTrees trees) := by
  refine .ofState fun a is => ?_
  simp only [show a.staging = some directory from is]
  exact carries_stageAll trees

/-- A staging carries out the tasks of the plan. -/
theorem carries_stage (source : PackageSource) (s : Session) (o : Objects) :
    Carries source s (AssetStager.At s.plan.assetsDir) (stagings s.plan o)
      (AssetStager.stage s.plan.program (s.plan.settingsNow o)) := by
  rw [stagings]
  cases s.plan.assetsDir with
  | none =>
    refine .ofState fun ⟨staging, claims⟩ is => ?_
    cases show staging = none from is
    exact (carries_log _ _).bind fun _ => carries_pure []
  | some directory =>
    refine .ofState fun ⟨staging, claims⟩ is => ?_
    cases show staging = some directory from is
    have cleared : AssetStager.At (some directory) ⟨some directory, []⟩ := rfl
    have all := (carries_setState cleared).bind fun _ =>
      (carries_stageEmbedded source s directory).bind fun paths =>
        (carries_stageTrees (s.plan.settingsNow o).assets).bind fun others =>
          carries_pure (paths ++ others)
    rw [List.append_nil] at all
    exact all

/-- The stager has the directory of the plan. -/
def StagesAsPlanned (s : Session) : Prop := s.assets.staging = s.plan.assetsDir

namespace StagesAsPlanned

variable {source : PackageSource} {s s' : Session} {w w' : World}

/-- The plan of a staging depends on the stager's directory alone. -/
theorem keep (planned : StagesAsPlanned s) (staging : s'.assets.staging = s.assets.staging)
    (plan : s'.plan = s.plan) : StagesAsPlanned s' := by
  rw [StagesAsPlanned, staging, plan]
  exact planned

theorem follows (planned : StagesAsPlanned s) (since : Follows s w s' w') : StagesAsPlanned s' :=
  planned.keep since.staging since.plan

theorem supplied (planned : StagesAsPlanned s) (is : Supplied source s w s' w') :
    StagesAsPlanned s' := by
  obtain ⟨-, -⟩ := is
  exact planned

theorem since (planned : StagesAsPlanned s)
    (is : ∃ s1 w1, Supplied source s w s1 w1 ∧ Follows s1 w1 s' w') : StagesAsPlanned s' := by
  obtain ⟨s1, w1, supplied, since⟩ := is
  exact (planned.supplied supplied).follows since

/-- A compilation keeps to the plan. -/
theorem compiled {runner : ProcessRunner} {check : Bool} {o : Outcome Bool}
    (planned : StagesAsPlanned s) (exit : CompileExit source runner check s w o s' w') :
    StagesAsPlanned s' := by
  cases exit with
  | outOfOrder => exact planned
  | uncleared => exact planned
  | unsupplied => exact planned
  | unstaged supplied unfinished =>
    exact (planned.supplied supplied).follows (follows_of_stage _ unfinished)
  | unrendered staged unfinished =>
    exact (planned.since staged.follows).follows (follows_of_renderFiles unfinished)
  | unprepared rendered unfinished =>
    have exit := exit_of_prepareCommand unfinished
    exact (planned.since rendered.follows).follows exit.follows
  | finished prepared exit =>
    have now := planned.since prepared.follows
    cases exit <;> exact now

/-- So does every call. -/
theorem goes {call : Call} {o : Outcome Answer} (planned : StagesAsPlanned s)
    (goes : Goes s w call o s' w') : StagesAsPlanned s' := by
  cases goes with
  | buildSource exit => cases exit <;> exact planned
  | compile exit => exact planned.compiled exit
  | run exit => cases exit <;> exact planned
  | render => exact planned
  | added => exact planned
  | refused => exact planned
  | changeProgram => exact planned
  | changeFiles => exact planned

end StagesAsPlanned

/-- A session stages into the directory of its plan, however it was reached. -/
theorem Reached.stagesAsPlanned {past : List Moment} {s : Session} {w : World}
    (reached : Reached past s w) : StagesAsPlanned s := by
  induction reached with
  | created t clock made =>
    obtain ⟨required, new⟩ := isNew_of_new made
    exact new.staging
  | next reached call inductionHypothesis => exact inductionHypothesis.goes (goes_call call _ _)

section Advance

variable {source : PackageSource} {s s' : Session} {w w' : World}
  {declared : List LibraryReference}

/-- Installing libraries leaves the assets alone. -/
theorem Supplied.assets_eq (supplied : Supplied source s w s' w') : s'.assets = s.assets := by
  obtain ⟨-, -⟩ := supplied
  rfl

/-- It leaves the result of earlier compilations as well. -/
theorem Supplied.compileResult_eq (supplied : Supplied source s w s' w') :
    s'.compileResult = s.compileResult := by
  obtain ⟨-, -⟩ := supplied
  rfl

/-- From the start of a compilation to its command, templates keep their meaning, and so does the
last result. -/
theorem rendersAs_since (is : ∃ s1 w1, Supplied source s w s1 w1 ∧ Follows s1 w1 s' w') :
    RendersAs s s' ∧ s'.compileResult = s.compileResult := by
  obtain ⟨s1, w1, supplied, since⟩ := is
  exact ⟨⟨since.plan.trans supplied.plan_eq, since.parameters.trans supplied.parameters_eq⟩,
    since.compileResult.trans supplied.compileResult_eq⟩

/-- Removing the artifact is the first task. -/
theorem Cleared.inTurn (cleared : Cleared s w w') :
    InTurn source s [.remove] w.traces (.ok ()) w'.traces := by
  rw [World.traces_eq cleared.asked cleared.runs, World.tracesTo_eq cleared.objects]
  exact .next (.removed (Disk.removed_of_remove cleared.removed)) .none

/-- An installation lists what is required and asks for what is missing. -/
theorem Stocked.inTurn (stocked : Stocked s w declared) {cleared : World}
    (is : Cleared s w cleared) {o : Outcome (List LibraryReference)} {m : LibraryManager}
    (performed : perform (LibraryManager.installRequired source s.plan.subject
      (some (s.plan.settingsNow w.objects))) (s.libraries, cleared) = (o, (m, w'))) :
    InTurn source s (askings s w.objects) cleared.traces (o.map fun _ => ()) w'.traces := by
  have required (settings : Settings) :
      s.libraries.requiredNow s.plan.subject (some settings) =
        LibraryReference.withSettings declared (some settings) := by
    rw [LibraryManager.requiredNow, LibraryManager.declaredNow, stocked.read]
    rfl
  rw [askings]
  cases stocked.installation performed with
  | unreadable bad =>
    refine .stopped (.unlisted ?_)
    rw [World.traces, is.objects, required, bad]
  | @asked ls _ _ _ _ listed supply ends =>
    have asked := supply.asked
    have listed := (required _).trans listed
    have turn : InTurn source s _ cleared.traces _ _ :=
      inTurn_of_asks supply.asks asked.answers (ends.map fun _ => ())
    have left : w'.traces = { cleared.traces with files := w'.files, asked := w'.asked } := by
      rw [World.traces, asked.runs, asked.objects]
      rfl
    have known : s.libraries.requiredNow s.plan.subject
        (some (s.plan.settingsNow cleared.traces.objects)) = .ok ls := by
      rw [World.traces, is.objects, listed]
    rw [listed, left, asked.asked]
    exact .next (.listed known) turn

/-- Up to the installed libraries the tasks were done in turn. -/
theorem Supplied.inTurn (stocked : Stocked s w declared) (supplied : Supplied source s w s' w') :
    InTurn source s ([.remove] ++ askings s w.objects) w.traces (.ok ()) w'.traces := by
  obtain ⟨cleared, installed⟩ := supplied
  exact cleared.inTurn.append (stocked.inTurn cleared installed)

/-- The tasks up to the assets, whether all of these are staged or not. -/
theorem Supplied.stagingInTurn (stocked : Stocked s w declared)
    (planned : StagesAsPlanned s) {s1 : Session} {w1 : World} {log : Log}
    {o : Outcome (List Path)} {a : AssetStager} (supplied : Supplied source s w s1 w1)
    (performed : perform (AssetStager.stage s.plan.program (s.plan.settingsNow w.objects))
      (s1.assets, { w1 with log }) = (o, (a, w'))) :
    InTurn source s ([.remove] ++ askings s w.objects ++ stagings s.plan w.objects) w.traces
      (o.map fun _ => ()) w'.traces := by
  have there : AssetStager.At s.plan.assetsDir s1.assets := by
    rw [supplied.assets_eq]
    exact planned
  have turn := (carries_stage source s w.objects s1.assets { w1 with log } there).2
  rw [performed] at turn
  exact (supplied.inTurn stocked).append turn

/-- So they were up to the staged assets. -/
theorem Staged.inTurn (stocked : Stocked s w declared)
    (planned : StagesAsPlanned s) (staged : Staged source s w s' w') :
    InTurn source s ([.remove] ++ askings s w.objects ++ stagings s.plan w.objects) w.traces
      (.ok ()) w'.traces := by
  obtain ⟨supplied, performed⟩ := staged
  exact supplied.stagingInTurn stocked planned performed

/-- The tasks up to the rendered files, whether all of these are rendered or not. -/
theorem Staged.renderingInTurn (stocked : Stocked s w declared)
    (planned : StagesAsPlanned s) {s1 s2 : Session} {w1 : World}
    {o : Outcome Unit} (staged : Staged source s w s1 w1)
    (performed : perform (renderFiles (prebuildFiles s.plan)) (s1, w1) = (o, (s2, w'))) :
    InTurn source s (preparations s w.objects) w.traces (o.map fun _ => ()) w'.traces := by
  have turn : InTurn source s _ _ _ _ :=
    (carries_renderFiles (rendersAs_since staged.follows).1 (prebuildFiles s.plan) s1 w1 rfl).2
  rw [performed, prebuildFiles, ← entries_eq] at turn
  exact (staged.inTurn stocked planned).append turn

/-- So they were up to the rendered files. -/
theorem Rendered.inTurn (stocked : Stocked s w declared)
    (planned : StagesAsPlanned s) (rendered : Rendered source s w s' w') :
    InTurn source s (preparations s w.objects) w.traces (.ok ()) w'.traces := by
  obtain ⟨staged, performed⟩ := rendered
  exact staged.renderingInTurn stocked planned performed

/-- Sessions that render alike have the same command. -/
theorem RendersAs.renderedCommand_eq {s1 : Session} (alike : RendersAs s s1) (o : Objects) :
    renderedCommand s1 o = preparedCommand s o := by
  rw [renderedCommand, alike.render_eq, alike.plan]
  rfl

/-- How far a compilation with these tasks gets: up to one that fails, which nothing follows, or to
its runner, which all of them precede. -/
inductive Advance (source : PackageSource) (runner : ProcessRunner) (check : Bool) (s : Session)
    (w : World) : Outcome Bool → Session → World → Prop where
  | stopped {before later : List Task} {task : Task} {t : Traces} {e : BuildError} {s' : Session}
      {w' : World} (split : s.tasks w.objects = before ++ task :: later)
      (done : InTurn source s before w.traces (.ok ()) t)
      (fails : task.Fails source s t e w'.traces)
      (earlier : ∀ other ∈ before, other.phase ≤ task.phase)
      (uncalled : w'.runs = w.runs) (kept : s'.compileResult = s.compileResult) :
      Advance source runner check s w (.error e) s' w'
  | called {t : Traces} {text binary : Text} {arguments : List Text} {o : Outcome Bool}
      {s1 s' : Session} {w1 w' : World}
      (done : InTurn source s (preparations s w.objects) w.traces (.ok ()) t)
      (rendered : (preparedCommand s t.objects).result = .ok text)
      (command : Command.split text = binary :: arguments)
      (ready : w1.traces = { t with objects := (preparedCommand s t.objects).objects })
      (kept : s1.compileResult = s.compileResult)
      (exit : ToolchainExit runner check ⟨s.plan.srcFolder, binary, arguments, true⟩ s1 w1 o s' w')
      (once : w'.runs = w.runs ++ [⟨s.plan.srcFolder, binary, arguments, true⟩]) :
      Advance source runner check s w o s' w'

variable {runner : ProcessRunner} {check : Bool}

/-- A task that fails is the last one that is tried. -/
theorem InTurn.advance {e : BuildError}
    (turn : InTurn source s (s.tasks w.objects) w.traces (.error e) w'.traces)
    (kept : s'.compileResult = s.compileResult) :
    Advance source runner check s w (.error e) s' w' := by
  obtain ⟨before, task, later, t, split, done, fails⟩ := turn.split
  have order := (inPhases_tasks s w.objects).order
  rw [split] at order
  have ⟨_, _, apart⟩ := List.pairwise_append.mp order
  exact .stopped split done fails (fun other among => apart other among task List.mem_cons_self)
    turn.runs_eq kept

/-- Each way in which a compilation ends tells how far it got. -/
theorem CompileExit.advance {o : Outcome Bool} (stocked : Stocked s w declared)
    (planned : StagesAsPlanned s) (known : s.info ≠ none)
    (exit : CompileExit source runner check s w o s' w') :
    Advance source runner check s w o s' w' := by
  cases exit with
  | outOfOrder unknown => exact absurd unknown known
  | uncleared _ kept =>
    have turn : InTurn source s [.remove] w.traces _ _ := .stopped (.kept kept)
    exact ((((turn.stops _).stops _).stops _).stops _).advance rfl
  | unsupplied cleared refused =>
    have turn := cleared.inTurn.append (stocked.inTurn cleared refused)
    exact (((turn.stops _).stops _).stops _).advance rfl
  | unstaged supplied unfinished =>
    have turn := supplied.stagingInTurn stocked planned unfinished
    exact ((turn.stops _).stops _).advance supplied.compileResult_eq
  | unrendered staged unfinished =>
    have turn := staged.renderingInTurn stocked planned unfinished
    exact (turn.stops _).advance (rendersAs_since staged.follows).2
  | unprepared rendered unfinished =>
    have ⟨alike, kept⟩ := rendersAs_since rendered.follows
    have done := rendered.inTurn stocked planned
    have exit := exit_of_prepareCommand unfinished
    have kept := exit.follows.compileResult.trans kept
    cases exit with
    | unrendered failed =>
      rw [alike.renderedCommand_eq] at failed ⊢
      exact (done.append (.stopped (.unprepared failed))).advance kept
    | empty rendered nothing =>
      rw [alike.renderedCommand_eq] at rendered ⊢
      exact (done.append (.stopped (.empty rendered nothing))).advance kept
  | finished prepared exit =>
    obtain ⟨rendered, performed⟩ := prepared
    have ⟨alike, kept⟩ := rendersAs_since rendered.follows
    have done := rendered.inTurn stocked planned
    have prepared := exit_of_prepareCommand performed
    have kept := prepared.follows.compileResult.trans kept
    have once : w'.runs = w.runs ++ _ := exit.runs_eq.trans (congrArg (· ++ _) done.runs_eq)
    cases prepared with
    | prepared rendered command =>
      rw [alike.renderedCommand_eq] at rendered exit
      exact .called done rendered command rfl kept exit once

end Advance

/-- A compilation does its tasks in turn. It calls its runner once, last, and only if all of them
are done. -/
theorem compile_in_turn {past : List Moment} {s : Session} {w : World} (reached : Reached past s w)
    (source : PackageSource) (runner : ProcessRunner) (check : Bool) :
    let now := (Call.compile source runner check).moment (s, w)
    (s.info = none → now.answer = .error (.outOfOrder .sources) ∧ now.after = (s, w)) ∧
      (s.info ≠ none → ∃ o, now.answer = o.map .success ∧
        Advance source runner check s w o now.after.1 now.after.2) := by
  obtain ⟨declared, stocked⟩ := reached.stocked
  have goes := goes_call (.compile source runner check) s w
  rcases ended : perform (Call.compile source runner check).act (s, w) with ⟨answer, s', w'⟩
  rw [ended] at goes
  simp only [Call.moment, ended]
  cases goes with | compile exit => ?_
  constructor
  · intro unknown
    cases exit with
    | outOfOrder => exact ⟨rfl, rfl⟩
    | uncleared known => exact absurd unknown known
    | unsupplied cleared => exact absurd unknown cleared.known
    | unstaged supplied => exact absurd unknown supplied.known
    | unrendered staged =>
      obtain ⟨s1, w1, supplied, -⟩ := staged.follows
      exact absurd unknown supplied.known
    | unprepared rendered => exact absurd unknown rendered.known
    | finished prepared => exact absurd unknown prepared.known
  · intro known
    exact ⟨_, rfl, exit.advance stocked reached.stagesAsPlanned known⟩

namespace Small

/-- A compilation stops at a file that is not there. -/
def unrendered : List Moment × Session × World :=
  follow [.buildSource generator,
    .changeProgram (·.declare 0 .filesBeforeBuildTemplate [.text "project.xml"]),
    .compile (sourceWithout []) (toolchain id) false] [] start

/-- The file is added. -/
def added : List Moment × Session × World :=
  follow [.changeProgram fun p => { p with resources := [("project.xml", [60, 47, 62])] }]
    unrendered.1 unrendered.2

/-- The compilation of the session whose files can be rendered. -/
def rendered : Moment :=
  (Call.compile (sourceWithout []) (toolchain id) false).moment (added.2.1, added.2.2)

end Small

theorem compile_in_turn_rendered :
    Small.unrendered.2.2.runs = [] ∧
      (Small.added.2.1.tasks Small.added.2.2.objects).map Task.phase = [0, 1, 3, 4] ∧
      ∃ o, Small.rendered.answer = o.map .success ∧
        Advance (Small.sourceWithout []) (Small.toolchain id) false Small.added.2.1
          Small.added.2.2 o Small.rendered.after.1 Small.rendered.after.2 ∧
        Small.rendered.after.2.runs.length = 1 := by
  have first : Reached Small.unrendered.1 Small.unrendered.2.1 Small.unrendered.2.2 :=
    Small.reached_start.follow _
  have reached : Reached Small.added.1 Small.added.2.1 Small.added.2.2 := first.follow _
  have known : Small.added.2.1.info ≠ none := by decide +kernel
  have phases : (Small.added.2.1.tasks Small.added.2.2.objects).map Task.phase = [0, 1, 3, 4] := by
    decide +kernel
  obtain ⟨o, answered, advance⟩ :=
    (compile_in_turn reached (Small.sourceWithout []) (Small.toolchain id) false).2 known
  have stopped : Small.unrendered.2.2.runs = [] := by decide +kernel
  have once : Small.rendered.after.2.runs.length = 1 := by decide +kernel
  unfold Small.rendered at once ⊢
  exact ⟨stopped, phases, o, answered, advance, once⟩

end Session

end HaxeBuild
