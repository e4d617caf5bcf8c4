import HaxeBuild.Proofs.Build.Consistency

namespace HaxeBuild

open Effect

/-- States in which an artifact can be run. -/
def BuildState.isRunnable : BuildState → Bool
  | created => false
  | sourceGenerated => false
  | librariesInstalled => false
  | assetsStaged => false
  | compiled => true
  | ran => true

namespace BuildState

theorem isRunnable_iff (state : BuildState) :
    state.isRunnable = true ↔ state = compiled ∨ state = ran := by
  cases state <;> decide

end BuildState

theorem FileTree.pathExists_eq (t : FileTree) (p : Path) :
    t.pathExists p =
      match t.probe p with
      | .ok found => found.isSome
      | .error _ => false := by
  rw [pathExists, entry?]
  cases t.probe p <;> rfl

namespace Session

/-- What a moment means for the artifact. -/
inductive Turn where
  | success
  | failure
  | generation
  | other

def Moment.turn (m : Moment) : Turn :=
  match m.call, m.answer with
  | .compile .., .ok (.success true) => .success
  | .compile .., _ => .failure
  | .buildSource _, .ok _ => .generation
  | _, _ => .other

/-- The most recent compilation was successful, and no sources were generated since. -/
def compiledLast : List Moment → Bool
  | [] => false
  | m :: past =>
    match m.turn with
    | .success => true
    | .failure => false
    | .generation => false
    | .other => compiledLast past

/-- A compilation that had its sources, but could not remove the previous artifact or install the
libraries. It did not enter a new state. -/
def Moment.stopsEarly (m : Moment) : Bool :=
  let (s, w) := m.before
  match m.call with
  | .compile source _ _ =>
    s.info.isSome &&
      match perform (Disk.remove s.plan.outputFile) w.files with
      | (.error _, _) => true
      | (.ok (), files) =>
        !(perform (LibraryManager.installRequired source s.plan.subject
          (some (s.plan.settingsNow w.objects))) (s.libraries, clearedWorld s w files)).1.toBool
  | _ => false

/-- Since the last successful compilation no sources were generated, and there were further
compilations, but each of them could not remove the artifact or not install the libraries. -/
def isLeftover : List Moment → Bool
  | [] => false
  | m :: past =>
    match m.turn with
    | .success => false
    | .failure => m.stopsEarly && (compiledLast past || isLeftover past)
    | .generation => false
    | .other => isLeftover past

theorem compiledLast_of_isLeftover {past : List Moment} (leftover : isLeftover past = true) :
    compiledLast past = false := by
  induction past with
  | nil => rfl
  | cons m past inductionHypothesis =>
    rw [isLeftover] at leftover
    rw [compiledLast]
    cases turn : m.turn with
    | success =>
      rw [turn] at leftover
      cases leftover
    | failure => rfl
    | generation => rfl
    | other =>
      rw [turn] at leftover
      exact inductionHypothesis leftover

/-- The session can be run as far as the history tells. -/
def RunnableAfter (past : List Moment) (s : Session) : Prop :=
  s.state.isRunnable = (compiledLast past || isLeftover past)

namespace RunnableAfter

variable {past : List Moment} {s s' : Session} {w w' : World} {m : Moment}

theorem keep (runnable : RunnableAfter past s) (turn : m.turn = .other)
    (state : s'.state.isRunnable = s.state.isRunnable) : RunnableAfter (m :: past) s' := by
  rw [RunnableAfter, compiledLast, isLeftover, turn, state]
  exact runnable

/-- A failed compilation that had entered a new state leaves nothing to run. -/
theorem failed (turn : m.turn = .failure) (onwards : m.stopsEarly = false)
    (state : s'.state.isRunnable = false) : RunnableAfter (m :: past) s' := by
  rw [RunnableAfter, compiledLast, isLeftover, turn, state, onwards]
  rfl

/-- A compilation that had entered no new state leaves what there was to run. -/
theorem stopped (runnable : RunnableAfter past s) (turn : m.turn = .failure)
    (early : m.stopsEarly = true) (state : s'.state = s.state) : RunnableAfter (m :: past) s' := by
  rw [RunnableAfter, compiledLast, isLeftover, turn, early, state]
  exact runnable

theorem generated {o : Outcome ProgramInfo} {generator : SourceGenerator}
    (runnable : RunnableAfter past s) (exit : GenerationExit s w o s' w')
    (call : m.call = .buildSource generator) (answer : m.answer = o.map .info) :
    RunnableAfter (m :: past) s' := by
  cases exit with
  | failed =>
    have turn : m.turn = .other := by
      rw [Moment.turn, call, answer]
      rfl
    exact runnable.keep turn rfl
  | refused =>
    have turn : m.turn = .other := by
      rw [Moment.turn, call, answer]
      rfl
    exact runnable.keep turn rfl
  | generated =>
    rw [RunnableAfter, compiledLast, isLeftover, Moment.turn, call, answer]
    rfl

theorem ran {o : Outcome ProcessResult} {runner : ProcessRunner} {redirect check : Bool}
    (runnable : RunnableAfter past s) (exit : RunExit runner redirect check s w o s' w')
    (call : m.call = .run runner redirect check) : RunnableAfter (m :: past) s' := by
  have turn : m.turn = .other := by rw [Moment.turn, call]
  cases exit with
  | outOfOrder => exact runnable.keep turn rfl
  | unprobed => exact runnable.keep turn rfl
  | missing => exact runnable.keep turn rfl
  | unstarted => exact runnable.keep turn rfl
  | ran ready =>
    have state := (BuildState.isRunnable_iff s.state).mpr ready
    apply runnable.keep turn
    rw [state]
    rfl

section Compilation

variable {source : PackageSource} {runner : ProcessRunner} {check : Bool}

theorem turn_failure {o : Outcome Bool} (call : m.call = .compile source runner check)
    (answer : m.answer = o.map .success) (failed : o ≠ .ok true) : m.turn = .failure := by
  rw [Moment.turn, call, answer]
  rcases o with e | done
  · rfl
  · cases done
    · rfl
    · exact absurd rfl failed

theorem stopsEarly_eq_false (supplied : ∃ s1 w1, Supplied source s w s1 w1)
    (call : m.call = .compile source runner check) (before : m.before = (s, w)) :
    m.stopsEarly = false := by
  obtain ⟨s1, w1, cleared, installed⟩ := supplied
  rw [cleared.world] at installed
  simp only [Moment.stopsEarly, before, call, cleared.removed, installed]
  exact Bool.and_false _

theorem toolchain {o : Outcome Bool} {binary : Text} {arguments : List Text} {s1 : Session}
    {w1 : World} (prepared : Prepared source s w binary arguments s1 w1)
    (exit : ToolchainExit runner check ⟨s.plan.srcFolder, binary, arguments, true⟩ s1 w1 o s' w')
    (onwards : m.stopsEarly = false) (call : m.call = .compile source runner check)
    (answer : m.answer = o.map .success) : RunnableAfter (m :: past) s' := by
  have state : s1.state.isRunnable = false := congrArg BuildState.isRunnable prepared.state_eq
  cases exit with
  | unstarted => exact failed (turn_failure call answer nofun) onwards state
  | failed =>
    have turn : m.turn = .failure := by
      apply turn_failure call answer
      cases check <;> nofun
    exact failed turn onwards state
  | succeeded =>
    rw [RunnableAfter, compiledLast, isLeftover, Moment.turn, call, answer]
    rfl

theorem compiled {o : Outcome Bool} (runnable : RunnableAfter past s) (sound : Sound past s)
    (exit : CompileExit source runner check s w o s' w')
    (call : m.call = .compile source runner check) (before : m.before = (s, w))
    (answer : m.answer = o.map .success) : RunnableAfter (m :: past) s' := by
  have onwards (supplied : ∃ s1 w1, Supplied source s w s1 w1) : m.stopsEarly = false :=
    stopsEarly_eq_false supplied call before
  cases exit with
  | outOfOrder unknown =>
    have onwards : m.stopsEarly = false := by
      simp only [Moment.stopsEarly, before, call, unknown]
      rfl
    have state := congrArg BuildState.isRunnable (sound.created.mpr unknown)
    exact failed (turn_failure call answer nofun) onwards state
  | uncleared known kept =>
    have early : m.stopsEarly = true := by
      simp only [Moment.stopsEarly, before, call, kept, Option.isSome_iff_ne_none.mpr known]
      rfl
    exact runnable.stopped (turn_failure call answer nofun) early rfl
  | unsupplied cleared refused =>
    have early : m.stopsEarly = true := by
      rw [cleared.world] at refused
      simp only [Moment.stopsEarly, before, call, cleared.removed, refused,
        Option.isSome_iff_ne_none.mpr cleared.known]
      rfl
    exact runnable.stopped (turn_failure call answer nofun) early rfl
  | unstaged supplied unfinished =>
    have state := congrArg BuildState.isRunnable supplied.state_eq
    exact failed (turn_failure call answer nofun) (onwards ⟨_, _, supplied⟩) state
  | unrendered staged unfinished =>
    obtain ⟨s1, w1, supplied, -⟩ := staged.follows
    have state := congrArg BuildState.isRunnable staged.state_eq
    exact failed (turn_failure call answer nofun) (onwards ⟨_, _, supplied⟩) state
  | unprepared rendered unfinished =>
    obtain ⟨s1, w1, supplied, -⟩ := rendered.follows
    have same := (exit_of_prepareCommand unfinished).state_eq
    have state := congrArg BuildState.isRunnable (same.trans rendered.state_eq)
    exact failed (turn_failure call answer nofun) (onwards ⟨_, _, supplied⟩) state
  | finished prepared exit =>
    obtain ⟨s1, w1, supplied, -⟩ := prepared.follows
    exact toolchain prepared exit (onwards ⟨_, _, supplied⟩) call answer

end Compilation

theorem goes {call : Call} {o : Outcome Answer} (runnable : RunnableAfter past s)
    (sound : Sound past s) (goes : Goes s w call o s' w') (is : m.call = call) (before : m.before = (s, w))
    (answer : m.answer = o) : RunnableAfter (m :: past) s' := by
  cases goes with
  | buildSource exit => exact runnable.generated exit is answer
  | compile exit => exact runnable.compiled sound exit is before answer
  | run exit => exact runnable.ran exit is
  | render => exact runnable.keep (by rw [Moment.turn, is]) rfl
  | added => exact runnable.keep (by rw [Moment.turn, is]) rfl
  | refused => exact runnable.keep (by rw [Moment.turn, is]) rfl
  | changeProgram => exact runnable.keep (by rw [Moment.turn, is]) rfl
  | changeFiles => exact runnable.keep (by rw [Moment.turn, is]) rfl

end RunnableAfter

theorem Reached.runnableAfter {past : List Moment} {s : Session} {w : World}
    (reached : Reached past s w) : RunnableAfter past s := by
  induction reached with
  | created t clock made =>
    obtain ⟨required, new⟩ := isNew_of_new made
    exact congrArg BuildState.isRunnable new.state
  | next reached call inductionHypothesis =>
    exact inductionHypothesis.goes reached.sound (goes_call call _ _) rfl rfl rfl

/-- Nothing but the log is different. -/
structure Untouched (s : Session) (w : World) (s' : Session) (w' : World) : Prop where
  session : s' = s
  files : w'.files = w.files
  asked : w'.asked = w.asked
  runs : w'.runs = w.runs
  objects : w'.objects = w.objects
  clock : w'.clock = w.clock

/-- An artifact that is there is run in a runnable state, and nothing happens otherwise. -/
theorem RunExit.untouched_or_called {runner : ProcessRunner} {redirect check : Bool}
    {o : Outcome ProcessResult} {s s' : Session} {w w' : World}
    (exit : RunExit runner redirect check s w o s' w') :
    (¬ (s.state.isRunnable = true ∧ w.files.pathExists s.plan.outputFile = true) ∧
        Untouched s w s' w') ∨
      ((s.state.isRunnable = true ∧ w.files.pathExists s.plan.outputFile = true) ∧
        w'.runs = w.runs ++ [artifactInvocation s.plan redirect]) := by
  cases exit with
  | outOfOrder early =>
    refine .inl ⟨?_, ⟨rfl, rfl, rfl, rfl, rfl, rfl⟩⟩
    rintro ⟨runnable, -⟩
    rcases (BuildState.isRunnable_iff s.state).mp runnable with compiled | ran
    · exact early.1 compiled
    · exact early.2 ran
  | unprobed ready fault =>
    have absent : w.files.pathExists s.plan.outputFile ≠ true := by
      rw [FileTree.pathExists_eq, fault]
      exact Bool.false_ne_true
    exact .inl ⟨fun called => absent called.2, ⟨rfl, rfl, rfl, rfl, rfl, rfl⟩⟩
  | missing ready nothing =>
    have absent : w.files.pathExists s.plan.outputFile ≠ true := by
      rw [FileTree.pathExists_eq, nothing]
      exact Bool.false_ne_true
    exact .inl ⟨fun called => absent called.2, ⟨rfl, rfl, rfl, rfl, rfl, rfl⟩⟩
  | unstarted ready found ran =>
    have present : w.files.pathExists s.plan.outputFile = true := by
      rw [FileTree.pathExists_eq, found]
      rfl
    exact .inr ⟨⟨(BuildState.isRunnable_iff s.state).mpr ready, present⟩, ran.runs⟩
  | ran ready found ran =>
    have present : w.files.pathExists s.plan.outputFile = true := by
      rw [FileTree.pathExists_eq, found]
      rfl
    exact .inr ⟨⟨(BuildState.isRunnable_iff s.state).mpr ready, present⟩, ran.runs⟩

/-- The artifact is run only after a compilation that was successful, and only if it is there; in
all other cases nothing is called, and session and files stay the same. -/
structure RunsInOrder (past : List Moment) (s : Session) (w : World) (m : Moment) : Prop where
  called : m.after.2.runs ≠ w.runs →
    compiledLast past = true ∧ w.files.pathExists s.plan.outputFile = true
  otherwise : ¬ (compiledLast past = true ∧ w.files.pathExists s.plan.outputFile = true) →
    Untouched s w m.after.1 m.after.2

/-- The artifact is run in order unless it is left over from before a failed compilation. -/
theorem runsInOrder_iff {past : List Moment} {s : Session} {w : World}
    (reached : Reached past s w) (runner : ProcessRunner) (redirect check : Bool) :
    RunsInOrder past s w ((Call.run runner redirect check).moment (s, w)) ↔
      ¬ (isLeftover past = true ∧ w.files.pathExists s.plan.outputFile = true) := by
  have runnable := reached.runnableAfter
  rw [RunnableAfter] at runnable
  have goes := goes_call (.run runner redirect check) s w
  rcases ended : perform (Call.run runner redirect check).act (s, w) with ⟨o, s', w'⟩
  have after : ((Call.run runner redirect check).moment (s, w)).after = (s', w') := by
    rw [Call.moment, ended]
  rw [ended] at goes
  cases goes with | run exit => ?_
  constructor
  · rintro inOrder ⟨leftover, present⟩
    rw [leftover, Bool.or_true] at runnable
    rcases exit.untouched_or_called with ⟨absent, -⟩ | ⟨-, called⟩
    · exact absent ⟨runnable, present⟩
    · have changed : ((Call.run runner redirect check).moment (s, w)).after.2.runs ≠ w.runs := by
        rw [after, called]
        simp
      have last := (inOrder.called changed).1
      rw [compiledLast_of_isLeftover leftover] at last
      cases last
  · intro current
    have only (called : s.state.isRunnable = true ∧
        w.files.pathExists s.plan.outputFile = true) : compiledLast past = true := by
      rw [runnable, Bool.or_eq_true] at called
      rcases called with ⟨last | leftover, present⟩
      · exact last
      · exact absurd ⟨leftover, present⟩ current
    rcases exit.untouched_or_called with ⟨-, untouched⟩ | ⟨called, runs⟩
    · constructor
      · intro changed
        rw [after] at changed
        exact absurd untouched.runs changed
      · intro _
        rw [after]
        exact untouched
    · have inOrder := And.intro (only called) called.2
      constructor
      · intro _
        exact inOrder
      · intro otherwise
        exact absurd inOrder otherwise

namespace Small

/-- The artifact is a file. -/
def writeArtifact (t : FileTree) : FileTree :=
  (t.set ["out"] .directory).set ["out", "program.js"] (.file [])

/-- A compilation that fails for want of a library, and one that succeeds. -/
def built : List Moment × Session × World :=
  follow [.buildSource generator,
    .compile (sourceWithout ["hxcpp"]) (toolchain writeArtifact) false,
    .compile (sourceWithout []) (toolchain writeArtifact) false] [] start

end Small

theorem built_runsInOrder :
    RunsInOrder Small.built.1 Small.built.2.1 Small.built.2.2
      ((Call.run (Small.toolchain id) true false).moment (Small.built.2.1, Small.built.2.2)) := by
  have reached : Reached Small.built.1 Small.built.2.1 Small.built.2.2 :=
    Small.reached_start.follow _
  refine (runsInOrder_iff reached (Small.toolchain id) true false).mpr ?_
  decide +kernel

namespace Small

/-- The artifact is a link to a directory. -/
def linkArtifact (t : FileTree) : FileTree :=
  ((t.set ["out"] .directory).set ["real"] .directory).set ["out", "program.js"] (.link "../real")

/-- A compilation makes the link, and another one fails because links are not removed with what they
lead to. -/
def linked : List Moment × Session × World :=
  follow [.buildSource generator, .compile (sourceWithout []) (toolchain linkArtifact) false,
    .compile (sourceWithout []) (toolchain linkArtifact) false] [] start

end Small

/-- After a compilation that failed, an artifact is run. -/
theorem runs_leftover :
    ∃ past s w, Reached past s w ∧ compiledLast past = false ∧
      ((Call.run (Small.toolchain id) true false).moment (s, w)).after.2.runs ≠ w.runs ∧
      ¬ RunsInOrder past s w ((Call.run (Small.toolchain id) true false).moment (s, w)) := by
  refine ⟨Small.linked.1, Small.linked.2.1, Small.linked.2.2, Small.reached_start.follow _,
    ?_, ?_, ?_⟩
  · decide +kernel
  · decide +kernel
  · intro inOrder
    have last := inOrder.called (by decide +kernel)
    revert last
    decide +kernel

end Session

end HaxeBuild
