import HaxeBuild.Proofs.Build.Calls
import HaxeBuild.Proofs.Build.Growth

namespace HaxeBuild.Session

open Effect

/-- What is known of a session when it is created: it requires the libraries that the program
declares and those of its settings. -/
structure IsNew (s : Session) (required : List LibraryReference) : Prop where
  read : ∃ declared, LibraryReference.declared s.plan.program = .ok declared ∧
    LibraryReference.withSettings declared (some s.plan.settings) = .ok required ∧
      s.libraries = ⟨[(s.plan.subject.identity, declared)], []⟩
  parameters : s.parameters = s.plan.parameters (LibraryManager.flags required)
  staging : s.assets.staging = s.plan.assetsDir
  state : s.state = .created
  info : s.info = none

theorem isNew_of_new {program : Program} {settings : Settings} {target : BuildTarget}
    {standard : List Subtarget} {configuration : Configuration} {toolchain : Option Text}
    {cwd : Path} {s : Session} {log : Log}
    (made : new program settings target standard configuration toolchain cwd = .ok (s, log)) :
    ∃ required, IsNew s required := by
  obtain ⟨catalog, -, made⟩ := except_bind_ok.mp made
  obtain ⟨subtarget, -, made⟩ := except_bind_ok.mp made
  obtain ⟨declared, known, made⟩ := except_bind_ok.mp made
  obtain ⟨required, joined, made⟩ := except_bind_ok.mp made
  cases made
  exact ⟨required, ⟨declared, known, joined, rfl⟩, rfl, rfl, rfl, rfl⟩

/-- Every call brings its own collaborators, so these may answer differently each time. A change of
the program may be a declaration of further metadata. -/
inductive Call where
  | buildSource (generator : SourceGenerator)
  | compile (source : PackageSource) (runner : ProcessRunner) (check : Bool)
  | run (runner : ProcessRunner) (redirect check : Bool)
  | render (template : Text)
  | addParameter (key : Text) (value : Value)
  | changeProgram (change : Program → Program)
  | changeFiles (change : FileTree → FileTree)

/-- What a call returns. -/
inductive Answer where
  | info (i : ProgramInfo)
  | success (done : Bool)
  | result (r : ProcessResult)
  | text (t : Text)
  | nothing
  deriving DecidableEq

/-- Whoever owns the program can change it at any time. -/
def changeProgram (change : Program → Program) : Step Unit :=
  update fun s => { s with plan := { s.plan with program := change s.plan.program } }

/-- Anybody can change files. -/
def changeFiles (change : FileTree → FileTree) : Step Unit :=
  Action.onWorld fun w => { w with files := change w.files }

def Call.act : Call → Step Answer
  | buildSource generator => return .info (← Session.buildSource generator)
  | compile source runner check => return .success (← Session.compile source runner check)
  | run runner redirect check => return .result (← Session.run runner redirect check)
  | render template => return .text (← renderLogged template)
  | addParameter key value => do
    Session.addParameter key value
    return .nothing
  | changeProgram change => do
    Session.changeProgram change
    return .nothing
  | changeFiles change => do
    Session.changeFiles change
    return .nothing

/-- How a call goes, by the way in which it ends. -/
inductive Goes (s : Session) (w : World) : Call → Outcome Answer → Session → World → Prop where
  | buildSource {generator : SourceGenerator} {o : Outcome ProgramInfo} {s' : Session} {w' : World}
      (exit : GenerationExit s w o s' w') : Goes s w (.buildSource generator) (o.map .info) s' w'
  | compile {source : PackageSource} {runner : ProcessRunner} {check : Bool} {o : Outcome Bool}
      {s' : Session} {w' : World} (exit : CompileExit source runner check s w o s' w') :
      Goes s w (.compile source runner check) (o.map .success) s' w'
  | run {runner : ProcessRunner} {redirect check : Bool} {o : Outcome ProcessResult}
      {s' : Session} {w' : World} (exit : RunExit runner redirect check s w o s' w') :
      Goes s w (.run runner redirect check) (o.map .result) s' w'
  | render {template : Text} {o : Outcome Text} {log : Log} :
      Goes s w (.render template) (o.map .text) s
        { w with log, objects := (s.render w.objects template).objects }
  | added {key : Text} {value : Value} {grown : Parameters}
      (new : s.parameters.add key (w.objects.adopt value).1 false w.objects.now = .ok grown) :
      Goes s w (.addParameter key value) (.ok .nothing) { s with parameters := grown }
        { w with objects := (w.objects.adopt value).2 }
  | refused {key : Text} {value : Value} {e : BuildError}
      (conflict : s.parameters.add key (w.objects.adopt value).1 false w.objects.now = .error e) :
      Goes s w (.addParameter key value) (.error e) s
        { w with objects := (w.objects.adopt value).2 }
  | changeProgram {change : Program → Program} :
      Goes s w (.changeProgram change) (.ok .nothing)
        { s with plan := { s.plan with program := change s.plan.program } } w
  | changeFiles {change : FileTree → FileTree} :
      Goes s w (.changeFiles change) (.ok .nothing) s { w with files := change w.files }

theorem goes_call (call : Call) (s : Session) (w : World) :
    Goes s w call (perform call.act (s, w)).1 (perform call.act (s, w)).2.1
      (perform call.act (s, w)).2.2 := by
  cases call with
  | buildSource generator =>
    rw [Call.act, perform_bind_pure]
    exact .buildSource (exit_of_buildSource rfl)
  | compile source runner check =>
    rw [Call.act, perform_bind_pure]
    exact .compile (exit_of_compile rfl)
  | run runner redirect check =>
    rw [Call.act, perform_bind_pure]
    exact .run (exit_of_run rfl)
  | render template =>
    rw [Call.act, perform_bind_pure, perform_renderLogged]
    exact .render
  | addParameter key value =>
    rw [Call.act, perform_bind, perform_addParameter]
    rcases result : s.parameters.add key (w.objects.adopt value).1 false w.objects.now with e | grown
    · simp only [result]
      exact .refused result
    · simp only [result]
      exact .added result
  | changeProgram change => exact .changeProgram
  | changeFiles change => exact .changeFiles

/-- The parameters of a session only grow. -/
theorem Goes.grows {call : Call} {o : Outcome Answer} {s s' : Session} {w w' : World}
    (goes : Goes s w call o s' w') : s.parameters.Grows s'.parameters := by
  cases goes with
  | buildSource exit =>
    cases exit with
    | failed => exact Parameters.grows_refl _
    | refused file => exact Parameters.grows_of_add file
    | generated file name =>
      exact (Parameters.grows_of_add file).trans (Parameters.grows_of_add name)
  | compile exit =>
    rw [exit.parameters_eq]
    exact Parameters.grows_refl _
  | run exit => cases exit <;> exact Parameters.grows_refl _
  | render => exact Parameters.grows_refl _
  | added new => exact Parameters.grows_of_add new
  | refused => exact Parameters.grows_refl _
  | changeProgram => exact Parameters.grows_refl _
  | changeFiles => exact Parameters.grows_refl _

/-- A call with its answer, and with what was there before and after it. -/
structure Moment where
  call : Call
  before : Session × World
  answer : Outcome Answer
  after : Session × World

/-- The moment of a call. -/
def Call.moment (call : Call) (before : Session × World) : Moment :=
  ⟨call, before, (perform call.act before).1, (perform call.act before).2⟩

/-- The session and the world are reached through the moments, of which the latest comes first. -/
inductive Reached : List Moment → Session → World → Prop where
  | created {program : Program} {settings : Settings} {target : BuildTarget}
      {standard : List Subtarget} {configuration : Configuration} {toolchain : Option Text}
      {cwd : Path} {s : Session} {log : Log} (t : FileTree) (clock : List Nat)
      (made : new program settings target standard configuration toolchain cwd = .ok (s, log)) :
      Reached [] s { World.ofFiles t with log, clock }
  | next {past : List Moment} {s : Session} {w : World} (reached : Reached past s w)
      (call : Call) :
      Reached (call.moment (s, w) :: past) (call.moment (s, w)).after.1
        (call.moment (s, w)).after.2

/-- The moments of calls that are made one after the other, with what is there in the end. -/
def follow : List Call → List Moment → Session × World → List Moment × Session × World
  | [], past, now => (past, now)
  | call :: calls, past, now => follow calls (call.moment now :: past) (call.moment now).after

theorem Reached.follow {past : List Moment} {now : Session × World}
    (reached : Reached past now.1 now.2) (calls : List Call) :
    Reached (follow calls past now).1 (follow calls past now).2.1 (follow calls past now).2.2 := by
  induction calls generalizing past now with
  | nil => exact reached
  | cons call calls inductionHypothesis => exact inductionHypothesis (reached.next call)

/-- However a history goes on, the parameters only grow. -/
theorem grows_follow (calls : List Call) (past : List Moment) (now : Session × World) :
    now.1.parameters.Grows (follow calls past now).2.1.parameters := by
  induction calls generalizing past now with
  | nil => exact Parameters.grows_refl _
  | cons call calls inductionHypothesis =>
    exact (goes_call call now.1 now.2).grows.trans (inductionHypothesis _ _)

/-! A small build with two libraries and a command line of its own. -/

namespace Small

def program : Program where
  classes := [⟨"app.Main", [], [],
    [(.addLibraries, [.text "format"]), (.customBuildCommandLine, [.text "haxe"])]⟩]
  resources := []
  resourcesDir := none

def settings : Settings where
  title := "Main"
  name := "main"
  package := "app"
  version := "1.0"
  company := ""
  initialWidth := 800
  initialHeight := 600
  orientation := .auto
  embedResources := false
  assets := []
  icon := none
  libraries := [.text "hxcpp@4.3"]
  minimizeNames := false
  release := false
  analyzerEnabled := false

/-- The small build of a program. -/
def created (p : Program) (s : Settings) : Outcome (Session × Log) :=
  new p s ⟨"js", Path.ofText "/out/program.js", Path.ofText "/target", false⟩
    Subtarget.standard (Configuration.ofEnvironment (Path.ofText "/tmp") []) none (Path.ofText "/")

/-- A build that could be created begins without any files. -/
def begun {o : Outcome (Session × Log)} (isOk : o.toOption.isSome = true) : Session × World :=
  let (s, log) := o.toOption.get isOk
  (s, { World.ofFiles ⟨[], []⟩ with log })

theorem eq_ok_get {α : Type} {o : Outcome α} (isOk : o.toOption.isSome = true) :
    o = .ok (o.toOption.get isOk) := by
  cases o with
  | error e => cases isOk
  | ok a => rfl

theorem reached_begun {p : Program} {s : Settings}
    (isOk : (created p s).toOption.isSome = true) : Reached [] (begun isOk).1 (begun isOk).2 :=
  .created ⟨[], []⟩ [] (eq_ok_get isOk)

theorem created_isOk : (created program settings).toOption.isSome = true := by decide +kernel

def start : Session × World := begun created_isOk

theorem reached_start : Reached [] start.1 start.2 := reached_begun created_isOk

def generator : SourceGenerator := fun _ _ _ _ t => (.ok ⟨"app.Main", "Main.hx"⟩, t)

/-- A package source that does not have all libraries. -/
def sourceWithout (names : List Text) : PackageSource := fun l t =>
  (.ok !(names.contains l.name), t)

/-- A toolchain that changes files. -/
def toolchain (change : FileTree → FileTree) : ProcessRunner := fun _ _ t =>
  ⟨.ok ⟨0, []⟩, [], change t⟩

end Small

end HaxeBuild.Session
