import HaxeBuild.Error
import HaxeBuild.Files.Disk
import HaxeBuild.Log
import HaxeBuild.Value.Objects

namespace HaxeBuild

/-- What a process leaves behind. -/
structure ProcessResult where
  exitCode : Int
  output : Text
  deriving DecidableEq

namespace ProcessResult

def success (r : ProcessResult) : Bool := r.exitCode == 0

end ProcessResult

/-- A process that is to be run; with `redirect` its output is not captured. -/
structure Invocation where
  workingDir : Path
  binary : Text
  arguments : List Text
  redirect : Bool
  deriving DecidableEq

/-- The class and the file that a generated program starts from. -/
structure ProgramInfo where
  entryPointClass : Text
  entryPointFile : Text
  deriving DecidableEq

/-- A library that the package source was asked for, and its answer: it accepts the library, refuses
it, or fails with a message. -/
structure Request where
  library : LibraryReference
  answer : Except Text Bool

namespace Request

def accepted (r : Request) : Bool :=
  match r.answer with
  | .ok accepted => accepted
  | .error _ => false

end Request

/-- The lists that a build shares with its templates from the start. -/
inductive BuildList where
  | settingsAssets
  | settingsLibraries
  | assets
  | libraries
  | extraFlags
  | extraDefines
  deriving DecidableEq

namespace BuildList

def all : List BuildList :=
  [settingsAssets, settingsLibraries, assets, libraries, extraFlags, extraDefines]

/-- The number of the list among all objects. -/
def id (l : BuildList) : Nat := all.idxOf l

def value (l : BuildList) (items : List Value) : Value := .sharedList l.id items

/-- What the list holds now that held `items` at first. -/
def now (l : BuildList) (items : List Value) (o : Objects) : List Value := o.list l.id items

end BuildList

/-- The world records what was logged, asked of the package source, and run. It holds the objects
that templates change and the readings of the clock that are still to come, in nanoseconds. -/
structure World where
  files : FileTree
  log : Log
  asked : List Request
  runs : List Invocation
  objects : Objects
  clock : List Nat

namespace World

/-- A world in which nothing has happened. -/
def ofFiles (t : FileTree) : World := ⟨t, [], [], [], ⟨BuildList.all.length, []⟩, []⟩

end World

/-- An action on a state and on the world. What was done before an error stays done. -/
abbrev Action (σ α : Type) := ExceptT BuildError (StateM (σ × World)) α

namespace Action

variable {σ α : Type}

def ofOutcome (o : Outcome α) : Action σ α := o

def state : Action σ σ := do return (← get).1

def setState (s : σ) : Action σ Unit := modify fun (_, w) => (s, w)

def world : Action σ World := do return (← get).2

def files : Action σ FileTree := do return (← get).2.files

def onWorld (f : World → World) : Action σ Unit := modify fun (s, w) => (s, f w)

def log (level : Level) (message : Text) : Action σ Unit :=
  onWorld fun w => { w with log := w.log ++ [⟨level, message⟩] }

/-- A clock without further readings stands at zero. -/
def readClock : Action σ Nat := do
  let w ← world
  onWorld fun w => { w with clock := w.clock.drop 1 }
  return w.clock.headD 0

def objects : Action σ Objects := do return (← get).2.objects

/-- A value that comes from outside is shared with templates from now on. -/
def adopt (v : Value) : Action σ Value := do
  let (v, objects) := (← objects).adopt v
  onWorld fun w => { w with objects }
  return v

/-- Works on the file tree. -/
def onDisk (act : Disk α) : Action σ α := do
  let (result, t) := act.run (← files)
  onWorld fun w => { w with files := t }
  ofOutcome (Outcome.ofFault result)

/-- Works on a part of the state. -/
def onPart {τ : Type} (part : σ → τ) (update : σ → τ → σ) (act : Action τ α) : Action σ α :=
  fun (s, w) =>
    let (result, (t, w)) := act (part s, w)
    (result, (update s t, w))

end Action

/-- A package source answers a request and may change the file tree in any case. -/
abbrev PackageSource := LibraryReference → FileTree → Except Text Bool × FileTree

namespace PackageSource

/-- Asks for a library and records the answer. -/
def ask {σ : Type} (source : PackageSource) (l : LibraryReference) :
    Action σ (Except Text Bool) := do
  let (answer, t) := source l (← Action.files)
  Action.onWorld fun w => { w with files := t, asked := w.asked ++ [⟨l, answer⟩] }
  return answer

end PackageSource

/-- What a process runner leaves behind: its result, what it logged, and the file tree. -/
structure RunReport where
  result : Except Fault ProcessResult
  log : Log
  files : FileTree

/-- A process runner may answer by what was run before. -/
abbrev ProcessRunner := (earlier : List Invocation) → Invocation → FileTree → RunReport

namespace ProcessRunner

/-- Runs a process and records it. -/
def run {σ : Type} (r : ProcessRunner) (i : Invocation) : Action σ ProcessResult := do
  let w ← Action.world
  let report := r w.runs i w.files
  Action.onWorld fun w =>
    { w with files := report.files, log := w.log ++ report.log, runs := w.runs ++ [i] }
  Action.ofOutcome (Outcome.ofFault report.result)

end ProcessRunner

end HaxeBuild
