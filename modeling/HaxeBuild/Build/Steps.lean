import HaxeBuild.Build.Session

namespace HaxeBuild.Session

abbrev Step (α : Type) := Action Session α

variable {α : Type}

def onLibraries (act : Action LibraryManager α) : Step α :=
  Action.onPart (·.libraries) (fun s m => { s with libraries := m }) act

def onAssets (act : Action AssetStager α) : Step α :=
  Action.onPart (·.assets) (fun s a => { s with assets := a }) act

def update (f : Session → Session) : Step Unit := do Action.setState (f (← Action.state))

def enter (state : BuildState) : Step Unit := update fun s => { s with state }

/-- Renders and logs the references that are resolved on the way. -/
def renderLogged (template : Text) : Step Text := do
  let r := (← Action.state).render (← Action.objects) template
  Action.onWorld fun w => { w with log := w.log ++ r.log, objects := r.objects }
  Action.ofOutcome r.result

def addParameter (key : Text) (value : Value) : Step Unit := do
  let value ← Action.adopt value
  let now := (← Action.objects).now
  let grown ← Action.ofOutcome ((← Action.state).parameters.add key value false now)
  update fun s => { s with parameters := grown }

/-- Generates the sources and tells the templates where the program starts. -/
def buildSource (generator : SourceGenerator) : Step ProgramInfo := do
  let p := (← Action.state).plan
  Action.log .info ("Generating sources into " ++ p.srcFolder.toText)
  Action.onDisk (Disk.ensureDirectory p.srcFolder)
  let settings := p.settingsNow (← Action.objects)
  let info ← Action.onDisk fun t => generator p.program settings p.srcFolder p.names t
  addParameter "entryPointFile" (.text info.entryPointFile)
  addParameter "entryPointClass" (.text (TargetNames.className info.entryPointClass))
  update fun s => { s with info := some info, state := .sourceGenerated }
  return info

/-- Renders a resource to the same path below the source folder. -/
def renderFile (v : Value) : Step Unit := do
  let p := (← Action.state).plan
  Action.log .debug ("Rendering " ++ v.print ++ " into source folder")
  let path ← Action.ofOutcome (AssetStager.pathText v)
  let destination ← Action.ofOutcome ((← Action.files).contained p.srcFolder path)
  Action.onDisk (Disk.ensureDirectory destination.parent)
  let template ← Action.ofOutcome (p.program.resourceText (← Action.files) path)
  let rendered ← renderLogged template
  Action.onDisk (Disk.writeText destination rendered)

def renderFiles : List Value → Step Unit
  | [] => return
  | v :: vs => do
    renderFile v
    renderFiles vs

/-- The command line, which must not be empty. -/
def prepareCommand : Step (Text × List Text) := do
  let p := (← Action.state).plan
  let command := Command.split (← renderLogged (Command.template p.program))
  update fun s => { s with lastCommand := command }
  match command with
  | [] => throw (.toolchain (-1) "Build command rendered empty" [])
  | binary :: arguments => return (binary, arguments)

/-- Runs the toolchain; only a successful compilation can be run. -/
def runToolchain (runner : ProcessRunner) (check : Bool) (binary : Text) (arguments : List Text) :
    Step Bool := do
  let p := (← Action.state).plan
  Action.log .info ("Compiling: " ++ Text.join " " (binary :: arguments))
  let result ← runner.run ⟨p.srcFolder, binary, arguments, true⟩
  update fun s => { s with compileResult := some result }
  if result.success then
    enter .compiled
    return true
  else
    Action.log .error ("Compilation failed with exit code " ++ Text.ofInt result.exitCode)
    if check then throw (.toolchain result.exitCode result.output (binary :: arguments))
    else return false

/-- Installs libraries, stages assets, renders files and runs the toolchain. -/
def compile (source : PackageSource) (runner : ProcessRunner) (check : Bool) : Step Bool := do
  let s ← Action.state
  let p := s.plan
  if s.info.isNone then throw (.outOfOrder .sources)
  else
    Action.onDisk (Disk.remove p.outputFile)
    Action.log .info ("Build source path: " ++ p.srcFolder.toText)
    let settings := p.settingsNow (← Action.objects)
    let _ ← onLibraries (LibraryManager.installRequired source p.subject (some settings))
    enter .librariesInstalled
    Action.log .info "Copying assets..."
    let _ ← onAssets (AssetStager.stage p.program settings)
    enter .assetsStaged
    renderFiles (Value.flattenAll (p.program.metadata .filesBeforeBuildTemplate))
    let (binary, arguments) ← prepareCommand
    runToolchain runner check binary arguments

/-- The interpreter on the artifact. -/
def artifactInvocation (p : BuildPlan) (redirect : Bool) : Invocation :=
  ⟨p.outputFile.parent, p.subtarget.interpreter,
    [p.outputFile.toText ++ p.subtarget.interpreterSuffix], redirect⟩

/-- A time in nanoseconds, written in seconds with three decimals. -/
def inSeconds (nanoseconds : Nat) : Text :=
  let milliseconds := (nanoseconds + 500000) / 1000000
  Text.ofNat (milliseconds / 1000) ++ "." ++
    (Text.ofNat (1000 + milliseconds % 1000)).drop 1 ++ "s"

/-- The size of the artifact is logged if it is a file. -/
def logSize (p : BuildPlan) : Entry → Step Unit
  | .file content =>
    Action.log .info
      ("run: " ++ p.outputFile.toText ++ " (" ++ Text.ofNat content.length ++ " bytes)")
  | _ => return

/-- Runs the artifact. A missing one is an error only on request. -/
def run (runner : ProcessRunner) (redirect check : Bool) : Step ProcessResult := do
  let s ← Action.state
  let p := s.plan
  if s.state ≠ .compiled ∧ s.state ≠ .ran then throw (.outOfOrder .compilation)
  else
    match (← Action.onDisk (Disk.probe p.outputFile)) with
    | none =>
      let missing := BuildError.artifactMissing p.outputFile.toText
      Action.log .error missing.message
      if check then throw missing else return ⟨-1, missing.message⟩
    | some (_, found) =>
      logSize p found
      let invocation := artifactInvocation p redirect
      Action.log .info ("Running: " ++ Text.join " " (invocation.binary :: invocation.arguments))
      let start ← Action.readClock
      let result ← runner.run invocation
      let time := inSeconds ((← Action.readClock) - start)
      Action.log .info
        ("Running... " ++ time ++ " (exit code " ++ Text.ofInt result.exitCode ++ ")")
      enter .ran
      return result

end HaxeBuild.Session
