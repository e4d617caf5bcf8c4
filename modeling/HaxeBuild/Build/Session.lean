import HaxeBuild.Build.Assets
import HaxeBuild.Build.Command
import HaxeBuild.Build.Parameters
import HaxeBuild.Build.Target
import HaxeBuild.Configuration
import HaxeBuild.Library.Manager
import HaxeBuild.Subtarget.Catalog
import HaxeBuild.Template.Render

namespace HaxeBuild

/-- A generator writes sources into a folder and may change the file tree even if it fails. -/
abbrev SourceGenerator := Program → Settings → Path → TargetNames → FileTree →
  Except Fault ProgramInfo × FileTree

inductive BuildState where
  | created
  | sourceGenerated
  | librariesInstalled
  | assetsStaged
  | compiled
  | ran
  deriving DecidableEq

namespace BuildState

def label : BuildState → Text
  | created => "created"
  | sourceGenerated => "source_generated"
  | librariesInstalled => "libraries_installed"
  | assetsStaged => "assets_staged"
  | compiled => "compiled"
  | ran => "ran"

end BuildState

/-- What a build is about. Only the metadata of the program can change later. -/
structure BuildPlan where
  program : Program
  settings : Settings
  toolchain : Text
  subtarget : Subtarget
  outputFile : Path
  srcFolder : Path
  assetsDir : Option Path
  names : TargetNames

/-- One build of one program for one subtarget. -/
structure Session where
  plan : BuildPlan
  libraries : LibraryManager
  assets : AssetStager
  parameters : Parameters
  state : BuildState
  info : Option ProgramInfo
  compileResult : Option ProcessResult
  lastCommand : List Text

namespace BuildPlan

/-- The settings with what their lists hold now. -/
def settingsNow (p : BuildPlan) (o : Objects) : Settings :=
  { p.settings with
    assets := BuildList.settingsAssets.now p.settings.assets o
    libraries := BuildList.settingsLibraries.now p.settings.libraries o }

def subject (p : BuildPlan) : LibraryManager.Subject := ⟨0, p.program⟩

/-- The parameters that every template of the build can use. -/
def parameters (p : BuildPlan) (flags : List CompilerFlag) : Parameters :=
  let s := p.settings
  [("toolchain", .text p.toolchain),
    ("srcFolder", .text p.srcFolder.toText),
    ("outputFile", .text p.outputFile.toText),
    ("tempAssetsDir", .text ((p.assetsDir.map Path.toText).getD [])),
    ("actualSubtarget", .subtarget p.subtarget),
    ("release", .bool s.release),
    ("debug", .bool !s.release),
    ("settings", .settings (s.fields (BuildList.settingsAssets.value s.assets)
      (BuildList.settingsLibraries.value s.libraries))),
    ("title", .text s.title),
    ("name", .text s.name),
    ("package", .text s.package),
    ("version", .text s.version),
    ("company", .text s.company),
    ("initialWidth", .int s.initialWidth),
    ("initialHeight", .int s.initialHeight),
    ("orientation", .text s.orientation.name),
    ("embedResources", .bool s.embedResources),
    ("assets", BuildList.assets.value (s.assets.map fun a => .text a.print)),
    ("hasIcon", .bool ((s.icon.map fun icon => !icon.isEmpty).getD false)),
    ("icon", .ofOption .text s.icon),
    ("libraries", BuildList.libraries.value s.libraries),
    ("haxeExtraFlags", BuildList.extraFlags.value (flags.map .flag)),
    ("haxeExtraDefines", BuildList.extraDefines.value (s.extraDefines.map .text)),
    ("defaultBuildCommand", .builtin .defaultCommand)]

end BuildPlan

namespace Session

/-- Chooses the subtarget and prepares the parameters. -/
def new (program : Program) (settings : Settings) (target : BuildTarget)
    (standard : List Subtarget) (configuration : Configuration) (toolchain : Option Text)
    (cwd : Path) : Outcome (Session × Log) := do
  let catalog ← Subtarget.Catalog.ofProgram program standard
  let subtarget ← catalog.resolve target.subtarget
  let plan : BuildPlan := {
    program, settings, subtarget
    toolchain := Configuration.preferred toolchain configuration.toolchain
    outputFile := Path.absolute cwd target.outputFile
    srcFolder := Path.absolute cwd target.srcFolder
    assetsDir := target.assetsDir.map (Path.absolute cwd)
    names := TargetNames.ofProgram program settings.minimizeNames }
  let declared ← LibraryReference.declared program
  let required ← LibraryReference.withSettings declared (some settings)
  return (
    { plan
      libraries := ⟨[(plan.subject.identity, declared)], []⟩
      assets := AssetStager.new plan.assetsDir
      parameters := plan.parameters (LibraryManager.flags required)
      state := .created
      info := none
      compileResult := none
      lastCommand := [] },
    [Subtarget.Catalog.entry target.subtarget subtarget])

def tags (s : Session) : List Template.Tag :=
  [Template.Tag.reference ⟨s.plan.program, s.plan.names⟩]

/-- What the default build command renders to. It does not call itself. -/
def defaultCommand (s : Session) (o : Objects) : Outcome Text :=
  (Template.render ⟨s.tags, s.parameters, fun _ => Outcome.fail .wrongType⟩ o
    Command.defaultTemplate).result

/-- Renders a template with the parameters as they are now. -/
def render (s : Session) (o : Objects) (template : Text) : Template.Rendering :=
  Template.render ⟨s.tags, s.parameters, s.defaultCommand⟩ o template

/-- Declares further metadata on a class of the program. -/
def declare (s : Session) (index : Nat) (kind : MetadataKind) (vs : List Value) : Session :=
  { s with plan := { s.plan with program := s.plan.program.declare index kind vs } }

end Session

end HaxeBuild
