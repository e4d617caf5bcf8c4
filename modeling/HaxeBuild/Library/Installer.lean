import HaxeBuild.Build.World
import HaxeBuild.Configuration

namespace HaxeBuild

structure Installer where
  binary : Text
  workingDir : Path
  deriving DecidableEq

namespace Installer

/-- The named tool, or else the configured one. -/
def new (c : Configuration) (binary : Option Text) (workingDir : Path) : Installer :=
  ⟨Configuration.preferred binary c.installer, workingDir⟩

variable {σ : Type}

def call (i : Installer) (runner : ProcessRunner) (arguments : List Text) :
    Action σ ProcessResult :=
  runner.run ⟨i.workingDir, i.binary, arguments, false⟩

/-- The tool finds the path of installed libraries only. -/
def isInstalled (i : Installer) (runner : ProcessRunner) (l : LibraryReference) :
    Action σ Bool := do
  return (← i.call runner ["path", l.haxeSpec]).success

/-- The version is named unless it is empty; questions of the tool are answered beforehand. -/
def installArguments (l : LibraryReference) : List Text :=
  "install" :: l.name :: ((l.version.filter (!·.isEmpty)).toList ++ [("--always" : Text)])

/-- Installs a library that is not installed yet and returns whether it is there. -/
def install (i : Installer) (runner : ProcessRunner) (l : LibraryReference) :
    Action σ Bool := do
  if (← i.isInstalled runner l) then
    Action.log .debug ("Library already installed: " ++ l.canonical)
    return true
  else
    Action.log .info ("Installing library: " ++ l.canonical)
    let result ← i.call runner (installArguments l)
    if result.success then
      Action.log .info ("✅ Library installed: " ++ l.canonical)
      return true
    else
      Action.log .error ("haxelib install " ++ l.canonical ++ " failed: " ++ result.output)
      return false

end Installer

end HaxeBuild
