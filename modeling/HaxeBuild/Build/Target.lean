import HaxeBuild.Value.Reader

namespace HaxeBuild

structure BuildTarget where
  subtarget : Text
  outputFile : Path
  targetDir : Path
  stageAssets : Bool
  deriving DecidableEq

namespace BuildTarget

open Value

/-- The scratch directory has a default. -/
def ofValue (defaultDir : Path) (v : Value) : Checked BuildTarget :=
  v.readModel fun entries =>
    mk <$> readField entries "subtarget" Option.none readText
      <*> readField entries "output_file" Option.none readPath
      <*> readField entries "target_dir" (some defaultDir) readPath
      <*> readField entries "stage_assets" (some true) readBoolean

def srcFolder (t : BuildTarget) : Path := (t.targetDir.child "haxe-build").child "src"

def assetsDir (t : BuildTarget) : Option Path :=
  if t.stageAssets then some (t.targetDir.child "merged-assets") else none

def record (t : BuildTarget) : Record := [
  ("subtarget", .text t.subtarget),
  ("output_file", .path t.outputFile),
  ("target_dir", .path t.targetDir),
  ("stage_assets", .bool t.stageAssets)]

end BuildTarget

end HaxeBuild
