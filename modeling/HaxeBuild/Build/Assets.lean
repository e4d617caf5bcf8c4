import HaxeBuild.Build.World
import HaxeBuild.Files.Contained
import HaxeBuild.Program.Resource
import HaxeBuild.Settings.Basic

namespace HaxeBuild

/-- A stager remembers which source claimed each destination. Without a directory it is idle. -/
structure AssetStager where
  staging : Option Path
  claims : List (Path × Text)

namespace AssetStager

def new (staging : Option Path) : AssetStager := ⟨staging, []⟩

/-- A declared path has to be a text. -/
def pathText (v : Value) : Outcome Text :=
  match v.text?, v with
  | some t, _ => .ok t
  | none, .bytes _ => Outcome.fail .wrongType
  | none, _ => Outcome.fail .noAttribute

def setClaim (destination : Path) (source : Text) : List (Path × Text) → List (Path × Text)
  | [] => [(destination, source)]
  | (d, s) :: rest =>
    if d = destination then (d, source) :: rest else (d, s) :: setClaim destination source rest

def claim (destination : Path) (source : Text) : Action AssetStager Unit := do
  let a ← Action.state
  match a.claims.lookup destination with
  | some previous =>
    if previous != source then
      Action.log .warning ("Asset " ++ destination.toText ++ " from " ++ source ++ " overwrites " ++
        previous)
  | none => pure ()
  Action.setState { a with claims := setClaim destination source a.claims }

def stageResource (p : Program) (directory : Path) (v : Value) : Action AssetStager Path := do
  Action.log .debug ("Copying resource " ++ v.print)
  let path ← Action.ofOutcome (pathText v)
  let destination ← Action.ofOutcome ((← Action.files).contained directory path)
  claim destination ("resource:" ++ path)
  Action.onDisk (Disk.ensureDirectory destination.parent)
  let content ← Action.ofOutcome (p.resource (← Action.files) path)
  Action.onDisk (Disk.writeFile destination content)
  return destination

def stageResources (p : Program) (directory : Path) : List Value → Action AssetStager (List Path)
  | [] => return []
  | v :: vs => do
    let destination ← stageResource p directory v
    return destination :: (← stageResources p directory vs)

/-- Stages the resources that the classes of the program declare. -/
def stageEmbedded (p : Program) : Action AssetStager (List Path) := do
  match (← Action.state).staging with
  | none => return []
  | some directory =>
    Action.log .info ("Copying embedded resources to " ++ directory.toText)
    stageResources p directory (Value.flattenAll (p.metadata .addAssets))

/-- What is copied for a tree: the tree itself if it is a file, or else its files, each under its
path from the tree. -/
def copies (t : FileTree) (directory tree : Path) : List (Path × Path) :=
  if t.isFile tree then [(tree, directory.child tree.name)]
  else (Disk.filesBelow t tree).map fun source =>
    (source, Path.mk directory.slashes (directory.parts ++ source.parts.drop tree.parts.length))

def copyAll : List (Path × Path) → Action AssetStager (List Path)
  | [] => return []
  | (source, destination) :: rest => do
    claim destination source.toText
    Action.onDisk (Disk.ensureDirectory destination.parent)
    Action.onDisk (Disk.copyFile source destination)
    return destination :: (← copyAll rest)

def stageTree (directory tree : Path) : Action AssetStager (List Path) := do
  match (← Action.onDisk (Disk.probe tree)) with
  | none => throw (.resourceNotFound tree.toText)
  | some _ =>
    Action.log .info ("Copying assets from " ++ tree.toText)
    copyAll (copies (← Action.files) directory tree)

/-- A tree is named by a path or a text. -/
def treePath (v : Value) : Outcome Path :=
  match v with
  | .path p => .ok p
  | .text t => .ok (Path.ofText t)
  | .orientation _ => .ok (Path.ofText v.print)
  | _ => Outcome.fail .wrongType

def stageAll (directory : Path) : List Value → Action AssetStager (List Path)
  | [] => return []
  | v :: vs => do
    let tree ← Action.ofOutcome (treePath v)
    let written ← stageTree directory tree
    return written ++ (← stageAll directory vs)

def stageTrees (trees : List Value) : Action AssetStager (List Path) := do
  match (← Action.state).staging with
  | none => return []
  | some directory => stageAll directory trees

/-- Stages the declared resources, then the trees of the settings, and returns the destinations in
the order in which they were written. The last write wins. -/
def stage (p : Program) (s : Settings) : Action AssetStager (List Path) := do
  let a ← Action.state
  match a.staging with
  | none =>
    Action.log .debug "No staging directory configured, skipping assets"
    return []
  | some _ =>
    Action.setState { a with claims := [] }
    let resources ← stageEmbedded p
    return resources ++ (← stageTrees s.assets)

end AssetStager

end HaxeBuild
