import HaxeBuild.Error
import HaxeBuild.Files.Walk
import HaxeBuild.Program.Basic
import HaxeBuild.Text.Blank

namespace HaxeBuild.Program

/-- A resource in memory, or a file of the resource directory. Leading slashes are ignored, except
that a resource in memory may be stored with them. -/
def findResource (p : Program) (t : FileTree) (path : Text) : Except Fault (Option Bytes) :=
  let key := Text.dropLeading (.char '/') path
  match (p.resources.lookup key).or (p.resources.lookup path), p.resourcesDir with
  | some content, _ => .ok (some content)
  | none, none => .ok none
  | none, some directory => do
    match (← t.probe (directory ++ Path.ofText key)) with
    | some (_, .file content) => return some content
    | _ => return none

def resource (p : Program) (t : FileTree) (path : Text) : Outcome Bytes := do
  match (← Outcome.ofFault (p.findResource t path)) with
  | some content => return content
  | none => throw (.resourceNotFound path)

def resourceText (p : Program) (t : FileTree) (path : Text) : Outcome Text := do
  match Text.ofUtf8? (← p.resource t path) with
  | some text => return text
  | none => Outcome.fail .undecodable

end HaxeBuild.Program
