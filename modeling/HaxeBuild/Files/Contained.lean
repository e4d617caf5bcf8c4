import HaxeBuild.Error
import HaxeBuild.Files.Walk
import HaxeBuild.Text.Blank

namespace HaxeBuild.FileTree

/-- The path below `root`, unless it stands for a location outside it. Leading slashes are
ignored. -/
def contained (t : FileTree) (root : Path) (relative : Text) : Outcome Path := do
  let destination := root ++ Path.ofText (Text.dropLeading (.char '/') relative)
  let there ← Outcome.ofFault (t.resolve destination)
  let inside ← Outcome.ofFault (t.resolve root)
  if inside.isPrefixOf there then return destination
  else throw (.unsafePath relative root.toText)

end HaxeBuild.FileTree
