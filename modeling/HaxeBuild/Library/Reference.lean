import HaxeBuild.Checked
import HaxeBuild.Text.Blank
import HaxeBuild.Text.Utf8

namespace HaxeBuild

/-- A library requirement: a name and, unless any version will do, a version. -/
structure LibraryReference where
  name : Text
  version : Option Text
  deriving DecidableEq

namespace LibraryReference

/-- An empty version counts as none. -/
def statedVersion (l : LibraryReference) : Option Text := l.version.filter (!·.isEmpty)

/-- Name and version joined by a mark, or the name alone. -/
def joined (mark : Text) (l : LibraryReference) : Text :=
  match l.statedVersion with
  | some version => l.name ++ mark ++ version
  | none => l.name

/-- The form that tells two requirements apart. -/
def canonical (l : LibraryReference) : Text := l.joined "@"

/-- The form that the compiler and the installer accept. -/
def haxeSpec (l : LibraryReference) : Text := l.joined ":"

/-- A name is not empty, and no half of a surrogate pair stands alone in it. -/
def checkedName (name : Text) : Checked Text :=
  if !Text.isUnicode name then .flawed .notUnicode
  else if name.isEmpty then .flawed .tooShort
  else .valid name

/-- Only the name is checked. -/
def checked (name : Text) (version : Option Text) : Checked LibraryReference :=
  ((checkedName name).within (.field "name")).map fun name => ⟨name, version⟩

/-- Reads `name`, `name@version` or `name:version`; the first `@` is sought before the first `:`. -/
def parse (text : Text) : Checked LibraryReference :=
  let text := text.trim
  match (Text.cut? "@" text).orElse fun _ => Text.cut? ":" text with
  | some (name, version) =>
    let version := Text.trim version
    checked (Text.trim name) (if version.isEmpty then none else some version)
  | none => checked text none

end LibraryReference

/-- A compiler option whose value stands on a line of its own. -/
structure CompilerFlag where
  name : Text
  value : Text
  deriving DecidableEq

end HaxeBuild
