import HaxeBuild.Value.Basic

namespace HaxeBuild

/-- The settings of a build. The two lists hold paths and texts when the settings are read; a
template can change what they hold. -/
structure Settings where
  title : Text
  name : Text
  package : Text
  version : Text
  company : Text
  initialWidth : Nat
  initialHeight : Nat
  orientation : Orientation
  embedResources : Bool
  assets : List Value
  icon : Option Text
  libraries : List Value
  minimizeNames : Bool
  release : Bool
  analyzerEnabled : Bool

namespace Settings

/-- Compiler defines that follow from the settings. -/
def extraDefines (s : Settings) : List Text :=
  (if s.analyzerEnabled then "analyzer" else "no-analyzer") ::
    (if s.embedResources then ["embed_resources"] else [])

/-- The fields, with the values that stand for the two lists. -/
def fields (s : Settings) (assets libraries : Value) : Record := [
  ("title", .text s.title),
  ("name", .text s.name),
  ("package", .text s.package),
  ("version", .text s.version),
  ("company", .text s.company),
  ("initial_width", .int s.initialWidth),
  ("initial_height", .int s.initialHeight),
  ("orientation", .orientation s.orientation),
  ("embed_resources", .bool s.embedResources),
  ("assets", assets),
  ("icon", .ofOption .text s.icon),
  ("libraries", libraries),
  ("minimize_names", .bool s.minimizeNames),
  ("release", .bool s.release),
  ("analyzer_enabled", .bool s.analyzerEnabled)]

def record (s : Settings) : Record := s.fields (.list s.assets) (.list s.libraries)

end Settings

end HaxeBuild
