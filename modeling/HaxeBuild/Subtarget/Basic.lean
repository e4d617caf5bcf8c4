import HaxeBuild.Text.Basic

namespace HaxeBuild

/-- A subtarget fixes the compiler switch for the output and the binary that runs it. -/
structure Subtarget where
  name : Text
  aliases : List Text
  commandSwitch : Text
  interpreter : Text
  interpreterSuffix : Text
  deriving DecidableEq

namespace Subtarget

def answersTo (s : Subtarget) (requested : Text) : Bool :=
  requested == s.name || s.aliases.contains requested

/-- The subtargets that come with the compiler. -/
def standard : List Subtarget := [
  ⟨"js", ["javascript"], "-js", "node", ""⟩,
  ⟨"neko", [], "-neko", "neko", ""⟩,
  ⟨"php", [], "-php", "php", "/index.php"⟩,
  ⟨"python", ["py"], "-python", "python3", ""⟩,
  ⟨"hl", ["hashlink"], "-hl", "hl", ""⟩]

end Subtarget

end HaxeBuild
