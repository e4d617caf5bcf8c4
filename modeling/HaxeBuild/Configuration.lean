import HaxeBuild.Path
import HaxeBuild.Text.Blank
import HaxeBuild.Text.Case
import HaxeBuild.Text.Lines

namespace HaxeBuild

/-- Variables with their values. The first value of a name counts. -/
abbrev Environment := List (Text × Text)

namespace Environment

/-- The name before the first equals sign and the value after it, both without outer blanks. -/
def assignment? (line : Text) : Option (Text × Text) :=
  (Text.cut? "=" line).bind fun (name, value) =>
    let name := Text.trim name
    if name.isEmpty || name.startsWith "#" then none else some (name, Text.trim value)

/-- The assignments of a file with one on each line. The last one of a name comes first. -/
def ofFile (content : Text) : Environment :=
  ((Text.splitOn (.char '\n') (Text.unifyLineEnds content)).filterMap assignment?).reverse

/-- A file adds variables; it does not change those that are set. -/
def withFile (e : Environment) (content : Text) : Environment := e ++ ofFile content

end Environment

structure Configuration where
  toolchain : Text
  installer : Text
  targetDir : Path
  logLevel : Text
  deriving DecidableEq

namespace Configuration

def toolchainVariable : Text := "HAXE_BINARY"

def installerVariable : Text := "HAXELIB_BINARY"

def targetDirVariable : Text := "BUILD_TARGET_DIR"

def logLevelVariable : Text := "LOG_LEVEL"

/-- A variable that is not set has a default; builds then write below the temporary directory. -/
def ofEnvironment (temporary : Path) (e : Environment) : Configuration where
  toolchain := (e.lookup toolchainVariable).getD "haxe"
  installer := (e.lookup installerVariable).getD "haxelib"
  targetDir :=
    ((e.lookup targetDirVariable).map Path.ofText).getD (temporary.child "haxe-build-target")
  logLevel := (e.lookup logLevelVariable).getD "INFO"

/-- The names of the log levels with their ranks. -/
def levelRanks : List (Text × Nat) := [
  ("CRITICAL", 50),
  ("FATAL", 50),
  ("ERROR", 40),
  ("WARNING", 30),
  ("WARN", 30),
  ("INFO", 20),
  ("DEBUG", 10),
  ("NOTSET", 0)]

/-- The form of a line of the log. -/
def logFormat : Text := "%(asctime)s - %(name)s - %(levelname)s - %(message)s"

/-- The given value, unless it is absent or empty. -/
def preferred (given : Option Text) (fallback : Text) : Text :=
  (given.filter (!·.isEmpty)).getD fallback

/-- The lowest rank that is logged; `none` if the level has no such name. Case does not count. -/
def logThreshold? (c : Configuration) (given : Option Text) : Option Nat :=
  levelRanks.lookup (Text.upper (preferred given c.logLevel))

end Configuration

end HaxeBuild
