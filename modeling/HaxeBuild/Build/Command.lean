import HaxeBuild.Program.Basic
import HaxeBuild.Template.Mark
import HaxeBuild.Text.Blank
import HaxeBuild.Text.Lines
import HaxeBuild.Value.Print

namespace HaxeBuild.Command

open Template

def interpolation (expression : Text) : Text := Mark.value (" " ++ expression ++ " ")

def tag (words : Text) : Text := Mark.block (" " ++ words ++ " ")

/-- The command of a program that declares none. -/
def defaultTemplate : Text := Text.join "\n" [
  "",
  interpolation "toolchain",
  "-cp",
  interpolation "srcFolder",
  "-main",
  interpolation "entryPointFile",
  tag "if debug",
  "    -debug",
  tag "end",
  interpolation "actualSubtarget.command_switch",
  interpolation "outputFile",
  tag "for flag in haxeExtraFlags",
  "    " ++ interpolation "flag.name",
  "    " ++ interpolation "flag.value",
  tag "end",
  tag "for define in haxeExtraDefines",
  "    -D",
  "    " ++ interpolation "define",
  tag "end",
  ""]

def defaultCall : Text := interpolation "defaultBuildCommand()"

/-- The command lines that the program declares, or a call of the default command. -/
def template (p : Program) : Text :=
  match p.allMetadata .customBuildCommandLine with
  | [] => defaultCall
  | lines => Text.join "\n" ((Value.flattenAll lines).map Value.print)

/-- Every line is one argument; blank lines are none. -/
def split (rendered : Text) : List Text :=
  ((Text.lines rendered).map Text.trim).filter (!·.isEmpty)

end HaxeBuild.Command
