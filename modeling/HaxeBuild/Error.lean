import HaxeBuild.Checked
import HaxeBuild.Fault
import HaxeBuild.Reference.Descriptor
import HaxeBuild.Template.Problem

namespace HaxeBuild

/-- What has to happen before an operation. -/
inductive Prerequisite where
  | sources
  | compilation
  deriving DecidableEq

inductive BuildError where
  | unknownSubtarget (name : Text) (available : List Text)
  | unknownClass (descriptor owner : Text)
  | unknownMember (descriptor owner member : Text) (signature : Option Text)
  | ambiguousMember (descriptor owner member : Text) (signatures : List Text)
  | malformedDescriptor (m : MalformedDescriptor)
  | malformedTemplate (flaw : Template.SyntaxFlaw)
  | parameterConflict (key : Text)
  | resourceNotFound (path : Text)
  | unsafePath (path root : Text)
  | libraryInstall (library : Text) (detail : Option Text)
  | outOfOrder (needed : Prerequisite)
  | artifactMissing (path : Text)
  | toolchain (exitCode : Int) (output : Text) (command : List Text)
  | invalid (issues : List Issue)
  | absentValue (why : Text)
  | fault (f : Fault)
  deriving DecidableEq

namespace BuildError

/-- A message about a reference ends with the descriptor it came from. -/
def about (descriptor message : Text) : Text := message ++ " [descriptor: " ++ descriptor ++ "]"

def message : BuildError → Text
  | unknownSubtarget name available =>
    let listed : Text := if available.isEmpty then "none declared" else Text.join ", " available
    "Unknown subtarget '" ++ name ++ "' (available: " ++ listed ++ ")"
  | unknownClass descriptor owner => about descriptor ("Unknown class '" ++ owner ++ "'")
  | unknownMember descriptor owner member signature =>
    about descriptor
      ("Unknown member '" ++ member ++ signature.getD [] ++ "' in class '" ++ owner ++ "'")
  | ambiguousMember descriptor owner member signatures =>
    about descriptor
      ("Several signatures for '" ++ member ++ "' in class '" ++ owner ++ "' (" ++
        Text.join ", " signatures ++ "), please specify signature")
  | malformedDescriptor m => about m.text ("Malformed descriptor: " ++ m.flaw.message)
  | malformedTemplate flaw =>
    flaw.problem.message ++ " (line " ++ Text.ofNat flaw.line ++ ")"
  | parameterConflict key => "Template parameter '" ++ key ++ "' is already set"
  | resourceNotFound path => "Resource not found: " ++ path
  | unsafePath path root => "Path " ++ path ++ " escapes " ++ root
  | libraryInstall library detail =>
    let cause : Text := match detail.filter (!·.isEmpty) with
      | some text => ": " ++ text
      | none => []
    "Failed to install library " ++ library ++ cause
  | outOfOrder .sources => "Must call build_source() before compile()"
  | outOfOrder .compilation => "Must call compile() successfully before run()"
  | artifactMissing path => "file " ++ path ++ " doesn't exist"
  | toolchain exitCode _ _ => "Toolchain failed with exit code " ++ Text.ofInt exitCode
  | invalid _ => []
  | absentValue why => why
  | fault (.reported text) => text
  | fault _ => []

end BuildError

/-- A checked result as an outcome of the build. -/
def Checked.orFail {α : Type} : Checked α → Except BuildError α
  | .valid value => .ok value
  | .invalid issues => .error (.invalid issues)

theorem Checked.orFail_eq_ok {α : Type} {checked : Checked α} {a : α} :
    checked.orFail = .ok a ↔ checked = .valid a := by
  cases checked <;> simp [orFail]

theorem Checked.orFail_eq_error {α : Type} {checked : Checked α} {e : BuildError} :
    checked.orFail = .error e ↔ ∃ issues, checked = .invalid issues ∧ e = .invalid issues := by
  cases checked <;> simp [orFail, eq_comm]

abbrev Outcome (α : Type) := Except BuildError α

namespace Outcome

def fail {α : Type} (f : Fault) : Outcome α := .error (.fault f)

/-- A failure of the file tree or of a collaborator as an outcome of the build. -/
def ofFault {α : Type} : Except Fault α → Outcome α
  | .ok a => .ok a
  | .error f => fail f

end Outcome

end HaxeBuild
