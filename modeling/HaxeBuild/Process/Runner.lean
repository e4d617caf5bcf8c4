import HaxeBuild.Build.World
import HaxeBuild.Text.Lines
import HaxeBuild.Value.Print

namespace HaxeBuild

/-- What a program leaves behind; a negative status tells which signal ended it. -/
structure Ending where
  status : Int
  output : Bytes
  errors : Bytes
  files : FileTree

/-- Why a program did not start: the system refuses it, naming what is at fault, or the request
cannot even be made. -/
inductive Unstarted where
  | refused (why : Refusal) (subject : Value)
  | impossible (f : Fault)

/-- A system starts programs and waits for their ends. -/
abbrev OperatingSystem := Invocation → FileTree → Except Unstarted Ending

namespace ProcessRunner

/-- The system's own report of a refusal. -/
def report (number : Nat) (why : Refusal) (subject : Value) : Text :=
  "[Errno " ++ Text.ofNat number ++ "] " ++ why.message ++ ": " ++ subject.shown

/-- A program that is missing or must not be started gives a result; other refusals are failures. -/
def notStarted (binary : Text) (u : Unstarted) : Except Fault ProcessResult × Log :=
  let result (message : Text) : Except Fault ProcessResult × Log :=
    (.ok ⟨-1, message⟩, [⟨.error, "Could not start " ++ binary ++ ": " ++ message⟩])
  match u with
  | .refused .notFound subject => result (report 2 .notFound subject)
  | .refused .notPermitted subject => result (report 13 .notPermitted subject)
  | .refused why _ => (.error (.refused why), [])
  | .impossible f => (.error f, [])

/-- Captured octets are UTF-8, with all line ends alike. -/
def decoded (octets : Bytes) : Except Fault Text :=
  match Text.ofUtf8? octets with
  | some t => .ok (Text.unifyLineEnds t)
  | none => .error .undecodable

/-- The output and the errors; with `redirect` neither is captured. -/
def captured (redirect : Bool) (e : Ending) : Except Fault (Option (Text × Text)) :=
  if redirect then .ok none
  else do
    let output ← decoded e.output
    let errors ← decoded e.errors
    return some (output, errors)

/-- Reports a failed program, with its errors if they were captured. -/
def failureLog (binary : Text) (status : Int) (errors : Option Text) : Log :=
  if status == 0 then []
  else ⟨.error, binary ++ " failed with exit code " ++ Text.ofInt status⟩ ::
    (errors.map fun t => ⟨Level.error, "STDERR: " ++ t⟩).toList

def ended (i : Invocation) (e : Ending) : Except Fault ProcessResult × Log :=
  match captured i.redirect e with
  | .error f => (.error f, [])
  | .ok streams =>
    let output := match streams with
      | some (output, errors) => output ++ errors
      | none => []
    (.ok ⟨e.status, output⟩, failureLog i.binary e.status (streams.map Prod.snd))

def commandLog (i : Invocation) : LogEntry :=
  ⟨.debug, "Command: " ++ Text.join " " (i.binary :: i.arguments) ++ " (cwd: " ++
    i.workingDir.toText ++ ")"⟩

/-- Runs programs on a system. -/
def on (system : OperatingSystem) : ProcessRunner := fun _ i t =>
  match system i t with
  | .ok e =>
    let (result, log) := ended i e
    ⟨result, commandLog i :: log, e.files⟩
  | .error u =>
    let (result, log) := notStarted i.binary u
    ⟨result, commandLog i :: log, t⟩

end ProcessRunner

end HaxeBuild
