import HaxeBuild.Machine.Interpreter

namespace HaxeBuild

namespace Executable

/-- Ends at once. -/
def constant (status : Int) : Executable := fun _ t => ⟨status, [], [], t⟩

/-- The directories in which installed programs are found. -/
def searchPath : List Text := ["/usr/local/bin/", "/usr/bin/", "/bin/"]

/-- The name of a program that is written with its directory. -/
def withoutDirectory (binary : Text) : Text :=
  (searchPath.findSome? (Text.after? · binary)).getD binary

/-- The installed programs. The shell can start them in turn, up to a depth. -/
def installed : (depth : Nat) → (binary : Text) → Option Executable
  | 0, _ => none
  | depth + 1, binary =>
    let name := withoutDirectory binary
    if name == "sh" then some (Shell.program (installed depth))
    else if name == "true" then some (constant 0)
    else if name == "false" then some (constant 1)
    else none

end Executable

namespace Launch

/-- A text that can be handed to the system. -/
def askable (t : Text) : Except Unstarted Unit :=
  if t.any fun c => c.nameOctets?.isNone then .error (.impossible .unencodable)
  else if t.contains (.char '\x00') then .error (.impossible .badValue)
  else .ok ()

def askableAll : List Text → Except Unstarted Unit
  | [] => .ok ()
  | t :: ts => do
    askable t
    askableAll ts

/-- The directory that a program is to work in. -/
def directory (t : FileTree) (p : Path) : Except Unstarted Location :=
  match t.locate true p with
  | .ok (.entry l .directory) => .ok l
  | .ok (.entry _ _) => .error (.refused .notDirectory (.path p))
  | .ok (.free _) => .error (.refused .notFound (.path p))
  | .error (.refused why) => .error (.refused why (.path p))
  | .error f => .error (.impossible f)

/-- Names that every directory has, and that no program can have. -/
def isDirectoryName (binary : Text) : Bool := binary.isEmpty || binary == "." || binary == ".."

/-- Why a program that is not installed cannot be started. No file of the tree is executable. -/
def refusal (t : FileTree) (binary : Text) : Refusal :=
  if binary.contains (.char '/') then
    match t.locate true (Path.ofText binary) with
    | .ok (.entry _ (.file _)) =>
      if binary.getLast? == some (.char '/') then .notDirectory else .notPermitted
    | .ok (.entry _ _) => .notPermitted
    | .error (.refused why) => why
    | _ => .notFound
  else if isDirectoryName binary then .notPermitted
  else if FileTree.isTooLong binary then .nameTooLong
  else .notFound

/-- Shells are started from shells at most this often. -/
def maxDepth : Nat := 16

/-- A system on which no other programs are installed. -/
def start : OperatingSystem := fun i t => do
  askableAll (i.binary :: i.arguments)
  let l ← directory t i.workingDir
  let inside := { t with cwd := l }
  match Executable.installed maxDepth i.binary with
  | some program =>
    let e := program i.arguments inside
    return { e with files := { e.files with cwd := t.cwd } }
  | none => throw (.refused (refusal inside i.binary) (.text i.binary))

end Launch

end HaxeBuild
