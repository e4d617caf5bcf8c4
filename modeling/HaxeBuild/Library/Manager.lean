import HaxeBuild.Build.World
import HaxeBuild.Program.Reader

namespace HaxeBuild

namespace LibraryReference

/-- A declared value: a library, a description of one, or its written form. -/
def ofDeclared (v : Value) : Checked LibraryReference :=
  match v with
  | .library l => .valid l
  | .dict _ => ofValue v
  | v => parse v.print

/-- A library that the settings name. What is no text has none of a text's methods. -/
def ofNamed (v : Value) : Outcome LibraryReference :=
  match v.text?, v with
  | some t, _ => (parse t).orFail
  | none, .absent why => .error (.absentValue why)
  | none, .bytes _ => Outcome.fail .wrongType
  | none, _ => Outcome.fail .noAttribute

/-- Reads one after the other and stops at the first flaw. -/
def readAll (read : Value → Outcome LibraryReference) : List Value →
    Outcome (List LibraryReference)
  | [] => .ok []
  | v :: vs => do
    let l ← read v
    return l :: (← readAll read vs)

/-- Keeps the first library of each canonical form. -/
def distinct (ls : List LibraryReference) : List LibraryReference :=
  ls.eraseDupsBy fun a b => a.canonical == b.canonical

/-- The libraries that the classes of a program declare. -/
def declared (p : Program) : Outcome (List LibraryReference) := do
  return distinct
    (← readAll (fun v => (ofDeclared v).orFail) (Value.flattenAll (p.metadata .addLibraries)))

/-- The declared libraries, then those that the settings add. -/
def withSettings (ls : List LibraryReference) (s : Option Settings) :
    Outcome (List LibraryReference) :=
  match s.map (·.libraries) with
  | none => .ok ls
  | some [] => .ok ls
  | some more => do return distinct (ls ++ (← readAll ofNamed more))

end LibraryReference

/-- A manager remembers the libraries of each program it has read, and what it has installed. -/
structure LibraryManager where
  read : List (Nat × List LibraryReference)
  installed : List Text

namespace LibraryManager

def empty : LibraryManager := ⟨[], []⟩

/-- A program together with what tells it apart from others. -/
structure Subject where
  identity : Nat
  program : Program

/-- The declared libraries as they were when the program was first read. -/
def libraries (subject : Subject) : Action LibraryManager (List LibraryReference) := do
  let m ← Action.state
  match m.read.lookup subject.identity with
  | some ls => return ls
  | none =>
    let ls ← Action.ofOutcome (LibraryReference.declared subject.program)
    Action.setState { m with read := m.read ++ [(subject.identity, ls)] }
    return ls

def required (subject : Subject) (s : Option Settings) :
    Action LibraryManager (List LibraryReference) := do
  let ls ← libraries subject
  Action.ofOutcome (LibraryReference.withSettings ls s)

def flags (ls : List LibraryReference) : List CompilerFlag := ls.map fun l => ⟨"-lib", l.haxeSpec⟩

def compilerFlags (subject : Subject) (s : Settings) :
    Action LibraryManager (List CompilerFlag) := do
  return flags (← required subject (some s))

/-- Asks the source for a library that is not installed yet. -/
def install (source : PackageSource) (l : LibraryReference) : Action LibraryManager Unit := do
  let m ← Action.state
  if m.installed.contains l.canonical then return
  else
    Action.log .info ("Trying to install library " ++ l.canonical)
    match (← source.ask l) with
    | .error message =>
      Action.log .error ("Error installing " ++ l.canonical ++ ": " ++ message)
      throw (.libraryInstall l.canonical (some message))
    | .ok false =>
      Action.log .error ("Library " ++ l.canonical ++ " could not be installed")
      throw (.libraryInstall l.canonical none)
    | .ok true => Action.setState { m with installed := m.installed ++ [l.canonical] }

def installAll (source : PackageSource) : List LibraryReference → Action LibraryManager Unit
  | [] => return
  | l :: ls => do
    install source l
    installAll source ls

def shownNames (ls : List LibraryReference) : Text :=
  (Value.list (ls.map fun l => .text l.canonical)).shown

/-- Installs what is required, up to the first library that the source does not accept. -/
def installRequired (source : PackageSource) (subject : Subject) (s : Option Settings) :
    Action LibraryManager (List LibraryReference) := do
  let ls ← required subject s
  Action.log .info ("Referenced libraries: " ++ shownNames ls)
  installAll source ls
  return ls

end LibraryManager

end HaxeBuild
