import HaxeBuild.Machine.Script
import HaxeBuild.Machine.Shell
import HaxeBuild.Text.Blank

namespace HaxeBuild.Shell

open Script

/-- The value of a parameter that has a single one. -/
def parameter (s : Shell) (name : Text) : Text :=
  if name == "?" then Text.ofNat s.status
  else if name == "#" then Text.ofNat s.arguments.length
  else if name == "$" then processId
  else if name == "0" then s.name
  else if name == "*" || name == "@" then Text.join " " s.arguments
  else match Tool.number? name with
    | some n => (s.arguments[n - 1]?).getD []
    | none => (s.bindings.lookup name).getD []

/-- The fields that a word has so far: finished ones, and the one that is being built. -/
structure Fields where
  finished : List Text
  current : Option Text

namespace Fields

def extend (f : Fields) (t : Text) : Fields := { f with current := some (f.current.getD [] ++ t) }

def finish (f : Fields) : Fields := ⟨f.finished ++ f.current.toList, none⟩

def isBreak (c : Code) : Bool := isSpace c || c == .char '\n'

/-- Adds a value that is cut into fields at its blanks. -/
def extendSplit (f : Fields) (t : Text) : Fields :=
  t.foldl (fun f c => if isBreak c then f.finish else f.extend [c]) f

/-- Adds all arguments, each of them as a field of its own. -/
def extendAll (f : Fields) : List Text → Fields
  | [] => f
  | [a] => f.extend a
  | a :: rest => extendAll (f.extend a).finish rest

/-- Adds all arguments, cut at their blanks. -/
def extendAllSplit (f : Fields) : List Text → Fields
  | [] => f
  | [a] => f.extendSplit a
  | a :: rest => extendAllSplit (f.extendSplit a).finish rest

end Fields

def expandPiece (s : Shell) (f : Fields) : Piece → Fields
  | .literal t => f.extend t
  | .parameter name true =>
    if name == "@" then f.extendAll s.arguments else f.extend (s.parameter name)
  | .parameter name false =>
    if name == "@" || name == "*" then f.extendAllSplit s.arguments
    else f.extendSplit (s.parameter name)

/-- A word becomes any number of fields. -/
def expand (s : Shell) (w : Word) : List Text := (w.foldl s.expandPiece ⟨[], none⟩).finish.finished

/-- A word that has to stay one field. -/
def expandWhole (s : Shell) (w : Word) : Text :=
  w.flatMap fun
    | .literal t => t
    | .parameter name _ => s.parameter name

/-- The name and the value of a word that sets a variable. -/
def assignment? (w : Word) : Option (Text × Word) :=
  let isLiteral : Piece → Bool
    | .literal t => t != "="
    | .parameter .. => false
  match w.dropWhile isLiteral with
  | .literal _ :: value =>
    let name := (w.takeWhile isLiteral).flatMap fun
      | .literal t => t
      | .parameter .. => []
    if isName name then some (name, value) else none
  | _ => none

/-- Where a descriptor leads. -/
inductive Sink where
  | output
  | errors
  | file (l : Location)
  | nowhere

/-- The input of a command, and where its output and its errors go. -/
structure Streams where
  input : Bytes
  output : Sink
  errors : Sink

namespace Streams

def standard : Streams := ⟨[], .output, .errors⟩

def get (t : Streams) (descriptor : Nat) : Sink := if descriptor == 2 then t.errors else t.output

def set (t : Streams) (descriptor : Nat) (sink : Sink) : Streams :=
  if descriptor == 1 then { t with output := sink }
  else if descriptor == 2 then { t with errors := sink }
  else t

end Streams

/-- The file that swallows all output. -/
def nullDevice : Text := "/dev/null"

def openSink (extend : Bool) (name : Text) : Disk Sink := do
  if name == nullDevice then return .nowhere
  else if extend then
    match (← Disk.locate true (Path.ofText name)) with
    | .entry l (.file _) => return .file l
    | _ => return .file (← Disk.openFile (Path.ofText name))
  else return .file (← Disk.openFile (Path.ofText name))

def readInput (name : Text) : Disk Bytes :=
  if name == nullDevice then return [] else Disk.readFile (Path.ofText name)

/-- Why a file cannot be opened for a command. -/
def openComplaint (name : Text) (mode : Redirect) (f : Fault) : Text :=
  let cause : Text := match mode, f with
    | .read, .refused .notFound => "No such file"
    | _, .refused .notFound => "Directory nonexistent"
    | _, .refused why => why.message
    | _, _ => []
  let verb : Text := match mode with
    | .read => "cannot open "
    | _ => "cannot create "
  verb ++ name ++ ": " ++ cause

/-- Opens the redirections of a command one after the other. -/
def redirect (s : Shell) (streams : Streams) : List (Nat × Redirect × Word) →
    Except Text Streams × Shell
  | [] => (.ok streams, s)
  | (descriptor, mode, w) :: rest =>
    let name := s.expandWhole w
    let opened : Except Fault Streams × FileTree := match mode with
      | .follow =>
        let other := (Tool.number? name).getD 1
        (.ok (streams.set descriptor (streams.get other)), s.files)
      | .read =>
        let (result, t) := (readInput name).run s.files
        (result.map fun input => { streams with input }, t)
      | .replace =>
        let (result, t) := (openSink false name).run s.files
        (result.map (streams.set descriptor), t)
      | .extend =>
        let (result, t) := (openSink true name).run s.files
        (result.map (streams.set descriptor), t)
    match opened with
    | (.ok streams, t) => redirect { s with files := t } streams rest
    | (.error f, t) => (.error (openComplaint name mode f), { s with files := t })

/-- Writes octets to where a descriptor leads. -/
def deliver (s : Shell) (sink : Sink) (octets : Bytes) : Shell :=
  match sink with
  | .output => { s with output := s.output ++ octets }
  | .errors => { s with errors := s.errors ++ octets }
  | .nowhere => s
  | .file l =>
    let old := match s.files.get? l with
      | some (.file content) => content
      | _ => []
    { s with files := s.files.set l (.file (old ++ octets)) }

/-- A program that was ended by a signal has a status above this number. -/
def signalBase : Nat := 128

/-- What a command does: one of the shell's own, a program, or the report that there is none. -/
def lookUp (find : Text → Option Executable) (line : Nat) (name : Text) (s : Shell)
    (input : Bytes) (arguments : List Text) : Reply :=
  match Tool.all.lookup name, find name with
  | some tool, _ => tool s input arguments
  | none, some program =>
    let e := program arguments s.files
    ⟨if e.status < 0 then signalBase + (-e.status).toNat else e.status.toNat, e.output,
      (Text.ofUtf8? e.errors).getD [], { e.files with cwd := s.files.cwd }, none⟩
  | none, none =>
    let report := s.name ++ ": " ++ Text.ofNat line ++ ": " ++ name ++ ": "
    if name.contains (.char '/') && s.files.pathExists (Path.ofText name) then
      s.failWith 126 (report ++ Refusal.notPermitted.message ++ "\n")
    else s.failWith 127 (report ++ "not found\n")

/-- Runs one command and returns how the shell ended, if it did. -/
def runCommand (find : Text → Option Executable) (c : Command) (s : Shell) :
    Shell × Option Int :=
  let assignments := (c.words.map assignment?).takeWhile Option.isSome
  let bindings := (assignments.filterMap id).map fun (name, value) => (name, s.expandWhole value)
  let fields := (c.words.drop assignments.length).flatMap s.expand
  match s.redirect .standard c.redirections with
  | (.error complaint, s) =>
    let report := s.name ++ ": " ++ Text.ofNat c.line ++ ": " ++ complaint ++ "\n"
    ({ s.deliver .errors (Tool.bytesOf report) with status := 2 }, none)
  | (.ok streams, s) =>
    match fields with
    | [] => ({ s with bindings := bindings ++ s.bindings, status := 0 }, none)
    | name :: arguments =>
      let reply := lookUp find c.line name s streams.input arguments
      let s := { s with files := reply.files, status := reply.status }
      let s := s.deliver streams.output reply.output
      (s.deliver streams.errors (Tool.bytesOf reply.errors), reply.ending)

/-- Whether the status of the command before lets this one run. -/
def admits (s : Shell) : Condition → Bool
  | .always => true
  | .success => s.status == 0
  | .failure => s.status != 0

def runAll (find : Text → Option Executable) : List Command → Shell → Shell × Option Int
  | [], s => (s, none)
  | c :: rest, s =>
    if s.admits c.condition then
      match runCommand find c s with
      | (s, none) => runAll find rest s
      | (s, some ending) => (s, some ending)
    else runAll find rest s

/-- Runs a script under a name. -/
def interpret (find : Text → Option Executable) (name script : Text) : Executable :=
  fun arguments t =>
    let start : Shell := ⟨name, arguments, [], 0, t, [], []⟩
    match Script.read script with
    | none =>
      ⟨2, [], Tool.bytesOf (name ++ ": 1: Syntax error: Unterminated quoted string\n"), t⟩
    | some commands =>
      let (s, ending) := runAll find commands start
      ⟨ending.getD s.status, s.output, s.errors, s.files⟩

/-- The shell as a program: it runs the script after `-c`, or the one in a file. -/
def program (find : Text → Option Executable) : Executable := fun arguments t =>
  match arguments with
  | [] => ⟨0, [], [], t⟩
  | flag :: rest =>
    if flag == "-c" then
      match rest with
      | [] => ⟨2, [], Tool.bytesOf "sh: 0: -c requires an argument\n", t⟩
      | [script] => interpret find "sh" script [] t
      | script :: name :: rest => interpret find name script rest t
    else
      match (t.content? (Path.ofText flag)).bind Text.ofUtf8? with
      | some script => interpret find flag script rest t
      | none => ⟨2, [], Tool.bytesOf ("sh: 0: cannot open " ++ flag ++ ": No such file\n"), t⟩

end HaxeBuild.Shell
