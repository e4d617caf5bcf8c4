import HaxeBuild.Files.Disk
import HaxeBuild.Process.Runner

namespace HaxeBuild

/-- A program works on the file tree, from the working directory of the tree. -/
abbrev Executable := (arguments : List Text) → FileTree → Ending

/-- What a command of a script sees and changes. -/
structure Shell where
  name : Text
  arguments : List Text
  bindings : List (Text × Text)
  status : Nat
  files : FileTree
  output : Bytes
  errors : Bytes

/-- What a command leaves behind. With an ending the shell ends as well. -/
structure Reply where
  status : Nat
  output : Bytes
  errors : Text
  files : FileTree
  ending : Option Int

/-- A command, given its input and its arguments. -/
abbrev Tool := Shell → (input : Bytes) → (arguments : List Text) → Reply

namespace Shell

/-- The number by which the shell knows its own process. -/
def processId : Text := "100"

/-- Ends well without output. -/
def succeed (s : Shell) : Reply := ⟨0, [], [], s.files, none⟩

/-- Ends well with some output. -/
def say (s : Shell) (output : Bytes) : Reply := { s.succeed with output }

/-- Ends with a status and a message. -/
def failWith (s : Shell) (status : Nat) (errors : Text) : Reply := { s.succeed with status, errors }

/-- Applies a change of the file tree to each argument and reports those that fail. -/
def each (s : Shell) (change : Text → Disk Unit) (complaint : Text → Text) :
    List Text → Reply
  | [] => s.succeed
  | name :: rest =>
    let (result, t) := (change name).run s.files
    let reply := each { s with files := t } change complaint rest
    match result with
    | .ok _ => reply
    | .error (.refused why) => { reply with
        status := 1
        errors := complaint name ++ ": " ++ why.message ++ "\n" ++ reply.errors }
    | .error _ => { reply with status := 1 }

end Shell

namespace Escape

/-- Whether a character is an octal digit. -/
def isOctal (c : Code) : Bool := 48 ≤ c.val && c.val ≤ 55

/-- At most three octal digits name an octet. -/
def octal (t : Text) : Bytes × Text :=
  let digits := (t.take 3).takeWhile isOctal
  ([(digits.foldl (fun n (c : Code) => n * 8 + (c.val - 48)) 0).toUInt8], t.drop digits.length)

/-- The octet that a letter after a backslash names. -/
def named : List (Char × UInt8) := [('\\', 92), ('a', 7), ('b', 8), ('f', 12), ('n', 10), ('r', 13),
  ('t', 9), ('v', 11)]

/-- What follows a backslash; an unknown escape leaves the backslash as it is. -/
def read (t : Text) : Bytes × Text :=
  match t with
  | .char c :: rest =>
    match named.lookup c with
    | some octet => ([octet], rest)
    | none => if isOctal (.char c) then octal t else ([92], t)
  | t => ([92], t)

/-- The bytes of a character, if it can be written. -/
def encoded (c : Code) : Bytes := (c.nameOctets?).getD []

/-- Resolves escapes until the text ends or asks to stop, which the second part tells. -/
def resolve : (fuel : Nat) → Text → Bytes × Bool
  | 0, _ => ([], false)
  | _ + 1, [] => ([], false)
  | _ + 1, .char '\\' :: .char 'c' :: _ => ([], true)
  | fuel + 1, .char '\\' :: .char '0' :: rest =>
    let (octets, rest) := octal rest
    let (more, stop) := resolve fuel rest
    (octets ++ more, stop)
  | fuel + 1, .char '\\' :: rest =>
    let (octets, rest) := read rest
    let (more, stop) := resolve fuel rest
    (octets ++ more, stop)
  | fuel + 1, c :: rest =>
    let (more, stop) := resolve fuel rest
    (encoded c ++ more, stop)

end Escape

namespace Tool

open Shell

/-- The bytes of a text. -/
def bytesOf (t : Text) : Bytes := t.flatMap Escape.encoded

/-- Writes its arguments with escapes resolved, and a line end unless `-n` comes first. -/
def echo : Tool := fun s _ arguments =>
  let (end', arguments) : Bytes × List Text :=
    if arguments.head? == some "-n" then ([], arguments.drop 1) else ([10], arguments)
  let line := Text.join " " arguments
  let (octets, stop) := Escape.resolve (line.length + 1) line
  s.say (if stop then octets else octets ++ end')

/-- The octets of a directive of a format. -/
def directive (letter : Code) (argument : Text) : Bytes :=
  if letter == .char 'c' then bytesOf (argument.take 1)
  else if letter == .char 'd' || letter == .char 'i' || letter == .char 'u' then
    bytesOf (if argument.isEmpty then "0" else argument)
  else if letter == .char 'b' then (Escape.resolve (argument.length + 1) argument).1
  else bytesOf argument

/-- Goes once through a format and returns the arguments that it did not use. -/
def fillFormat : (fuel : Nat) → Text → List Text → Bytes × List Text
  | 0, _, arguments => ([], arguments)
  | _ + 1, [], arguments => ([], arguments)
  | fuel + 1, .char '%' :: .char '%' :: rest, arguments =>
    let (more, unused) := fillFormat fuel rest arguments
    (37 :: more, unused)
  | fuel + 1, .char '%' :: letter :: rest, arguments =>
    let (more, unused) := fillFormat fuel rest (arguments.drop 1)
    (directive letter (arguments.headD []) ++ more, unused)
  | fuel + 1, .char '\\' :: rest, arguments =>
    let (octets, rest) := Escape.read rest
    let (more, unused) := fillFormat fuel rest arguments
    (octets ++ more, unused)
  | fuel + 1, c :: rest, arguments =>
    let (more, unused) := fillFormat fuel rest arguments
    (Escape.encoded c ++ more, unused)

/-- Goes through a format again as long as it uses up arguments and some are left. -/
def fillFormats (format : Text) : (fuel : Nat) → List Text → Bytes
  | 0, _ => []
  | fuel + 1, arguments =>
    let (octets, unused) := fillFormat (format.length + 1) format arguments
    if unused.isEmpty || unused.length == arguments.length then octets
    else octets ++ fillFormats format fuel unused

/-- Prints arguments by a format. -/
def printf : Tool := fun s _ arguments =>
  match arguments with
  | [] => s.failWith 2 (s.name ++ ": 1: printf: usage: printf format [arg ...]\n")
  | format :: rest => s.say (fillFormats format (rest.length + 1) rest)

/-- The number that a text writes. -/
def number? (t : Text) : Option Nat :=
  if !t.isEmpty && t.all Code.isAsciiDigit then
    some (t.foldl (fun n c => n * 10 + (c.val - 48)) 0)
  else none

/-- Exit codes are octets. -/
def exit : Tool := fun s _ arguments =>
  match arguments with
  | [] => { s.succeed with ending := some s.status }
  | code :: _ =>
    match number? code with
    | some n => { s.succeed with ending := some (n % 256 : Nat) }
    | none =>
      let complaint := s.name ++ ": 1: exit: Illegal number: " ++ code ++ "\n"
      { s.failWith 2 complaint with ending := some 2 }

/-- The signals that can be sent by name. -/
def signals : List (Text × Nat) := [("HUP", 1), ("INT", 2), ("QUIT", 3), ("ILL", 4), ("TRAP", 5),
  ("ABRT", 6), ("BUS", 7), ("FPE", 8), ("KILL", 9), ("USR1", 10), ("SEGV", 11), ("USR2", 12),
  ("PIPE", 13), ("ALRM", 14), ("TERM", 15), ("CHLD", 17), ("CONT", 18), ("URG", 23),
  ("WINCH", 28)]

/-- Signals that do not end a process. -/
def harmless : List Nat := [0, 17, 18, 23, 28]

/-- The number of a signal, given by name or by number. -/
def signal? (t : Text) : Option Nat :=
  (number? t).or (signals.lookup ((Text.after? "SIG" t).getD t))

/-- Sends a signal to the shell itself; other processes are not there. -/
def kill : Tool := fun s _ arguments =>
  let (name, targets) : Text × List Text := match arguments with
    | (.char '-' :: .char 's' :: []) :: name :: rest => (name, rest)
    | (.char '-' :: name) :: rest => (name, rest)
    | rest => ("TERM", rest)
  match signal? name with
  | none => s.failWith 2 (s.name ++ ": 1: kill: invalid signal number or name: " ++ name ++ "\n")
  | some n =>
    if targets.contains processId then
      if harmless.contains n then s.succeed
      else { s.succeed with ending := some (-(n : Int)) }
    else s.failWith 1 (s.name ++ ": 1: kill: No such process\n")

/-- Copies files to its output, or its input if there are none. -/
def cat : Tool := fun s input arguments =>
  let names : List Text := if arguments.isEmpty then ["-"] else arguments
  names.foldl (fun reply (name : Text) =>
    if name == "-" then { reply with output := reply.output ++ input }
    else match (Disk.readFile (Path.ofText name)).run s.files with
      | (.ok content, _) => { reply with output := reply.output ++ content }
      | (.error (.refused why), _) => { reply with
          status := 1
          errors := reply.errors ++ "cat: " ++ name ++ ": " ++ why.message ++ "\n" }
      | (.error _, _) => { reply with status := 1 }) s.succeed

/-- The names in a directory, which are sorted; hidden ones are left out. -/
def namesIn (t : FileTree) (l : Location) : List Text :=
  Text.sorted ((t.below l).filterMap fun (names, _) =>
    match names with
    | [name] => if name.startsWith "." then none else some name
    | _ => none)

/-- Lists the names in the first argument, or in the working directory. -/
def ls : Tool := fun s _ arguments =>
  let name := arguments.headD "."
  let listed (names : List Text) : Bytes := names.flatMap fun n => bytesOf (n ++ "\n")
  match s.files.entry? (Path.ofText name) with
  | some (l, .directory) => s.say (listed (namesIn s.files l))
  | some _ => s.say (listed [name])
  | none =>
    s.failWith 2 ("ls: cannot access '" ++ name ++ "': " ++ Refusal.notFound.message ++ "\n")

/-- The text of a location. -/
def locationText (l : Location) : Text := "/" ++ Text.join "/" l

/-- Prints the working directory. -/
def pwd : Tool := fun s _ _ => s.say (bytesOf (locationText s.files.cwd ++ "\n"))

/-- Changes the working directory. -/
def cd : Tool := fun s _ arguments =>
  let name := arguments.headD []
  match s.files.entry? (Path.ofText name) with
  | some (l, .directory) => { s.succeed with files := { s.files with cwd := l } }
  | _ => s.failWith 2 (s.name ++ ": 1: cd: can't cd to " ++ name ++ "\n")

/-- The flags among the arguments, and the others. -/
def flagsOf (arguments : List Text) : List Text × List Text :=
  arguments.partition (·.startsWith "-")

/-- Makes directories, with their parents if asked to. -/
def mkdir : Tool := fun s _ arguments =>
  let (flags, names) := flagsOf arguments
  let make := if flags.contains "-p" then Disk.ensureDirectory else Disk.makeDirectory
  s.each (fun name => make (Path.ofText name))
    (fun name => "mkdir: cannot create directory '" ++ name ++ "'") names

/-- Makes an empty file where there is none. -/
def touchFile (p : Path) : Disk Unit := do
  match (← Disk.locate true p) with
  | .free l => Disk.put l (.file [])
  | .entry .. => pure ()

/-- Makes empty files where there are none. -/
def touch : Tool := fun s _ arguments =>
  s.each (fun name => touchFile (Path.ofText name))
    (fun name => "touch: cannot touch '" ++ name ++ "'") arguments

/-- Removes one entry, directories only if asked to. -/
def removeEntry (recursive force : Bool) (p : Path) : Disk Unit := do
  let t ← get
  match t.locate false p with
  | .ok (.entry _ .directory) => if recursive then Disk.removeTree p else Disk.refuse .isDirectory
  | .ok (.free _) => if force then pure () else Disk.refuse .notFound
  | _ => Disk.unlink p

/-- Removes entries. -/
def rm : Tool := fun s _ arguments =>
  let (flags, names) := flagsOf arguments
  let has (letter : Code) : Bool := flags.any (·.contains letter)
  s.each (fun name => removeEntry (has (.char 'r')) (has (.char 'f')) (Path.ofText name))
    (fun name => "rm: cannot remove '" ++ name ++ "'") names

/-- Decides a condition on files, texts or numbers. -/
def holds (t : FileTree) (arguments : List Text) : Bool :=
  let compare (a b : Text) (f : Nat → Nat → Bool) : Bool :=
    f ((number? a).getD 0) ((number? b).getD 0)
  match arguments with
  | [] => false
  | [a] => !a.isEmpty
  | [op, a] =>
    if op == "!" then a.isEmpty
    else if op == "-n" then !a.isEmpty
    else if op == "-z" then a.isEmpty
    else if op == "-f" then t.isFile (Path.ofText a)
    else if op == "-d" then t.isDirectory (Path.ofText a)
    else if op == "-e" then t.pathExists (Path.ofText a)
    else false
  | [a, op, b] =>
    if op == "=" then a == b
    else if op == "!=" then a != b
    else if op == "-eq" then compare a b (· == ·)
    else if op == "-ne" then compare a b (· != ·)
    else if op == "-lt" then compare a b (· < ·)
    else if op == "-le" then compare a b (· ≤ ·)
    else if op == "-gt" then compare a b (· > ·)
    else if op == "-ge" then compare a b (· ≥ ·)
    else false
  | _ => false

/-- Tests a condition. -/
def condition : Tool := fun s _ arguments =>
  let arguments := if arguments.getLast? == some "]" then arguments.dropLast else arguments
  let verdict := match arguments with
    | first :: rest => if first == "!" && rest.length > 1 then !holds s.files rest
        else holds s.files arguments
    | [] => false
  if verdict then s.succeed else s.failWith 1 []

/-- The commands that a script finds. -/
def all : List (Text × Tool) := [
  (":", fun s _ _ => s.succeed),
  ("true", fun s _ _ => s.succeed),
  ("false", fun s _ _ => s.failWith 1 []),
  ("echo", echo),
  ("printf", printf),
  ("exit", exit),
  ("kill", kill),
  ("cat", cat),
  ("ls", ls),
  ("pwd", pwd),
  ("cd", cd),
  ("mkdir", mkdir),
  ("touch", touch),
  ("rm", rm),
  ("test", condition),
  ("[", condition)]

end Tool

end HaxeBuild
