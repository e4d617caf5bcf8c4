import HaxeBuild.Files.Walk

namespace HaxeBuild

abbrev Disk := ExceptT Fault (StateM FileTree)

namespace Disk

def refuse {α : Type} (why : Refusal) : Disk α := throw (.refused why)

def locate (followLast : Bool) (p : Path) : Disk Spot := do
  (((← get).locate followLast p : Except Fault Spot) : Disk Spot)

def probe (p : Path) : Disk (Option (Location × Entry)) := do
  (((← get).probe p : Except Fault (Option (Location × Entry))) : Disk _)

def put (l : Location) (e : Entry) : Disk Unit := modify (·.set l e)

/-- Makes a directory in one that exists. -/
def makeDirectory (p : Path) : Disk Unit := do
  match (← locate false p) with
  | .free l => put l .directory
  | .entry .. => refuse .alreadyExists

/-- A directory that is already there is as good as a new one. -/
def acceptDirectory (p : Path) (f : Fault) : Disk Unit := do
  match f with
  | .refused _ =>
    match (← probe p) with
    | some (_, .directory) => return
    | _ => throw f
  | _ => throw f

/-- Makes a directory and, where these are missing, at most `depth` directories above it. -/
def makeDirectories : (depth : Nat) → Path → Disk Unit
  | 0, p => makeDirectory p
  | depth + 1, p => do
    try makeDirectory p
    catch
      | .refused .notFound =>
        if p.parent = p then refuse .notFound
        else
          makeDirectories depth p.parent
          try makeDirectory p
          catch
            | .refused .notFound => refuse .notFound
            | f => acceptDirectory p f
      | f => acceptDirectory p f

/-- Makes a directory with all directories above it. -/
def ensureDirectory (p : Path) : Disk Unit := makeDirectories (p.parts.length + 1) p

/-- Opens a file for writing: it is empty from then on. -/
def openFile (p : Path) : Disk Location := do
  match (← locate true p) with
  | .free l =>
    put l (.file [])
    return l
  | .entry l (.file _) =>
    put l (.file [])
    return l
  | .entry _ _ => refuse .isDirectory

def writeFile (p : Path) (content : Bytes) : Disk Unit := do
  put (← openFile p) (.file content)

/-- Writes text as UTF-8. A text that has no encoding leaves an empty file behind. -/
def writeText (p : Path) (t : Text) : Disk Unit := do
  let l ← openFile p
  match Text.utf8? t with
  | some content => put l (.file content)
  | none => throw .unencodable

def readFile (p : Path) : Disk Bytes := do
  match (← locate true p) with
  | .entry _ (.file content) => return content
  | .entry _ _ => refuse .isDirectory
  | .free _ => refuse .notFound

/-- Copies a file; into a directory, if one is there already, it goes under its own name. -/
def copyFile (source destination : Path) : Disk Unit := do
  let t ← get
  let destination :=
    if t.isDirectory destination then destination.child source.name else destination
  match t.entry? source, t.entry? destination with
  | some (l, _), some (l', _) => if l == l' then throw .sameFile
  | _, _ => pure ()
  writeFile destination (← readFile source)

def makeLink (p : Path) (target : Text) : Disk Unit := do
  match (← locate false p) with
  | .free l => put l (.link target)
  | .entry .. => refuse .alreadyExists

/-- Removes an entry that is no directory; a link is removed itself. -/
def unlink (p : Path) : Disk Unit := do
  match (← locate false p) with
  | .entry _ .directory => refuse .isDirectory
  | .entry l _ => modify (·.erase l)
  | .free _ => refuse .notFound

/-- Removes a directory with everything in it, but not one behind a link. The root directory cannot
be removed itself. -/
def removeTree (p : Path) : Disk Unit := do
  match (← locate false p) with
  | .entry l .directory =>
    modify (·.eraseBelow l)
    if l.isEmpty then refuse .busy
  | .entry _ (.link _) => refuse .isLink
  | .entry _ _ => refuse .notDirectory
  | .free _ => refuse .notFound

/-- Removes whatever file or directory is at the end of a path; a link that leads nowhere stays. -/
def remove (p : Path) : Disk Unit := do
  match (← probe p) with
  | some (_, .directory) => removeTree p
  | some _ => unlink p
  | none => return

/-- Puts an entry at a path and makes the directories above it. -/
def plant (p : Path) : Entry → Disk Unit
  | .directory => ensureDirectory p
  | .file content => do
    ensureDirectory p.parent
    writeFile p content
  | .link target => do
    ensureDirectory p.parent
    makeLink p target

def plantAll : List (Path × Entry) → Disk Unit
  | [] => return
  | (p, e) :: rest => do
    plant p e
    plantAll rest

/-- The files below a directory, ordered by path. Links to directories are not entered. -/
def filesBelow (t : FileTree) (directory : Path) : List Path :=
  match t.entry? directory with
  | some (l, .directory) =>
    let parts := (t.below l).map Prod.fst
    let ordered := parts.mergeSort fun a b => !Path.partsBefore b a
    (ordered.map fun names => Path.mk directory.slashes (directory.parts ++ names)).filter t.isFile
  | _ => []

end Disk

end HaxeBuild
