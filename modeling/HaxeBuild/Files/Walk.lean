import HaxeBuild.Fault
import HaxeBuild.Files.Tree

namespace HaxeBuild

/-- Where a path leads: to an entry, or to a name that is free in an existing directory. -/
inductive Spot where
  | entry (l : Location) (e : Entry)
  | free (l : Location)

namespace FileTree

/-- The steps of a link's target. -/
def targetSteps (target : Text) : List Text :=
  (Text.splitOn (.char '/') target).filter (!Path.isIdle ·)

/-- Where a link's target starts: at the root, or in the directory of the link. -/
def targetStart (directory : Location) (target : Text) : Location :=
  if target.startsWith "/" then [] else directory

def isTooLong (name : Text) : Bool :=
  (name.flatMap fun c => (c.nameOctets?).getD []).length > 255

/-- Follows steps from a directory. What happens at a link is given. -/
def walkWith (t : FileTree) (followLast : Bool)
    (onLink : (start : Location) → (steps : List Text) → Except Refusal Spot) :
    (directory : Location) → (steps : List Text) → Except Refusal Spot
  | here, [] => .ok (.entry here .directory)
  | here, name :: rest =>
    if name == ".." then walkWith t followLast onLink here.dropLast rest
    else if isTooLong name then .error .nameTooLong
    else
      match t.get? (here ++ [name]) with
      | none => if rest.isEmpty then .ok (.free (here ++ [name])) else .error .notFound
      | some .directory => walkWith t followLast onLink (here ++ [name]) rest
      | some (.file content) =>
        if rest.isEmpty then .ok (.entry (here ++ [name]) (.file content))
        else .error .notDirectory
      | some (.link target) =>
        if rest.isEmpty && !followLast then .ok (.entry (here ++ [name]) (.link target))
        else onLink (targetStart here target) (targetSteps target ++ rest)

/-- Follows steps through at most `links` links. -/
def walk (t : FileTree) (followLast : Bool) : (links : Nat) → Location → List Text →
    Except Refusal Spot
  | 0 => walkWith t followLast fun _ _ => .error .tooManyLinks
  | links + 1 => walkWith t followLast (walk t followLast links)

/-- The operating system follows this many links. -/
def maxLinks : Nat := 40

def startOf (t : FileTree) (p : Path) : Location := if p.isAbsolute then [] else t.cwd

/-- A path that the operating system can be asked about. -/
def askable (p : Path) : Except Fault Unit :=
  if p.parts.any fun part => part.any fun c => c.nameOctets?.isNone then .error .unencodable
  else if p.parts.any (·.contains (.char '\x00')) then .error .badValue
  else .ok ()

/-- A path whose parts the operating system can be asked about, one after the other. -/
def askableInTurn (p : Path) : Except Fault Unit :=
  p.parts.forM fun part => askable ⟨p.slashes, [part]⟩

def locate (t : FileTree) (followLast : Bool) (p : Path) : Except Fault Spot := do
  askable p
  match walk t followLast maxLinks (t.startOf p) p.parts with
  | .ok spot => return spot
  | .error why => throw (.refused why)

/-- What stands at the end of a path, behind links. A path that leads nowhere has nothing at its
end, except that a name may be too long to be looked for. -/
def probe (t : FileTree) (p : Path) : Except Fault (Option (Location × Entry)) :=
  match t.locate true p with
  | .ok (.entry l e) => .ok (some (l, e))
  | .error (.refused .nameTooLong) => .error (.refused .nameTooLong)
  | _ => .ok none

/-- The entry at the end of a path, behind links; `none` if there is none. -/
def entry? (t : FileTree) (p : Path) : Option (Location × Entry) :=
  match t.probe p with
  | .ok found => found
  | .error _ => none

def pathExists (t : FileTree) (p : Path) : Bool := (t.entry? p).isSome

def isDirectory (t : FileTree) (p : Path) : Bool :=
  match t.entry? p with
  | some (_, .directory) => true
  | _ => false

/-- The content of the file at the end of a path; `none` if there is no file. -/
def content? (t : FileTree) (p : Path) : Option Bytes :=
  match t.entry? p with
  | some (_, .file content) => some content
  | _ => none

def isFile (t : FileTree) (p : Path) : Bool := (t.content? p).isSome

/-- Follows steps without a look at the tree. -/
def onPaper (here : Location) : (steps : List Text) → Location
  | [] => here
  | name :: rest => onPaper (if name == ".." then here.dropLast else here ++ [name]) rest

/-- Follows steps through links only. A name that is missing or no link is just added. Behind a link
that cannot be resolved the rest is followed on paper, and this is reported as an error. -/
def realWith (t : FileTree)
    (onLink : (link directory : Location) → Text → Except Location Location) :
    Location → List Text → Except Location Location
  | here, [] => .ok here
  | here, name :: rest =>
    if name == ".." then realWith t onLink here.dropLast rest
    else
      match t.get? (here ++ [name]) with
      | some (.link target) =>
        match onLink (here ++ [name]) here target with
        | .ok there => realWith t onLink there rest
        | .error stuck => .error (onPaper stuck rest)
      | _ => realWith t onLink (here ++ [name]) rest

/-- A link that is met while it is being resolved leads nowhere. -/
def real (t : FileTree) : (depth : Nat) → (active : List Location) → Location → List Text →
    Except Location Location
  | 0, _ => realWith t fun link _ _ => .error link
  | depth + 1, active =>
    realWith t fun link directory target =>
      if active.contains link then .error link
      else
        real t depth (link :: active) (targetStart directory target) (targetSteps target)

/-- The location that a path stands for, with links resolved as far as they exist. A location that
still leads into a loop of links is refused. -/
def resolve (t : FileTree) (p : Path) : Except Fault Location := do
  askableInTurn p
  match real t (t.entries.length + 1) [] (t.startOf p) p.parts with
  | .ok l => return l
  | .error l =>
    match walk t true maxLinks [] l with
    | .error .tooManyLinks => throw .unresolvableLink
    | _ => return l

end FileTree

end HaxeBuild
