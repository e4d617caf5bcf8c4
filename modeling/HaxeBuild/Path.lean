import HaxeBuild.Text.Basic

namespace HaxeBuild

/-- A path has no root, the root `/`, or the distinct root `//`, and parts that are neither empty
nor a single dot. -/
structure Path where
  slashes : Fin 3
  parts : List Text
  deriving DecidableEq

namespace Path

/-- Parts that say nothing about the place. -/
def isIdle (part : Text) : Bool := part == [] || part == "."

def ofText (t : Text) : Path :=
  let leading := (t.takeWhile (· == .char '/')).length
  let slashes : Fin 3 := if leading == 0 then 0 else if leading == 2 then 2 else 1
  ⟨slashes, (Text.splitOn (.char '/') t).filter (!isIdle ·)⟩

def toText (p : Path) : Text :=
  let rooted : Text := List.replicate p.slashes.val (.char '/') ++ Text.join "/" p.parts
  if rooted.isEmpty then "." else rooted

def isAbsolute (p : Path) : Bool := p.slashes != 0

/-- A path with a root replaces the one it is joined to. -/
def append (p q : Path) : Path :=
  if q.isAbsolute then q else ⟨p.slashes, p.parts ++ q.parts⟩

instance : Append Path := ⟨append⟩

def child (p : Path) (name : Text) : Path := ⟨p.slashes, p.parts ++ [name]⟩

/-- A root is its own parent. -/
def parent (p : Path) : Path := ⟨p.slashes, p.parts.dropLast⟩

def name (p : Path) : Text := p.parts.getLastD []

/-- The path seen from a working directory. -/
def absolute (directory p : Path) : Path := directory ++ p

/-- Paths are ordered part by part. -/
def partsBefore : List Text → List Text → Bool
  | _, [] => false
  | [], _ :: _ => true
  | a :: as, b :: bs => Text.before a b || (a == b && partsBefore as bs)

@[simp] theorem parent_child (p : Path) (name : Text) : (p.child name).parent = p := by
  simp [child, parent]

@[simp] theorem name_child (p : Path) (name : Text) : (p.child name).name = name := by
  simp [child, Path.name]

end Path

end HaxeBuild
