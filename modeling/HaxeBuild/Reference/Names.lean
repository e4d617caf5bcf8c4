import HaxeBuild.Program.Basic

namespace HaxeBuild

namespace Code

/-- Letters, digits and the underscore of ASCII. -/
def isMemberSafe (c : Code) : Bool := c.isAsciiLetter || c.isAsciiDigit || c == .char '_'

def isClassSafe (c : Code) : Bool := c.isMemberSafe || c == .char '.'

end Code

/-- A method is told apart by its class, its name and its signature. -/
structure MethodKey where
  owner : Text
  name : Text
  signature : Text
  deriving DecidableEq

structure FieldKey where
  owner : Text
  name : Text
  deriving DecidableEq

/-- The members that have compact names, in the order in which these were given out. -/
structure TargetNames where
  methods : List (MethodKey × Text)
  fields : List (FieldKey × Text)

namespace TargetNames

def methodKey (c : ClassNode) (m : MethodNode) : MethodKey := ⟨c.name, m.name, m.signature⟩

def fieldKey (c : ClassNode) (f : FieldNode) : FieldKey := ⟨c.name, f.name⟩

/-- Names a member by the letter and the number of members named before it, unless it has a name. -/
def nameMember {κ : Type} [BEq κ] (letter : Text) (named : List (κ × Text)) (key : κ) :
    List (κ × Text) :=
  match named.lookup key with
  | some _ => named
  | none => named ++ [(key, letter ++ Text.ofNat named.length)]

def nameClass (names : TargetNames) (c : ClassNode) : TargetNames where
  methods := (c.methods.map (methodKey c)).foldl (nameMember "m") names.methods
  fields := (c.fields.map (fieldKey c)).foldl (nameMember "f") names.fields

/-- Compact names are given out in program order. -/
def ofProgram (p : Program) (minimize : Bool) : TargetNames :=
  if minimize then p.classes.foldl nameClass ⟨[], []⟩ else ⟨[], []⟩

def escaped (isSafe : Code → Bool) (t : Text) : Text :=
  t.map fun c => if isSafe c then c else .char '_'

def className (name : Text) : Text := escaped Code.isClassSafe name

def staticInit (c : ClassNode) : Text := className c.name ++ ".SI()"

def methodName (names : TargetNames) (c : ClassNode) (m : MethodNode) : Text :=
  match names.methods.lookup (methodKey c m) with
  | some name => name
  | none => escaped Code.isMemberSafe m.name ++ "_" ++ escaped Code.isMemberSafe m.signature

def fieldName (names : TargetNames) (c : ClassNode) (f : FieldNode) : Text :=
  match names.fields.lookup (fieldKey c f) with
  | some name => name
  | none => "_" ++ escaped Code.isMemberSafe f.name

variable {names : TargetNames} {c c' : ClassNode}

/-- Methods that are told apart by nothing have one name. -/
theorem methodName_congr {m m' : MethodNode} (owner : c.name = c'.name) (named : m.name = m'.name)
    (signed : m.signature = m'.signature) : names.methodName c m = names.methodName c' m' := by
  rw [methodName, methodName, methodKey, methodKey, owner, named, signed]

theorem fieldName_congr {f f' : FieldNode} (owner : c.name = c'.name) (named : f.name = f'.name) :
    names.fieldName c f = names.fieldName c' f' := by
  rw [fieldName, fieldName, fieldKey, fieldKey, owner, named]

end TargetNames

end HaxeBuild
