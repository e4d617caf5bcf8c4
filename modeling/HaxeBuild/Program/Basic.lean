import HaxeBuild.Value.Basic

namespace HaxeBuild

/-- What a program declares to the build. -/
inductive MetadataKind where
  | addLibraries
  | addAssets
  | addSubtarget
  | addSubtargetList
  | filesBeforeBuildTemplate
  | customBuildCommandLine
  deriving DecidableEq

namespace MetadataKind

/-- The name under which templates see a kind. -/
def name : MetadataKind → Text
  | addLibraries => "add_libraries"
  | addAssets => "add_assets"
  | addSubtarget => "add_subtarget"
  | addSubtargetList => "add_subtarget_list"
  | filesBeforeBuildTemplate => "files_before_build_template"
  | customBuildCommandLine => "custom_build_command_line"

/-- Every kind, in the order of the declarations. -/
def all : List MetadataKind := [addLibraries, addAssets, addSubtarget, addSubtargetList,
  filesBeforeBuildTemplate, customBuildCommandLine]

/-- The kind of a name. -/
def ofName? (name : Text) : Option MetadataKind := all.find? (·.name == name)

end MetadataKind

/-- The values declared for each kind, in the order in which the kinds were first declared. -/
abbrev Metadata := List (MetadataKind × List Value)

namespace Metadata

/-- What is declared under a kind, which may be nothing. -/
def values (m : Metadata) (kind : MetadataKind) : List Value := (m.lookup kind).getD []

/-- Declares further values of a kind. -/
def append (kind : MetadataKind) (vs : List Value) : Metadata → Metadata
  | [] => [(kind, vs)]
  | (k, old) :: rest => if k = kind then (k, old ++ vs) :: rest else (k, old) :: append kind vs rest

end Metadata

/-- A method of a class. -/
structure MethodNode where
  name : Text
  signature : Text
  isStatic : Bool
  metadata : Metadata

/-- A field of a class. -/
structure FieldNode where
  name : Text
  typeDescriptor : Text
  isStatic : Bool
  metadata : Metadata

/-- A class with its members. -/
structure ClassNode where
  name : Text
  methods : List MethodNode
  fields : List FieldNode
  metadata : Metadata

namespace Metadata

/-- Metadata as templates see it. -/
def toValue (m : Metadata) : Value := .dict (m.map fun (kind, vs) => (.text kind.name, .list vs))

end Metadata

/-- A method as templates see it. -/
def MethodNode.record (m : MethodNode) : Record := [
  ("name", .text m.name),
  ("signature", .text m.signature),
  ("is_static", .bool m.isStatic),
  ("metadata", m.metadata.toValue)]

/-- A field as templates see it. -/
def FieldNode.record (f : FieldNode) : Record := [
  ("name", .text f.name),
  ("type_descriptor", .text f.typeDescriptor),
  ("is_static", .bool f.isStatic),
  ("metadata", f.metadata.toValue)]

namespace ClassNode

/-- All overloads of a name in the order of their declaration. -/
def methodsByName (c : ClassNode) (name : Text) : List MethodNode :=
  c.methods.filter (·.name == name)

/-- The first method of a name and a signature. -/
def findMethod (c : ClassNode) (name signature : Text) : Option MethodNode :=
  c.methods.find? fun m => m.name == name && m.signature == signature

/-- The first field of a name. -/
def findField (c : ClassNode) (name : Text) : Option FieldNode := c.fields.find? (·.name == name)

/-- A class as templates see it. -/
def record (c : ClassNode) : Record := [
  ("name", .text c.name),
  ("methods", .list (c.methods.map (·.record.toValue))),
  ("fields", .list (c.fields.map (·.record.toValue))),
  ("metadata", c.metadata.toValue)]

/-- The metadata of the class, then of its methods, then of its fields. -/
def nodes (c : ClassNode) : List Metadata :=
  c.metadata :: (c.methods.map (·.metadata) ++ c.fields.map (·.metadata))

end ClassNode

/-- A program: its classes, its resources and the directory beside them. -/
structure Program where
  classes : List ClassNode
  resources : List (Text × Bytes)
  resourcesDir : Option Path

namespace Program

/-- The first class of a name. -/
def getClass (p : Program) (name : Text) : Option ClassNode := p.classes.find? (·.name == name)

/-- The values that the classes declare. -/
def metadata (p : Program) (kind : MetadataKind) : List Value :=
  p.classes.flatMap (·.metadata.values kind)

/-- The values that the classes and their members declare. -/
def allMetadata (p : Program) (kind : MetadataKind) : List Value :=
  p.classes.flatMap fun c => c.nodes.flatMap (·.values kind)

/-- Declares further values on a class. -/
def declare (p : Program) (index : Nat) (kind : MetadataKind) (vs : List Value) : Program :=
  { p with classes := p.classes.modify index fun c =>
    { c with metadata := c.metadata.append kind vs } }

end Program

end HaxeBuild
