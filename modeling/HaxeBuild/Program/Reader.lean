import HaxeBuild.Program.Basic
import HaxeBuild.Value.Reader

namespace HaxeBuild

open Value

namespace Metadata

def readKind (key : Value) : Checked MetadataKind :=
  match key.text?.bind MetadataKind.ofName? with
  | some kind => .valid kind
  | Option.none => .flawed .notMember

/-- A bad kind is reported under its own name. -/
def readEntry (entry : Value × Value) : Checked (MetadataKind × List Value) :=
  let name := entry.1.text?.getD []
  (Prod.mk <$> (readKind entry.1).within (.field "[key]") <*> readList Checked.valid entry.2).within
    (.field name)

def readEntries : List (Value × Value) → Checked Metadata
  | [] => .valid []
  | entry :: rest => Checked.apply ((readEntry entry).map List.cons) (readEntries rest)

def ofValue : Value → Checked Metadata
  | .dict entries => readEntries entries
  | _ => .flawed .notMapping

end Metadata

namespace MethodNode

def ofValue (v : Value) : Checked MethodNode :=
  v.readModel fun entries =>
    mk <$> readField entries "name" Option.none readText
      <*> readField entries "signature" Option.none readText
      <*> readField entries "is_static" (some false) readBoolean
      <*> readField entries "metadata" (some []) Metadata.ofValue

end MethodNode

namespace FieldNode

def ofValue (v : Value) : Checked FieldNode :=
  v.readModel fun entries =>
    mk <$> readField entries "name" Option.none readText
      <*> readField entries "type_descriptor" (some "Ljava/lang/Object;") readText
      <*> readField entries "is_static" (some false) readBoolean
      <*> readField entries "metadata" (some []) Metadata.ofValue

end FieldNode

namespace ClassNode

def ofValue (v : Value) : Checked ClassNode :=
  v.readModel fun entries =>
    mk <$> readField entries "name" Option.none readText
      <*> readField entries "methods" (some []) (readList MethodNode.ofValue)
      <*> readField entries "fields" (some []) (readList FieldNode.ofValue)
      <*> readField entries "metadata" (some []) Metadata.ofValue

end ClassNode

namespace Program

/-- Resources hold bytes; a text stands for its encoding. -/
def readResource (entry : Value × Value) : Checked (Text × Bytes) :=
  let name := entry.1.text?.getD []
  (Prod.mk name <$> readBytes entry.2).within (.field name)
where
  readBytes : Value → Checked Bytes
    | .bytes octets => .valid octets
    | .text t =>
      match Text.utf8? t with
      | some octets => .valid octets
      | Option.none => .flawed .notUnicode
    | _ => .flawed .notBytes

def readResources : Value → Checked (List (Text × Bytes))
  | .dict entries => read entries
  | _ => .flawed .notMapping
where
  read : List (Value × Value) → Checked (List (Text × Bytes))
    | [] => .valid []
    | entry :: rest => Checked.apply ((readResource entry).map List.cons) (read rest)

def ofValue (v : Value) : Checked Program :=
  v.readModel fun entries =>
    mk <$> readField entries "classes" (some []) (readList ClassNode.ofValue)
      <*> readField entries "resources" (some []) readResources
      <*> readField entries "resources_dir" (some Option.none) readPathOrNone

end Program

end HaxeBuild
