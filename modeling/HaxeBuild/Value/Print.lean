import HaxeBuild.Number.Decimal
import HaxeBuild.Text.Literal
import HaxeBuild.Value.Basic

namespace HaxeBuild

def Orientation.memberName : Orientation → Text
  | .auto => "AUTO"
  | .portrait => "PORTRAIT"
  | .landscape => "LANDSCAPE"

namespace Value

def shownBool (b : Bool) : Text := if b then "True" else "False"

def shownPath (p : Path) : Text := "PosixPath(" ++ Text.shown p.toText ++ ")"

def shownOrientation (o : Orientation) : Text :=
  "<Orientation." ++ o.memberName ++ ": " ++ Text.shown o.name ++ ">"

def shownNames (members : List Text) : Text :=
  if members.isEmpty then "frozenset()"
  else "frozenset(\x7b" ++ Text.join ", " (members.map Text.shown) ++ "\x7d)"

/-- A value that holds no others. -/
def shownLeaf : Value → Text
  | .none => "None"
  | .bool b => shownBool b
  | .int n => Text.ofInt n
  | .float x => Decimal.ofFloat x
  | .text t => Text.shown t
  | .bytes octets => Text.shownBytes octets
  | .names members => shownNames members
  | .path p => shownPath p
  | .orientation o => shownOrientation o
  | .flag f => "CompilerFlag(name=" ++ Text.shown f.name ++ ", value=" ++ Text.shown f.value ++ ")"
  | .range start stop step =>
    let bounds := [start, stop] ++ (if step == 1 then [] else [step])
    "range(" ++ Text.join ", " (bounds.map Text.ofInt) ++ ")"
  | .builtin .range => "<class 'range'>"
  | .builtin .mapping => "<class 'dict'>"
  | .absent _ => "Undefined"
  | .loop state =>
    "<LoopContext " ++ Text.ofNat (state.index0 + 1) ++ "/" ++ Text.ofNat state.length ++ ">"
  | v => "<" ++ v.typeName ++ ">"

/-- The fields of a model that hold no other values. -/
def shownRecord (separator : Text) (fields : Record) : Text :=
  Text.join separator (fields.map fun (name, v) => name ++ "=" ++ shownLeaf v)

def shownView (kind : View) (parts : List Text) : Text :=
  (match kind with
    | .keys => "dict_keys(["
    | .values => "dict_values(["
    | .items => "dict_items([") ++ Text.join ", " parts ++ "])"

mutual

/-- The value as it appears inside another one. -/
def shown : Value → Text
  | .list items => "[" ++ Text.join ", " (shownItems items) ++ "]"
  | .sharedList _ items => "[" ++ Text.join ", " (shownItems items) ++ "]"
  | .tuple [item] => "(" ++ shown item ++ ",)"
  | .tuple items => "(" ++ Text.join ", " (shownItems items) ++ ")"
  | .dict entries => "\x7b" ++ Text.join ", " (shownEntries entries) ++ "\x7d"
  | .sharedDict _ entries => "\x7b" ++ Text.join ", " (shownEntries entries) ++ "\x7d"
  | .view kind (.dict entries) => shownView kind (shownParts kind entries)
  | .view kind (.sharedDict _ entries) => shownView kind (shownParts kind entries)
  | .library l => "LibraryReference(" ++ shownRecord ", " l.record ++ ")"
  | .subtarget s => "SubtargetDescriptor(" ++ shownRecord ", " s.record ++ ")"
  | .settings fields => "BuildSettings(" ++ Text.join ", " (shownFields fields) ++ ")"
  | v => shownLeaf v
termination_by structural v => v

def shownItems : List Value → List Text
  | [] => []
  | v :: vs => shown v :: shownItems vs

def shownEntries : List (Value × Value) → List Text
  | [] => []
  | (k, v) :: rest => (shown k ++ ": " ++ shown v) :: shownEntries rest

/-- What a view shows of each entry. -/
def shownParts (kind : View) : List (Value × Value) → List Text
  | [] => []
  | (k, v) :: rest =>
    (match kind with
      | .keys => shown k
      | .values => shown v
      | .items => "(" ++ shown k ++ ", " ++ shown v ++ ")") :: shownParts kind rest

def shownFields : Record → List Text
  | [] => []
  | (name, v) :: rest => (name ++ "=" ++ shown v) :: shownFields rest

end

/-- The value as it is printed on its own. -/
def print : Value → Text
  | .text t => t
  | .path p => p.toText
  | .orientation o => "Orientation." ++ o.memberName
  | .library l => l.canonical
  | .subtarget s => shownRecord " " s.record
  | .settings fields => Text.join " " (shownFields fields)
  | .absent _ => []
  | v => shown v

/-- The value as a build script expects it: nothing for no value, truth values in lower case, an
orientation by its name. -/
def toText : Value → Text
  | .none => []
  | .bool true => "true"
  | .bool false => "false"
  | .orientation o => o.name
  | v => v.print

@[simp] theorem toText_text (t : Text) : toText (.text t) = t := rfl

end Value

end HaxeBuild
