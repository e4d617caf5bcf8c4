import HaxeBuild.Library.Reference
import HaxeBuild.Path
import HaxeBuild.Subtarget.Basic
import HaxeBuild.Text.Utf8

namespace HaxeBuild

/-- The functions that every template can call. -/
inductive Builtin where
  | range
  | mapping
  | iterate
  | defaultCommand
  deriving DecidableEq

inductive View where
  | keys
  | values
  | items
  deriving DecidableEq

/-- What a loop body can learn about the loop around it. -/
structure LoopState where
  index0 : Nat
  length : Nat
  deriving DecidableEq

inductive Orientation where
  | auto
  | portrait
  | landscape
  deriving DecidableEq

namespace Orientation

def name : Orientation → Text
  | auto => "auto"
  | portrait => "portrait"
  | landscape => "landscape"

def all : List Orientation := [auto, portrait, landscape]

end Orientation

/-- The values that metadata and template parameters hold. A shared list or dictionary is an object
that templates can change: it has a number, and stands here with what it held when it was last
looked at. -/
inductive Value where
  | none
  | bool (b : Bool)
  | int (n : Int)
  | float (x : Float)
  | text (t : Text)
  | bytes (octets : Bytes)
  | list (items : List Value)
  | tuple (items : List Value)
  | dict (entries : List (Value × Value))
  | sharedList (id : Nat) (items : List Value)
  | sharedDict (id : Nat) (entries : List (Value × Value))
  | names (members : List Text)
  | path (p : Path)
  | library (l : LibraryReference)
  | subtarget (s : Subtarget)
  | flag (f : CompilerFlag)
  | orientation (o : Orientation)
  | settings (fields : List (Text × Value))
  | range (start stop step : Int)
  | view (kind : View) (owner : Value)
  | method (name : Text) (owner : Value)
  | constant (identity : Nat) (result : Value)
  | builtin (function : Builtin)
  | absent (why : Text)
  | loop (state : LoopState)

namespace Value

/-- The members of a range, counted from `start`. -/
def rangeLength (start stop step : Int) : Nat :=
  if step > 0 then ((stop - start + step - 1) / step).toNat
  else if step < 0 then ((start - stop - step - 1) / (-step)).toNat
  else 0

def rangeItems (start stop step : Int) : List Value :=
  (List.range (rangeLength start stop step)).map fun (i : Nat) => .int (start + step * i)

/-- An orientation is read as its name wherever text is wanted. -/
def text? : Value → Option Text
  | .text t => some t
  | .orientation o => some o.name
  | _ => Option.none

/-- A flag is read as the pair of its two texts wherever a tuple is wanted. -/
def tuple? : Value → Option (List Value)
  | .tuple items => some items
  | .flag f => some [.text f.name, .text f.value]
  | _ => Option.none

/-- The members of a list. -/
def list? : Value → Option (List Value)
  | .list items => some items
  | .sharedList _ items => some items
  | _ => Option.none

/-- The entries of a dictionary. -/
def entries? : Value → Option (List (Value × Value))
  | .dict entries => some entries
  | .sharedDict _ entries => some entries
  | _ => Option.none

/-- Lists and tuples are taken apart where several values may stand for one. -/
def flattened (v : Value) : List Value := (v.list?.or v.tuple?).getD [v]

/-- The values of a list of declarations, each list or tuple taken apart once. -/
def flattenAll (vs : List Value) : List Value := vs.flatMap flattened

def ofOption {α : Type} (wrap : α → Value) : Option α → Value
  | some a => wrap a
  | Option.none => .none

end Value

/-- Fields in the order of their declaration. -/
abbrev Record := List (Text × Value)

namespace Record

def toValue (r : Record) : Value := .dict (r.map fun (name, v) => (.text name, v))

end Record

def LibraryReference.record (l : LibraryReference) : Record :=
  [("name", .text l.name), ("version", .ofOption .text l.version)]

def Subtarget.record (s : Subtarget) : Record := [
  ("name", .text s.name),
  ("aliases", .names s.aliases),
  ("command_switch", .text s.commandSwitch),
  ("interpreter", .text s.interpreter),
  ("interpreter_suffix", .text s.interpreterSuffix)]

namespace Value

/-- The fields of a value that has named ones. -/
def record? : Value → Option Record
  | .library l => some l.record
  | .subtarget s => some s.record
  | .settings fields => some fields
  | _ => Option.none

/-- What a view shows of the entries of its dictionary. -/
def viewed (kind : View) (entries : List (Value × Value)) : List Value :=
  match kind with
  | .keys => entries.map Prod.fst
  | .values => entries.map Prod.snd
  | .items => entries.map fun (k, v) => .tuple [k, v]

/-- The members that a loop over the value visits; `none` if it cannot be looped over. -/
def items? : Value → Option (List Value)
  | .names members => some (members.map .text)
  | .bytes octets => some (octets.map fun octet => .int octet.toNat)
  | .range start stop step => some (rangeItems start stop step)
  | .view kind owner => owner.entries?.map (viewed kind)
  | .absent _ => some []
  | v =>
    match v.list?, v.entries?, v.text?, v.tuple?, v.record? with
    | some items, _, _, _, _ => some items
    | _, some entries, _, _, _ => some (viewed .keys entries)
    | _, _, some t, _, _ => some (t.map fun c => .text [c])
    | _, _, _, some items, _ => some items
    | _, _, _, _, some fields => some (fields.map fun (name, value) => .tuple [.text name, value])
    | _, _, _, _, _ => Option.none

/-- `none` if the value has no length. -/
def length? : Value → Option Nat
  | .loop state => some state.length
  | .range start stop step => some (rangeLength start stop step)
  | .absent _ => some 0
  | v => if v.record?.isSome then Option.none else v.items?.map List.length

/-- Values without a length are true, numbers unless they are zero. -/
def truthy : Value → Bool
  | .none => false
  | .bool b => b
  | .int n => n != 0
  | .float x => x != 0
  | v => v.length? != some 0

def absent? : Value → Option Text
  | .absent why => some why
  | _ => Option.none

def isAbsent (v : Value) : Bool := v.absent?.isSome

/-- The name of the value's type, as messages show it. -/
def typeName : Value → Text
  | .none => "NoneType"
  | .bool _ => "bool"
  | .int _ => "int"
  | .float _ => "float"
  | .text _ => "str"
  | .bytes _ => "bytes"
  | .list _ => "list"
  | .tuple _ => "tuple"
  | .dict _ => "dict"
  | .sharedList _ _ => "list"
  | .sharedDict _ _ => "dict"
  | .names _ => "frozenset"
  | .path _ => "PosixPath"
  | .library _ => "LibraryReference"
  | .subtarget _ => "SubtargetDescriptor"
  | .flag _ => "CompilerFlag"
  | .orientation _ => "Orientation"
  | .settings _ => "BuildSettings"
  | .range .. => "range"
  | .view .keys _ => "dict_keys"
  | .view .values _ => "dict_values"
  | .view .items _ => "dict_items"
  | .method _ (.subtarget _) => "method"
  | .method .. => "builtin_function_or_method"
  | .constant .. => "function"
  | .builtin .range => "type"
  | .builtin .mapping => "type"
  | .builtin .iterate => "function"
  | .builtin .defaultCommand => "method"
  | .absent _ => "ChainableUndefined"
  | .loop _ => "LoopContext"

/-- Whether the value can be a key: nothing that may still grow inside it. -/
def hashable : Value → Bool
  | .list _ => false
  | .dict _ => false
  | .sharedList _ _ => false
  | .sharedDict _ _ => false
  | .settings _ => false
  | .view .values _ => true
  | .view _ _ => false
  | .tuple items => hashableAll items
  | _ => true
where
  hashableAll : List Value → Bool
    | [] => true
    | v :: vs => hashable v && hashableAll vs

end Value

end HaxeBuild
