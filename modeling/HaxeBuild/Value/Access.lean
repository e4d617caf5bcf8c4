import HaxeBuild.Value.Method

namespace HaxeBuild.Value

/-- How messages speak of a value that lacks something. -/
def description (v : Value) : Text :=
  match v with
  | .none => "None"
  | .library _ => "src.models.build.LibraryReference object"
  | .subtarget _ => "src.models.build.SubtargetDescriptor object"
  | .flag _ => "src.models.build.CompilerFlag object"
  | .settings _ => "src.models.settings.BuildSettings object"
  | .orientation _ => "src.models.settings.Orientation object"
  | .path _ => "pathlib.PosixPath object"
  | .loop _ => "jinja2.runtime.LoopContext object"
  | v => v.typeName ++ " object"

def lacksAttribute (v : Value) (name : Text) : Value :=
  .absent (Text.shown v.description ++ " has no attribute " ++ Text.shown name)

def lacksItem (v key : Value) : Value :=
  match key.text? with
  | some name => lacksAttribute v name
  | Option.none => .absent (v.description ++ " has no element " ++ key.shown)

/-- The last part of a name after a dot inside it, with the dot. -/
def suffixOf (name : Text) : Text :=
  let back := name.reverse
  let ending := back.takeWhile (· != .char '.')
  if ending.isEmpty || ending.length + 1 ≥ name.length then [] else .char '.' :: ending.reverse

def loopAttribute? (state : LoopState) (name : Text) : Option Value :=
  let index0 := state.index0
  ([("index", .int (index0 + 1 : Nat)), ("index0", .int index0), ("first", .bool (index0 == 0)),
    ("last", .bool (index0 + 1 == state.length)), ("length", .int state.length),
    ("revindex", .int (state.length - index0 : Nat)),
    ("revindex0", .int (state.length - index0 - 1 : Nat)),
    ("depth", .int 1), ("depth0", .int 0)] : Record).lookup name

def pathAttribute? (p : Path) (name : Text) : Option Value :=
  let suffix := suffixOf p.name
  let root : List Text := if p.isAbsolute then [List.replicate p.slashes.val (.char '/')] else []
  ([("name", .text p.name), ("parent", .path p.parent), ("suffix", .text suffix),
    ("stem", .text (p.name.take (p.name.length - suffix.length))),
    ("parts", .tuple ((root ++ p.parts).map .text))] : Record).lookup name

/-- The fields that values have of their own. -/
def field? (v : Value) (name : Text) : Option Value :=
  match v with
  | .library l =>
    let derived : Record := [("canonical", .text l.canonical), ("haxe_spec", .text l.haxeSpec)]
    (l.record ++ derived).lookup name
  | .subtarget s => s.record.lookup name
  | .settings fields => fields.lookup name
  | .flag f => ([("name", .text f.name), ("value", .text f.value)] : Record).lookup name
  | .orientation o => ([("value", .text o.name), ("name", .text o.memberName)] : Record).lookup name
  | .path p => pathAttribute? p name
  | .range start stop step =>
    ([("start", .int start), ("stop", .int stop), ("step", .int step)] : Record).lookup name
  | .loop state => loopAttribute? state name
  | _ => Option.none

/-- A field, or else the method of that name. -/
def attribute? (v : Value) (name : Text) : Option Value :=
  match v.field? name with
  | some found => some found
  | Option.none => if v.hasMethod name then some (.method name v) else Option.none

/-- The item under a key or at an index. -/
def item? (v key : Value) : Option Value :=
  match v.entries?, key.integer? with
  | some entries, _ => if key.hashable then lookup? key entries else Option.none
  | _, Option.none => Option.none
  | _, some n =>
    match v.text?, v.list?.or v.tuple?, v with
    | some t, _, _ => (nth? t n).map fun c => .text [c]
    | _, some items, _ => nth? items n
    | _, _, .bytes octets => (nth? octets n).map fun octet => .int octet.toNat
    | _, _, .range start stop step => nth? (rangeItems start stop step) n
    | _, _, _ => Option.none

/-- An attribute, or else the item of that name. Anything of an absent value is absent as well. -/
def member (v : Value) (name : Text) : Value :=
  if v.isAbsent then v
  else
    match v.attribute? name with
    | some found => found
    | Option.none => (v.item? (.text name)).getD (v.lacksAttribute name)

/-- An item, or else the attribute of that name. -/
def item (v key : Value) : Value :=
  if v.isAbsent then v
  else
    match v.item? key with
    | some found => found
    | Option.none => (key.text?.bind v.attribute?).getD (v.lacksItem key)

def slice (v start stop step : Value) : Outcome Value := do
  let positions (length : Nat) := slicePositions length start stop step
  match v.text?, v.tuple?, v.list?, v with
  | some t, _, _, _ => return .text (pick t (← positions t.length))
  | _, some items, _, _ => return .tuple (pick items (← positions items.length))
  | _, _, some items, _ => return .list (pick items (← positions items.length))
  | _, _, _, .bytes octets => return .bytes (pick octets (← positions octets.length))
  | _, _, _, .range first last stride =>
    let (low, high, step) ← positions (rangeLength first last stride)
    return .range (first + stride * low) (first + stride * high) (stride * step)
  | _, _, _, .absent why => return .absent why
  | _, _, _, _ => Outcome.fail .wrongType

end HaxeBuild.Value
