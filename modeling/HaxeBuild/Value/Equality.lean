import HaxeBuild.Number.Binary64
import HaxeBuild.Value.Basic

namespace HaxeBuild

/-- Truth values count as zero and one. -/
inductive Number where
  | int (n : Int)
  | float (x : Float)

namespace Number

/-- The finite numbers on a common scale. -/
def dyadic? : Number → Option Dyadic
  | .int n => some (.ofInt n)
  | .float x => Binary64.decode? x

/-- `none` if one of the two is not a number. -/
def compare? (a b : Number) : Option Ordering :=
  match a.dyadic?, b.dyadic?, a, b with
  | some x, some y, _, _ => some (x.compare y)
  | _, _, .float x, .float y =>
    if x.isNaN || y.isNaN then none
    else if x == y then some .eq else if x < y then some .lt else some .gt
  | _, _, .float x, .int _ =>
    if x.isNaN then none else some (if Binary64.isNegative x then .lt else .gt)
  | _, _, .int _, .float y =>
    if y.isNaN then none else some (if Binary64.isNegative y then .gt else .lt)
  | _, _, .int m, .int n => some (Ord.compare m n)

def same (a b : Number) : Bool := compare? a b == some .eq

end Number

namespace Value

def number? : Value → Option Number
  | .bool b => some (.int (if b then 1 else 0))
  | .int n => some (.int n)
  | .float x => some (.float x)
  | _ => Option.none

def sameRange (a b : Int × Int × Int) : Bool :=
  let length := rangeLength a.1 a.2.1 a.2.2
  length == rangeLength b.1 b.2.1 b.2.2 &&
    (length == 0 || a.1 == b.1 && (length == 1 || a.2.2 == b.2.2))

/-- Equality of values that hold no others. -/
def sameLeaf (a b : Value) : Bool :=
  match a.number?, b.number?, a.text?, b.text? with
  | some m, some n, _, _ => m.same n
  | _, _, some s, some t => s == t
  | _, _, _, _ =>
    match a, b with
    | .none, .none => true
    | .bytes x, .bytes y => x == y
    | .names x, .names y => x == y
    | .path x, .path y => x == y
    | .library x, .library y => x == y
    | .subtarget x, .subtarget y => x == y
    | .flag x, .flag y => x == y
    | .range a b c, .range x y z => sameRange (a, b, c) (x, y, z)
    | .constant x _, .constant y _ => x == y
    | .builtin x, .builtin y => x == y
    | .absent _, .absent _ => true
    | .loop x, .loop y => x == y
    | _, _ => false

/-- The number of a shared list or dictionary. -/
def identity? : Value → Option Nat
  | .sharedList id _ => some id
  | .sharedDict id _ => some id
  | _ => Option.none

/-- The entries that a view looks at. -/
def viewed? : Value → Option (View × List (Value × Value))
  | .view kind owner => owner.entries?.map fun entries => (kind, entries)
  | _ => Option.none

mutual

/-- Equality of values: numbers by what they count, models field by field, functions only if they
are the same one. Two lists are equal if they hold the same, whatever their numbers. -/
def same : Value → Value → Bool
  | .list xs, b =>
    match b.list? with
    | some ys => sameItems xs ys
    | Option.none => false
  | .sharedList _ xs, b =>
    match b.list? with
    | some ys => sameItems xs ys
    | Option.none => false
  | .tuple xs, b =>
    match b.tuple? with
    | some ys => sameItems xs ys
    | Option.none => false
  | .flag f, b =>
    match b with
    | .tuple [x, y] => sameLeaf (.text f.name) x && sameLeaf (.text f.value) y
    | _ => sameLeaf (.flag f) b
  | .dict entries, b =>
    match b.entries? with
    | some others => entries.length == others.length && sameEntries .items entries others
    | Option.none => false
  | .sharedDict _ entries, b =>
    match b.entries? with
    | some others => entries.length == others.length && sameEntries .items entries others
    | Option.none => false
  | .settings fields, b =>
    match b with
    | .settings others => sameFields fields others
    | _ => false
  | .view kind (.dict entries), b =>
    match b.viewed? with
    | some (other, others) =>
      kind == other && kind != .values && entries.length == others.length &&
        sameEntries kind entries others
    | Option.none => false
  | .view kind (.sharedDict _ entries), b =>
    match b.viewed? with
    | some (other, others) =>
      kind == other && kind != .values && entries.length == others.length &&
        sameEntries kind entries others
    | Option.none => false
  | .method name owner, b =>
    match b with
    | .method other owner' =>
      name == other &&
        if owner.identity?.isSome then owner.identity? == owner'.identity? else same owner owner'
    | _ => false
  | a, b => sameLeaf a b
termination_by structural x => x

def sameItems : List Value → List Value → Bool
  | [], ys => ys.isEmpty
  | _ :: _, [] => false
  | x :: xs, y :: ys => same x y && sameItems xs ys

def sameFields : List (Text × Value) → List (Text × Value) → Bool
  | [], others => others.isEmpty
  | _ :: _, [] => false
  | (name, x) :: rest, (other, y) :: others => name == other && same x y && sameFields rest others

/-- Every entry has an equal one among the others; of keys alone the values do not count. -/
def sameEntries (kind : View) : List (Value × Value) → List (Value × Value) → Bool
  | [], _ => true
  | (k, v) :: rest, others =>
    others.any (fun other => same k other.1 && (kind == .keys || same v other.2)) &&
      sameEntries kind rest others

end

/-- The value stored under an equal key. -/
def lookup? (key : Value) : List (Value × Value) → Option Value
  | [] => Option.none
  | (k, v) :: rest => if same k key then some v else lookup? key rest

/-- Stores under the key, which keeps its place if an equal one is present. -/
def store (key value : Value) : List (Value × Value) → List (Value × Value)
  | [] => [(key, value)]
  | (k, v) :: rest => if same k key then (k, value) :: rest else (k, v) :: store key value rest

end Value

end HaxeBuild
