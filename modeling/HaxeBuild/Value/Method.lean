import HaxeBuild.Text.Blank
import HaxeBuild.Text.Case
import HaxeBuild.Value.Sequence

namespace HaxeBuild

/-- Arguments that have been evaluated. -/
structure Passed where
  positional : List Value
  named : List (Text × Value)

namespace Passed

/-- Puts the arguments into the order of the parameters. Those without a default must be given, and
nothing may be given twice or be left over. -/
def bind (parameters : List (Text × Option Value)) (p : Passed) : Outcome (List Value) :=
  if p.positional.length > parameters.length then Outcome.fail .wrongType
  else if p.named.any fun (name, _) =>
      !((parameters.drop p.positional.length).map Prod.fst).contains name then
    Outcome.fail .wrongType
  else do
    let rest ← (parameters.drop p.positional.length).mapM fun (name, default?) =>
      match (p.named.lookup name).or default? with
      | some v => (Except.ok v : Outcome Value)
      | none => Outcome.fail .wrongType
    return p.positional ++ rest

end Passed

/-- A method answers or fails, and leaves behind what its owner then holds in both cases. -/
abbrev Method (α : Type) := Passed → ExceptT BuildError (StateM α) Value

namespace Method

variable {α : Type}

/-- A method that is refused changes nothing. -/
def refuse (f : Fault) : ExceptT BuildError (StateM α) Value := throw (.fault f)

/-- A method that only changes its owner. -/
def change (f : α → α) : ExceptT BuildError (StateM α) Value := do
  modify f
  return .none

/-- Takes everything out. -/
def clear (empty : α) : Method α
  | ⟨[], []⟩ => change fun _ => empty
  | _ => refuse .wrongType

/-- A new object with the same members. -/
def copy (wrap : α → Value) : Method α
  | ⟨[], []⟩ => do return wrap (← get)
  | _ => refuse .wrongType

/-! The methods of lists. Those that change nothing belong to tuples as well. -/

/-- How many members equal the value. -/
def count : Method (List Value)
  | ⟨[v], []⟩ => do return .int ((← get).countP (Value.same · v))
  | _ => refuse .wrongType

/-- The position of the first equal member between two bounds. -/
def index : Method (List Value)
  | ⟨v :: bounds, []⟩ => do
    let items ← get
    match bounds.mapM Value.integer? with
    | some bounds =>
      if bounds.length > 2 then refuse .wrongType
      else
        let (first, last) := Value.sliceEnds items.length bounds[0]? bounds[1]? 1
        let found (i : Nat) := first ≤ i && i < last && items[i]?.any (Value.same · v)
        match (List.range items.length).find? found with
        | some i => return .int i
        | none => refuse .badValue
    | none => refuse .wrongType
  | _ => refuse .wrongType

/-- Puts a value at the end. -/
def append : Method (List Value)
  | ⟨[v], []⟩ => change (· ++ [v])
  | _ => refuse .wrongType

/-- Puts all members of another value at the end. -/
def extend : Method (List Value)
  | ⟨[v], []⟩ =>
    match v.items? with
    | some more => change (· ++ more)
    | none => refuse .wrongType
  | _ => refuse .wrongType

/-- Puts a value before a place, counted from the end if it is negative. -/
def insert : Method (List Value)
  | ⟨[place, v], []⟩ =>
    match place.integer? with
    | some n => change fun items => items.insertIdx (Value.sliceEnds items.length n none 1).1.toNat v
    | none => refuse .wrongType
  | _ => refuse .wrongType

/-- Takes out the member at an index, which counts from the end if it is negative. -/
def takeAt (n : Int) : ExceptT BuildError (StateM (List Value)) Value := do
  let items ← get
  match Value.nth? items n with
  | some v =>
    set (items.eraseIdx (if n < 0 then n + items.length else n).toNat)
    return v
  | none => refuse .outOfRange

/-- Takes the last member, or the one at a place. -/
def pop : Method (List Value)
  | ⟨[], []⟩ => takeAt (-1)
  | ⟨[place], []⟩ =>
    match place.integer? with
    | some n => takeAt n
    | none => refuse .wrongType
  | _ => refuse .wrongType

/-- Takes out the first member that equals the value. -/
def remove : Method (List Value)
  | ⟨[v], []⟩ => do
    if (← get).any (Value.same · v) then change (·.eraseP (Value.same · v)) else refuse .badValue
  | _ => refuse .wrongType

/-- Turns the order around. -/
def reverse : Method (List Value)
  | ⟨[], []⟩ => change List.reverse
  | _ => refuse .wrongType

/-- Puts a value before the first one that is greater. -/
def insertSorted (v : Value) : List Value → Outcome (List Value)
  | [] => .ok [v]
  | first :: rest => do
    if (← Value.test .lt v first) then return v :: first :: rest
    else return first :: (← insertSorted v rest)

/-- The values in ascending order, if all of them can be compared. -/
def sorted (items : List Value) : Outcome (List Value) :=
  items.foldlM (fun before v => insertSorted v before) []

/-- Equal members keep their order, also when the greatest comes first. -/
def sort : Method (List Value)
  | ⟨[], named⟩ => do
    match (← Passed.bind [("key", some .none), ("reverse", some (.bool false))] ⟨[], named⟩) with
    | [.none, backwards] =>
      match backwards.integer? with
      | some n =>
        let turn (items : List Value) := if n == 0 then items else items.reverse
        set (turn (← sorted (turn (← get))))
        return .none
      | none => refuse .wrongType
    | _ => refuse .wrongType
  | _ => refuse .wrongType

/-! The methods of dictionaries. -/

/-- Goes on only if the value can be a key. -/
def withKey (key : Value) (next : ExceptT BuildError (StateM α) Value) :
    ExceptT BuildError (StateM α) Value :=
  if key.hashable then next else refuse .wrongType

/-- A view shows what its owner holds at any time. -/
def viewOf (kind : View) (owner : Value) : Method (List (Value × Value))
  | ⟨[], []⟩ => return .view kind owner
  | _ => refuse .wrongType

/-- The value of a key, or else another one. -/
def getOr (key fallback : Value) : ExceptT BuildError (StateM (List (Value × Value))) Value :=
  withKey key do return (Value.lookup? key (← get)).getD fallback

/-- The value of a key, or nothing. -/
def find : Method (List (Value × Value))
  | ⟨[key], []⟩ => getOr key .none
  | ⟨[key, fallback], []⟩ => getOr key fallback
  | _ => refuse .wrongType

/-- The value of a key, which is stored first if there is none. -/
def setDefault (key fallback : Value) :
    ExceptT BuildError (StateM (List (Value × Value))) Value :=
  withKey key do
    match Value.lookup? key (← get) with
    | some v => return v
    | none =>
      modify (Value.store key fallback)
      return fallback

def setdefault : Method (List (Value × Value))
  | ⟨[key], []⟩ => setDefault key .none
  | ⟨[key, fallback], []⟩ => setDefault key fallback
  | _ => refuse .wrongType

/-- Nothing is asked of the key while the dictionary is empty. -/
def takeKey (key : Value) (fallback : Option Value) :
    ExceptT BuildError (StateM (List (Value × Value))) Value := do
  let entries ← get
  let missing := match fallback with
    | some v => return v
    | none => refuse .missingKey
  if entries.isEmpty then missing
  else withKey key do
    match Value.lookup? key entries with
    | some v =>
      set (entries.eraseP fun entry => Value.same entry.1 key)
      return v
    | none => missing

/-- Takes out the value of a key. -/
def popKey : Method (List (Value × Value))
  | ⟨[key], []⟩ => takeKey key none
  | ⟨[key, fallback], []⟩ => takeKey key (some fallback)
  | _ => refuse .wrongType

/-- Takes out the latest entry. -/
def popItem : Method (List (Value × Value))
  | ⟨[], []⟩ => do
    let entries ← get
    match entries.getLast? with
    | some (key, v) =>
      set entries.dropLast
      return .tuple [key, v]
    | none => refuse .missingKey
  | _ => refuse .wrongType

/-- Stores pairs up to the first value that is none. -/
def storePairs : List Value → ExceptT BuildError (StateM (List (Value × Value))) Value
  | [] => return .none
  | v :: vs =>
    match v.items? with
    | some [key, value] =>
      withKey key do
        modify (Value.store key value)
        storePairs vs
    | some _ => refuse .badValue
    | none => refuse .wrongType

/-- The entries with further ones stored over them. -/
def storeAll (entries more : List (Value × Value)) : List (Value × Value) :=
  more.foldl (fun stored (key, value) => Value.store key value stored) entries

/-- Stores the entries of another dictionary, or pairs, and then the named arguments. -/
def update : Method (List (Value × Value))
  | ⟨given, named⟩ => do
    match given with
    | [] => pure ()
    | [.absent why] => throw (.absentValue why)
    | [v] =>
      match v.entries?, v.items? with
      | some entries, _ => modify (storeAll · entries)
      | _, some items => discard (storePairs items)
      | _, _ => throw (.fault .wrongType)
    | _ => throw (.fault .wrongType)
    change (storeAll · (named.map fun (name, v) => (.text name, v)))

/-! The methods of texts. -/

/-- A method without arguments that makes another text. -/
def textual (f : Text → Text) (t : Text) : Passed → Outcome Value
  | ⟨[], []⟩ => .ok (.text (f t))
  | _ => Outcome.fail .wrongType

/-- Strips blanks, or the code points that are given. -/
def strip (f : (Code → Bool) → Text → Text) (t : Text) : Passed → Outcome Value
  | ⟨[], []⟩ => .ok (.text (f Code.isBlank t))
  | ⟨[.none], []⟩ => .ok (.text (f Code.isBlank t))
  | ⟨[v], []⟩ =>
    match v.text? with
    | some marks => .ok (.text (f marks.contains t))
    | none => Outcome.fail .wrongType
  | _ => Outcome.fail .wrongType

/-- The text without the characters at its end. -/
def stripEnd (strips : Code → Bool) (t : Text) : Text := (t.reverse.dropWhile strips).reverse

/-- The text without the characters at both ends. -/
def stripBoth (strips : Code → Bool) (t : Text) : Text := stripEnd strips (t.dropWhile strips)

/-- A negative limit is none: a text has fewer marks than code points. -/
def limitOf (t : Text) (n : Int) : Nat := if n < 0 then t.length + 1 else n.toNat

/-- Splits at blanks, or at every occurrence of a mark, up to a limit. -/
def split (t : Text) (p : Passed) : Outcome Value := do
  match (← p.bind [("sep", some .none), ("maxsplit", some (.int (-1)))]) with
  | [mark, most] =>
    match mark, mark.text?, most.integer? with
    | .none, _, some n => return .list ((Text.words (limitOf t n) t).map .text)
    | _, some [], some _ => Outcome.fail .badValue
    | _, some m, some n => return .list ((Text.pieces m (limitOf t n) t).map .text)
    | _, _, _ => Outcome.fail .wrongType
  | _ => Outcome.fail .wrongType

/-- The texts with the separator between them. -/
def join (separator : Text) : Passed → Outcome Value
  | ⟨[v], []⟩ =>
    match v.items?.bind (·.mapM Value.text?) with
    | some ts => .ok (.text (Text.join separator ts))
    | none => Outcome.fail .wrongType
  | _ => Outcome.fail .wrongType

/-- The text with a part replaced, at most a number of times if it is not negative. -/
def replace (t : Text) : Passed → Outcome Value
  | ⟨[old, new], []⟩ => replaced old new (.int (-1))
  | ⟨[old, new, most], []⟩ => replaced old new most
  | _ => Outcome.fail .wrongType
where
  replaced (old new most : Value) : Outcome Value :=
    match old.text?, new.text?, most.integer? with
    | some o, some n, some most => .ok (.text (Text.join n (Text.pieces o (limitOf t most) t)))
    | _, _, _ => Outcome.fail .wrongType

/-- Whether one of several texts stands at an end of the text; those behind it are not looked at. -/
def stands (has : Text → Bool) : Passed → Outcome Value
  | ⟨[v], []⟩ => do return .bool (← first (v.tuple?.getD [v]))
  | _ => Outcome.fail .wrongType
where
  first : List Value → Outcome Bool
    | [] => .ok false
    | v :: vs =>
      match v.text? with
      | some t => if has t then .ok true else first vs
      | none => Outcome.fail .wrongType

end Method

namespace Subtarget

/-- Whether the subtarget answers to a value: only texts are names. -/
def matching (s : Subtarget) : Passed → Outcome Value
  | ⟨[requested], []⟩ =>
    match requested.text? with
    | some t => .ok (.bool (s.answersTo t))
    | none => if requested.hashable then .ok (.bool false) else Outcome.fail .wrongType
  | _ => Outcome.fail .wrongType

end Subtarget

namespace Value

open Method

/-- The methods of lists by their names. -/
def listMethods : List (Text × Method (List Value)) := [
  ("append", append), ("clear", clear []), ("copy", copy .list), ("count", count),
  ("extend", extend), ("index", index), ("insert", insert), ("pop", pop), ("remove", remove),
  ("reverse", reverse), ("sort", sort)]

/-- The methods of dictionaries by their names. -/
def dictMethods (owner : Value) : List (Text × Method (List (Value × Value))) := [
  ("clear", clear []), ("copy", copy .dict), ("get", find), ("items", viewOf .items owner),
  ("keys", viewOf .keys owner), ("pop", popKey), ("popitem", popItem), ("setdefault", setdefault),
  ("update", update), ("values", viewOf .values owner)]

/-- The methods of texts by their names. -/
def textMethods (t : Text) : List (Text × (Passed → Outcome Value)) := [
  ("upper", textual Text.upper t), ("lower", textual Text.lower t),
  ("capitalize", textual Text.capitalize t), ("strip", strip stripBoth t),
  ("lstrip", strip List.dropWhile t), ("rstrip", strip stripEnd t), ("split", split t),
  ("join", join t), ("replace", replace t), ("startswith", stands (Text.startsWith t)),
  ("endswith", stands (·.isSuffixOf t))]

/-- The methods of a value that has nothing to change. -/
def fixedMethods (v : Value) : List (Text × (Passed → Outcome Value)) :=
  match v, v.text?, v.tuple? with
  | .subtarget s, _, _ => [("matches", s.matching)]
  | _, some t, _ => textMethods t
  | _, _, some items =>
    [("count", fun p => (count p items).1), ("index", fun p => (index p items).1)]
  | _, _, _ => []

/-- Whether a value has a method of the name. -/
def hasMethod (v : Value) (name : Text) : Bool :=
  match v.list?, v.entries? with
  | some _, _ => (listMethods.lookup name).isSome
  | _, some _ => (dictMethods v |>.lookup name).isSome
  | _, _ => (v.fixedMethods.lookup name).isSome

end Value

end HaxeBuild
