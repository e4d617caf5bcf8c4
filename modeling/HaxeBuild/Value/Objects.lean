import HaxeBuild.Value.Access

namespace HaxeBuild

/-- What a shared list or dictionary holds. -/
inductive Object where
  | list (items : List Value)
  | dict (entries : List (Value × Value))

/-- The shared lists and dictionaries: how many there are, and what those hold that were changed. The
others hold what the values say that stand for them. -/
structure Objects where
  count : Nat
  changed : List (Nat × Object)

namespace Value

mutual

/-- The value with the contents of its objects as they are told. -/
def renewed (told : Nat → Option Object) : Value → Value
  | .list items => .list (renewedAll told items)
  | .tuple items => .tuple (renewedAll told items)
  | .dict entries => .dict (renewedEntries told entries)
  | .sharedList id items =>
    match told id with
    | some (.list current) => .sharedList id current
    | _ => .sharedList id (renewedAll told items)
  | .sharedDict id entries =>
    match told id with
    | some (.dict current) => .sharedDict id current
    | _ => .sharedDict id (renewedEntries told entries)
  | .settings fields => .settings (renewedFields told fields)
  | .view kind owner => .view kind (renewed told owner)
  | .method name owner => .method name (renewed told owner)
  | .constant identity result => .constant identity (renewed told result)
  | v => v

/-- The elements of a list, each as it now stands. -/
def renewedAll (told : Nat → Option Object) : List Value → List Value
  | [] => []
  | v :: vs => renewed told v :: renewedAll told vs

/-- The entries of a dictionary, each as it now stands. -/
def renewedEntries (told : Nat → Option Object) : List (Value × Value) → List (Value × Value)
  | [] => []
  | (key, v) :: rest => (renewed told key, renewed told v) :: renewedEntries told rest

/-- The fields of a record, each as it now stands. -/
def renewedFields (told : Nat → Option Object) : Record → Record
  | [] => []
  | (name, v) :: rest => (name, renewed told v) :: renewedFields told rest

end

/-- The next number that no object has. -/
def fresh : StateM Nat Nat := modifyGet fun n => (n, n + 1)

mutual

/-- Every list and dictionary inside a value becomes an object with a number of its own. -/
def adopted : Value → StateM Nat Value
  | .list items => do return .sharedList (← fresh) (← adoptedAll items)
  | .tuple items => do return .tuple (← adoptedAll items)
  | .dict entries => do return .sharedDict (← fresh) (← adoptedEntries entries)
  | .constant identity result => do return .constant identity (← adopted result)
  | v => return v

/-- Values with an object for each list and dictionary in them. -/
def adoptedAll : List Value → StateM Nat (List Value)
  | [] => return []
  | v :: vs => do return (← adopted v) :: (← adoptedAll vs)

/-- Entries with an object for each list and dictionary in them. -/
def adoptedEntries : List (Value × Value) → StateM Nat (List (Value × Value))
  | [] => return []
  | (key, v) :: rest => do return (key, ← adopted v) :: (← adoptedEntries rest)

end

end Value

/-- An object with its elements as they now stand. -/
def Object.renewed (told : Nat → Option Object) : Object → Object
  | .list items => .list (Value.renewedAll told items)
  | .dict entries => .dict (Value.renewedEntries told entries)

namespace Objects

/-- What a changed object holds. The objects inside it are looked at as well, as many of them as were
changed: one that holds itself is shown no deeper. -/
def content? (o : Objects) : (depth : Nat) → Nat → Option Object
  | 0, _ => none
  | depth + 1, id => (o.changed.lookup id).map (Object.renewed (o.content? depth))

/-- The value as it is now. -/
def now (o : Objects) (v : Value) : Value := v.renewed (o.content? o.changed.length)

/-- What a list holds now that held `items` at first. -/
def list (o : Objects) (id : Nat) (items : List Value) : List Value :=
  ((o.now (.sharedList id items)).list?).getD []

/-- Notes the content that an object now has. -/
def change (o : Objects) (id : Nat) (content : Object) : Objects :=
  { o with changed := (id, content) :: o.changed.filter (·.1 != id) }

/-- A value that comes from outside, with its lists and dictionaries as further objects. -/
def adopt (o : Objects) (v : Value) : Value × Objects :=
  let (v, count) := v.adopted o.count
  (v, { o with count })

variable (o : Objects)

/-- A value that holds no object is what it was, whatever has been changed. -/
@[simp] theorem now_none : o.now .none = .none := rfl

@[simp] theorem now_bool (b : Bool) : o.now (.bool b) = .bool b := rfl

@[simp] theorem now_int (n : Int) : o.now (.int n) = .int n := rfl

@[simp] theorem now_text (t : Text) : o.now (.text t) = .text t := rfl

@[simp] theorem now_flag (f : CompilerFlag) : o.now (.flag f) = .flag f := rfl

@[simp] theorem now_subtarget (s : Subtarget) : o.now (.subtarget s) = .subtarget s := rfl

@[simp] theorem now_builtin (b : Builtin) : o.now (.builtin b) = .builtin b := rfl

end Objects

/-- What evaluating does: it can change objects, also if it fails. -/
abbrev Evaluation (α : Type) := ExceptT BuildError (StateM Objects) α

namespace Evaluation

/-- Reads a value as it now stands. -/
def now (v : Value) : Evaluation Value := do return (← get).now v

/-- Reads values as they now stand. -/
def nowAll (vs : List Value) : Evaluation (List Value) := do return vs.map (← get).now

/-- A list or dictionary that has just been made becomes an object. -/
def own : Value → Evaluation Value
  | .list items =>
    modifyGet fun o => (.sharedList o.count items, { o with count := o.count + 1 })
  | .dict entries =>
    modifyGet fun o => (.sharedDict o.count entries, { o with count := o.count + 1 })
  | v => return v

/-- Lets a method act on what its owner holds, which an object keeps. -/
def act {α : Type} (method : Method α) (p : Passed) (id : Option Nat) (held : α)
    (wrap : α → Object) : Evaluation Value := do
  let (answer, left) := (method p).run held
  modify fun o => id.elim o fun id => o.change id (wrap left)
  own (← (answer : Outcome Value))

end Evaluation

end HaxeBuild
