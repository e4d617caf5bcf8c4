import HaxeBuild.Proofs.Effect
import HaxeBuild.Value.Objects

namespace HaxeBuild

open Effect

namespace Value

variable {told : Nat → Option Object}

mutual

/-- A value that has just been looked at is as it is. -/
theorem renewed_renewed : (v : Value) → renewed told (renewed told v) = renewed told v
  | .list items => congrArg Value.list (renewedAll_renewedAll items)
  | .tuple items => congrArg Value.tuple (renewedAll_renewedAll items)
  | .dict entries => congrArg Value.dict (renewedEntries_renewedEntries entries)
  | .sharedList id items => by
    have inside := renewedAll_renewedAll items
    rcases known : told id with _ | ⟨current | current⟩ <;> simp [renewed, known, inside]
  | .sharedDict id entries => by
    have inside := renewedEntries_renewedEntries entries
    rcases known : told id with _ | ⟨current | current⟩ <;> simp [renewed, known, inside]
  | .settings fields => congrArg Value.settings (renewedFields_renewedFields fields)
  | .view kind owner => congrArg (Value.view kind) (renewed_renewed owner)
  | .method name owner => congrArg (Value.method name) (renewed_renewed owner)
  | .constant identity result => congrArg (Value.constant identity) (renewed_renewed result)
  | .none => rfl
  | .bool _ => rfl
  | .int _ => rfl
  | .float _ => rfl
  | .text _ => rfl
  | .bytes _ => rfl
  | .names _ => rfl
  | .path _ => rfl
  | .library _ => rfl
  | .subtarget _ => rfl
  | .flag _ => rfl
  | .orientation _ => rfl
  | .range _ _ _ => rfl
  | .builtin _ => rfl
  | .absent _ => rfl
  | .loop _ => rfl

theorem renewedAll_renewedAll :
    (vs : List Value) → renewedAll told (renewedAll told vs) = renewedAll told vs
  | [] => rfl
  | v :: vs => congrArg₂ List.cons (renewed_renewed v) (renewedAll_renewedAll vs)

theorem renewedEntries_renewedEntries : (entries : List (Value × Value)) →
    renewedEntries told (renewedEntries told entries) = renewedEntries told entries
  | [] => rfl
  | (key, v) :: rest =>
    congrArg₂ List.cons (congrArg₂ Prod.mk (renewed_renewed key) (renewed_renewed v))
      (renewedEntries_renewedEntries rest)

theorem renewedFields_renewedFields : (fields : Record) →
    renewedFields told (renewedFields told fields) = renewedFields told fields
  | [] => rfl
  | (name, v) :: rest =>
    congrArg₂ List.cons (congrArg (Prod.mk name) (renewed_renewed v))
      (renewedFields_renewedFields rest)

end

mutual

theorem renewed_of_none : (v : Value) → renewed (fun _ => .none) v = v
  | .list items => congrArg Value.list (renewedAll_of_none items)
  | .tuple items => congrArg Value.tuple (renewedAll_of_none items)
  | .dict entries => congrArg Value.dict (renewedEntries_of_none entries)
  | .sharedList id items => congrArg (Value.sharedList id) (renewedAll_of_none items)
  | .sharedDict id entries => congrArg (Value.sharedDict id) (renewedEntries_of_none entries)
  | .settings fields => congrArg Value.settings (renewedFields_of_none fields)
  | .view kind owner => congrArg (Value.view kind) (renewed_of_none owner)
  | .method name owner => congrArg (Value.method name) (renewed_of_none owner)
  | .constant identity result => congrArg (Value.constant identity) (renewed_of_none result)
  | .none => rfl
  | .bool _ => rfl
  | .int _ => rfl
  | .float _ => rfl
  | .text _ => rfl
  | .bytes _ => rfl
  | .names _ => rfl
  | .path _ => rfl
  | .library _ => rfl
  | .subtarget _ => rfl
  | .flag _ => rfl
  | .orientation _ => rfl
  | .range _ _ _ => rfl
  | .builtin _ => rfl
  | .absent _ => rfl
  | .loop _ => rfl

theorem renewedAll_of_none : (vs : List Value) → renewedAll (fun _ => .none) vs = vs
  | [] => rfl
  | v :: vs => congrArg₂ List.cons (renewed_of_none v) (renewedAll_of_none vs)

theorem renewedEntries_of_none : (entries : List (Value × Value)) →
    renewedEntries (fun _ => .none) entries = entries
  | [] => rfl
  | (key, v) :: rest =>
    congrArg₂ List.cons (congrArg₂ Prod.mk (renewed_of_none key) (renewed_of_none v))
      (renewedEntries_of_none rest)

theorem renewedFields_of_none : (fields : Record) → renewedFields (fun _ => .none) fields = fields
  | [] => rfl
  | (name, v) :: rest =>
    congrArg₂ List.cons (congrArg (Prod.mk name) (renewed_of_none v)) (renewedFields_of_none rest)

end

end Value

namespace Objects

@[simp] theorem now_now (o : Objects) (v : Value) : o.now (o.now v) = o.now v :=
  Value.renewed_renewed v

/-- While no object was changed, every value is as it was. -/
theorem now_of_unchanged {o : Objects} (unchanged : o.changed = []) (v : Value) : o.now v = v := by
  rw [now, unchanged]
  exact Value.renewed_of_none v

/-- A list of the build stays that list, with what it holds now. -/
theorem now_value (o : Objects) (l : BuildList) (items : List Value) :
    o.now (l.value items) = .sharedList l.id (l.now items o) := by
  rw [BuildList.now, list, BuildList.value, now, Value.renewed]
  split <;> rfl

theorem list_of_unchanged {o : Objects} (unchanged : o.changed = []) (l : BuildList)
    (items : List Value) : l.now items o = items := by
  have same := now_of_unchanged unchanged (l.value items)
  rw [now_value] at same
  exact (Value.sharedList.inj same).2

variable {o o' : Objects}

theorem content?_congr (same : o.changed = o'.changed) (depth : Nat) :
    o.content? depth = o'.content? depth := by
  induction depth with
  | zero => rfl
  | succ depth inductionHypothesis =>
    funext id
    rw [content?, content?, same, inductionHypothesis]

/-- What values are now depends only on the objects that were changed. -/
theorem now_congr (same : o.changed = o'.changed) : o.now = o'.now := by
  funext v
  rw [now, now, same, content?_congr same]

theorem now_adopt (o : Objects) (v : Value) : (o.adopt v).2.now = o.now := now_congr rfl

end Objects

namespace Evaluation

theorem perform_now (v : Value) (o : Objects) : perform (now v) o = (.ok (o.now v), o) := rfl

end Evaluation

end HaxeBuild
