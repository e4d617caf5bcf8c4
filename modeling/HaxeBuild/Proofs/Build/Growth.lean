import Mathlib.Data.List.Infix
import Mathlib.Data.List.Nodup
import HaxeBuild.Build.Session
import HaxeBuild.Proofs.Effect

namespace HaxeBuild.Parameters

variable {p p' grown : Parameters} {key : Text} {value : Value} {identical : Bool}
  {now : Value → Value} {e : BuildError}

/-- The keys in their order. -/
def keys (p : Parameters) : List Text := p.map Prod.fst

/-- Exactly other keys have no value. -/
theorem get?_eq_none_iff : p.get? key = none ↔ key ∉ keys p := by
  rw [get?, List.lookup_eq_none_iff, keys, List.mem_map]
  constructor
  · rintro other ⟨entry, among, rfl⟩
    simpa using other entry among
  · intro other entry among
    exact bne_iff_ne.mpr fun same => other ⟨entry, among, same.symm⟩

/-- What was known at first is still known. -/
theorem get?_of_prefix {old : Value} (first : p <+: grown) (known : p.get? key = some old) :
    grown.get? key = some old := by
  obtain ⟨more, rfl⟩ := first
  rw [get?] at known
  rw [get?, List.lookup_append, known]
  rfl

/-- The value is the one that is stored, or an equal one. -/
def Accepts (p : Parameters) (key : Text) (value : Value) (identical : Bool)
    (now : Value → Value := id) : Prop :=
  ∃ old, p.get? key = some old ∧ (identical = true ∨ Value.same (now old) value = true)

/-- The value is neither identical nor equal to the one that is stored. -/
def Refuses (p : Parameters) (key : Text) (value : Value) (identical : Bool)
    (now : Value → Value := id) : Prop :=
  ∃ old, p.get? key = some old ∧ identical = false ∧ Value.same (now old) value = false

instance (p : Parameters) (key : Text) (value : Value) (identical : Bool) (now : Value → Value) :
    Decidable (p.Refuses key value identical now) :=
  decidable_of_iff
    ((p.get? key).any (fun old => !identical && !Value.same (now old) value) = true) <| by
    simp [Refuses, Option.any_eq_true]

/-- The three things that can become of a value. -/
inductive Addition (p : Parameters) (key : Text) (value : Value) (identical : Bool)
    (now : Value → Value) : Outcome Parameters → Prop where
  | accepted (known : p.Accepts key value identical now) : Addition p key value identical now (.ok p)
  | refused (known : p.Refuses key value identical now) :
      Addition p key value identical now (.error (.parameterConflict key))
  | new (unknown : p.get? key = none) :
      Addition p key value identical now (.ok (p ++ [(key, value)]))

/-- Every addition ends in one of the three ways. -/
theorem addition (p : Parameters) (key : Text) (value : Value) (identical : Bool)
    (now : Value → Value) : Addition p key value identical now (p.add key value identical now) := by
  rw [add]
  cases found : p.get? key with
  | none => exact .new found
  | some old =>
    by_cases same : (identical || Value.same (now old) value) = true
    · simp only [same, if_true]
      exact .accepted ⟨old, found, by simpa using same⟩
    · simp only [same]
      exact .refused ⟨old, found, by simpa using same⟩

/-- A value is added if it is accepted, which changes nothing, or if its key is new. -/
theorem add_eq_ok_iff :
    p.add key value identical now = .ok grown ↔
      p.Accepts key value identical now ∧ grown = p ∨
        p.get? key = none ∧ grown = p ++ [(key, value)] := by
  constructor
  · intro added
    have is := addition p key value identical now
    rw [added] at is
    cases is with
    | accepted known => exact .inl ⟨known, rfl⟩
    | new unknown => exact .inr ⟨unknown, rfl⟩
  · rintro (⟨⟨old, found, same⟩, rfl⟩ | ⟨unknown, rfl⟩)
    · rw [add, found]
      exact if_pos (by simpa using same)
    · rw [add, unknown]

/-- An addition fails exactly if the value is refused. -/
theorem add_eq_error_iff :
    p.add key value identical now = .error e ↔
      p.Refuses key value identical now ∧ e = .parameterConflict key := by
  constructor
  · intro stopped
    have is := addition p key value identical now
    rw [stopped] at is
    cases is with
    | refused known => exact ⟨known, rfl⟩
  · rintro ⟨⟨old, found, other, different⟩, rfl⟩
    rw [add, found]
    exact if_neg (by simp [other, different])

/-- A new key comes last. -/
theorem add_of_unknown (unknown : p.get? key = none) (value : Value) :
    p.add key value false now = .ok (p ++ [(key, value)]) := by
  rw [add, unknown]

/-- A text that is added again is the same, and nothing changes. -/
theorem eq_of_add_text {old t : Text} (known : p.get? key = some (.text old))
    (still : now (.text old) = .text old) (added : p.add key (.text t) false now = .ok grown) :
    t = old ∧ grown = p := by
  simp only [add, known, still] at added
  split at added
  · rename_i same
    cases added
    simp only [Bool.false_or, Value.same, Value.sameLeaf, Value.number?, Value.text?,
      beq_iff_eq] at same
    exact ⟨same.symm, rfl⟩
  · cases added

theorem add_of_refused (refused : p.Refuses key value identical now) :
    p.add key value identical now = .error (.parameterConflict key) :=
  add_eq_error_iff.mpr ⟨refused, rfl⟩

/-- What is not refused is added. -/
theorem add_of_allowed (allowed : ¬ p.Refuses key value identical now) :
    ∃ grown, p.add key value identical now = .ok grown := by
  rcases added : p.add key value identical now with e | grown
  · exact absurd (add_eq_error_iff.mp added).1 allowed
  · exact ⟨grown, rfl⟩

/-- Nothing is refused under a new key. -/
theorem not_refuses_of_unknown (unknown : p.get? key = none) :
    ¬ p.Refuses key value identical now := by
  rintro ⟨old, known, -⟩
  rw [unknown] at known
  cases known

/-- What was added is known. -/
theorem known_of_add (added : p.add key value identical now = .ok grown) :
    grown.get? key ≠ none := by
  rw [get?_add added, if_pos rfl]
  cases p.get? key <;> simp

/-- What is refused under a key does not depend on the other keys. -/
theorem refuses_iff_of_add {other : Text} {value' : Value} {identical' : Bool}
    {now' : Value → Value} (added : p.add key value identical now = .ok grown)
    (differs : other ≠ key) :
    grown.Refuses other value' identical' now' ↔ p.Refuses other value' identical' now' := by
  rw [Refuses, get?_add added, if_neg differs, Refuses]

/-- Where a text is known, every other one is refused. -/
theorem refuses_text_iff {old t : Text} (known : p.get? key = some (.text old))
    (still : now (.text old) = .text old) : p.Refuses key (.text t) false now ↔ t ≠ old := by
  constructor
  · rintro refused rfl
    have stopped := add_of_refused refused
    rw [add, known] at stopped
    simp [still, Value.same, Value.sameLeaf, Value.number?, Value.text?] at stopped
  · intro differs
    by_contra allowed
    obtain ⟨grown, added⟩ := add_of_allowed allowed
    exact differs (eq_of_add_text known still added).1

/-- What was there comes first, and no key comes twice. -/
structure Grows (p grown : Parameters) : Prop where
  first : p <+: grown
  nodup : (keys p).Nodup → (keys grown).Nodup

theorem grows_refl (p : Parameters) : Grows p p := ⟨List.prefix_refl p, id⟩

/-- Growing twice is growing. -/
theorem Grows.trans (once : Grows p p') (again : Grows p' grown) : Grows p grown :=
  ⟨once.first.trans again.first, fun nodup => again.nodup (once.nodup nodup)⟩

/-- An addition lets parameters grow. -/
theorem grows_of_add (added : p.add key value identical now = .ok grown) : Grows p grown := by
  rcases add_eq_ok_iff.mp added with ⟨-, rfl⟩ | ⟨new, rfl⟩
  · exact grows_refl grown
  · refine ⟨List.prefix_append _ _, fun nodup => ?_⟩
    rw [keys, List.map_append, List.map_singleton]
    rw [← List.concat_eq_append]
    exact List.Nodup.concat (get?_eq_none_iff.mp new) nodup

section AddAll

variable {values : List (Text × Value)} {identical : Text → Bool}

/-- An update lets parameters grow, even if it fails. -/
theorem grows_update (p : Parameters) (values : List (Text × Value)) (identical : Text → Bool)
    (now : Value → Value) : Grows p (p.update values identical now).1 := by
  induction values generalizing p with
  | nil => exact grows_refl p
  | cons entry values inductionHypothesis =>
    rw [update]
    rcases first : p.add entry.1 entry.2 (identical entry.1) now with e | q
    · exact grows_refl p
    · exact (grows_of_add first).trans (inductionHypothesis q)

end AddAll

/-- What a caller can do with parameters, and what the stored values are at that time. -/
inductive Call where
  | add (key : Text) (value : Value) (identical : Bool) (now : Value → Value := id)
  | update (values : List (Text × Value)) (identical : Text → Bool) (now : Value → Value := id)

/-- A call that fails keeps the parameters as far as it has come. -/
def Call.perform (p : Parameters) : Call → Parameters × Outcome Unit
  | add key value identical now =>
    match p.add key value identical now with
    | .ok grown => (grown, .ok ())
    | .error e => (p, .error e)
  | update values identical now => p.update values identical now

/-- Every call lets parameters grow. -/
theorem Call.grows (call : Call) (p : Parameters) : Grows p (call.perform p).1 := by
  cases call with
  | add key value identical now =>
    rw [perform]
    rcases added : p.add key value identical now with e | grown
    · exact grows_refl p
    · exact grows_of_add added
  | update values identical now => exact grows_update p values identical now

/-- What is there after calls in a row. -/
def run (p : Parameters) (calls : List Call) : Parameters :=
  calls.foldl (fun q call => (call.perform q).1) p

/-- A number that does not equal itself. -/
def undefined : Value := .float (0.0 / 0.0)

/-- The first value is equal to what is there, the second one is new, the third one is what is
there, and the update stops in its middle. -/
def mixed : List Call := [.add "n" (.bool true) false, .add "x" undefined false,
  .add "x" undefined true, .update [("m", .none), ("n", .int 2), ("o", .none)] fun _ => false]

end HaxeBuild.Parameters
