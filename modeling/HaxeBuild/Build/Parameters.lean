import HaxeBuild.Error
import HaxeBuild.Value.Equality

namespace HaxeBuild

/-- Parameters in the order in which they were added. -/
abbrev Parameters := List (Text × Value)

namespace Parameters

def get? (p : Parameters) (key : Text) : Option Value := p.lookup key

/-- Adding an equal value again changes nothing; a different one is refused. A caller can also hold
the very value that is stored: it is accepted even if it does not equal itself. Stored values are
compared as they are now. -/
def add (p : Parameters) (key : Text) (value : Value) (identical : Bool := false)
    (now : Value → Value := id) : Outcome Parameters :=
  match p.get? key with
  | some old =>
    if identical || Value.same (now old) value then .ok p else .error (.parameterConflict key)
  | none => .ok (p ++ [(key, value)])

/-- A parameter that was added has its value, up to equality; the others keep theirs. -/
theorem get?_add {p grown : Parameters} {key : Text} {value : Value} {identical : Bool}
    {now : Value → Value} (added : p.add key value identical now = .ok grown) (other : Text) :
    grown.get? other =
      if other = key then (p.get? key).or (some value) else p.get? other := by
  simp only [add] at added
  split at added
  · rename_i old found
    split at added
    · cases added
      by_cases asked : other = key
      · subst asked
        simp [found]
      · simp [asked]
    · cases added
  · rename_i absent
    cases added
    simp only [get?] at absent ⊢
    by_cases asked : other = key
    · subst asked
      simp [List.lookup_append, absent]
    · simp [List.lookup_append, List.lookup_cons, asked, beq_false_of_ne]

/-- What was there before stays as it is. -/
theorem get?_add_of_some {p grown : Parameters} {key other : Text} {value old : Value}
    {identical : Bool} {now : Value → Value} (added : p.add key value identical now = .ok grown)
    (known : p.get? other = some old) : grown.get? other = some old := by
  rw [get?_add added]
  by_cases same : other = key
  · rw [if_pos same, ← same, known]
    rfl
  · rw [if_neg same, known]

/-- Adds one value after the other up to the first that is refused. The values that are the very
ones that are stored are told by their keys. -/
def update (p : Parameters) (values : List (Text × Value))
    (identical : Text → Bool := fun _ => false) (now : Value → Value := id) :
    Parameters × Outcome Unit :=
  match values with
  | [] => (p, .ok ())
  | (key, value) :: rest =>
    match p.add key value (identical key) now with
    | .ok grown => update grown rest identical now
    | .error e => (p, .error e)

end Parameters

end HaxeBuild
