import HaxeBuild.Files.Walk

namespace HaxeBuild.FileTree

/-- A text all of which has octets in a name. -/
def IsEncodable (t : Text) : Prop := ∀ c ∈ t, c.nameOctets?.isSome = true

instance (t : Text) : Decidable (IsEncodable t) := inferInstanceAs (Decidable (∀ c ∈ t, _))

/-- A part of a path that the operating system can be asked about. -/
def IsAskable (name : Text) : Prop :=
  IsEncodable name ∧ name.contains (.char '\x00') = false

instance (name : Text) : Decidable (IsAskable name) := inferInstanceAs (Decidable (_ ∧ _))

theorem isAskable_iff {name : Text} :
    IsAskable name ↔ IsEncodable name ∧ .char '\x00' ∉ name := by
  simp [IsAskable]

variable {p q : Path}

theorem anyUnencodable_eq_false_iff {parts : List Text} :
    (parts.any fun part => part.any fun c => c.nameOctets?.isNone) = false ↔
      ∀ part ∈ parts, IsEncodable part := by
  simp [IsEncodable, Option.isSome_iff_ne_none]

theorem anyNull_eq_false_iff {parts : List Text} :
    (parts.any fun part => part.contains (.char '\x00')) = false ↔
      ∀ part ∈ parts, part.contains (.char '\x00') = false := by
  simp

/-- A path can be asked about if each of its parts can. -/
theorem askable_iff : askable p = .ok () ↔ ∀ part ∈ p.parts, IsAskable part := by
  have both : (∀ part ∈ p.parts, IsAskable part) ↔
      (∀ part ∈ p.parts, IsEncodable part) ∧
        ∀ part ∈ p.parts, part.contains (.char '\x00') = false := by
    simp only [IsAskable, imp_and, forall_and]
  rw [both, ← anyUnencodable_eq_false_iff, ← anyNull_eq_false_iff, askable]
  cases p.parts.any fun part => part.any fun c => c.nameOctets?.isNone <;>
    cases p.parts.any fun part => part.contains (.char '\x00') <;> simp

/-- Octets are looked for first. -/
theorem askable_of_unencodable (unencodable : ¬ ∀ part ∈ p.parts, IsEncodable part) :
    askable p = .error .unencodable := by
  rw [← anyUnencodable_eq_false_iff, Bool.not_eq_false] at unencodable
  rw [askable, if_pos unencodable]

/-- Every part of a path that can be asked about can be asked about. -/
theorem askable_of_begins (begins : q.parts <+: p.parts) (asked : askable p = .ok ()) :
    askable q = .ok () :=
  askable_iff.mpr fun part among => askable_iff.mp asked part (begins.subset among)

theorem askableInTurn_cons (slashes : Fin 3) (part : Text) (parts : List Text) :
    askableInTurn ⟨slashes, part :: parts⟩ =
      (askable ⟨slashes, [part]⟩ >>= fun _ => askableInTurn ⟨slashes, parts⟩) := rfl

/-- Whether the parts are asked about in turn makes a difference for the error only. -/
theorem askableInTurn_eq_ok : askableInTurn p = .ok () ↔ askable p = .ok () := by
  obtain ⟨slashes, parts⟩ := p
  rw [askable_iff]
  induction parts with
  | nil => simp [askableInTurn, pure, Except.pure]
  | cons part parts inductionHypothesis =>
    have first : askable ⟨slashes, [part]⟩ = .ok () ↔ IsAskable part := by
      simp [askable_iff]
    rw [askableInTurn_cons, List.forall_mem_cons, ← first, ← inductionHypothesis]
    cases askable ⟨slashes, [part]⟩ <;> simp [bind, Except.bind]

/-- Without null characters, a part that has no octets is all that can be at fault. -/
theorem askableInTurn_of_unencodable
    (whole : ∀ part ∈ p.parts, .char '\x00' ∉ part)
    (unencodable : ¬ ∀ part ∈ p.parts, IsEncodable part) :
    askableInTurn p = .error .unencodable := by
  obtain ⟨slashes, parts⟩ := p
  induction parts with
  | nil => simp at unencodable
  | cons part parts inductionHypothesis =>
    have ⟨wholePart, wholeParts⟩ := List.forall_mem_cons.mp whole
    rw [askableInTurn_cons]
    by_cases encodable : IsEncodable part
    · have asked : askable ⟨slashes, [part]⟩ = .ok () :=
        askable_iff.mpr (List.forall_mem_singleton.mpr (isAskable_iff.mpr ⟨encodable, wholePart⟩))
      have later : ¬ ∀ part ∈ parts, IsEncodable part := fun all =>
        unencodable (List.forall_mem_cons.mpr ⟨encodable, all⟩)
      rw [asked]
      exact inductionHypothesis wholeParts later
    · have refused : askable ⟨slashes, [part]⟩ = .error .unencodable :=
        askable_of_unencodable (by simpa using encodable)
      rw [refused]
      rfl

end HaxeBuild.FileTree
