import HaxeBuild.Proofs.Effect

namespace HaxeBuild

namespace Effect

variable {ε τ α β : Type} {related : τ → τ → Prop}

/-- From related states the effects give the same answer and lead to related states. -/
def Alike (related : τ → τ → Prop) (act act' : Effect ε τ α) : Prop :=
  ∀ x x', related x x' →
    (perform act x).1 = (perform act' x').1 ∧ related (perform act x).2 (perform act' x').2

/-- An answer alone is alike from related states. -/
theorem alike_pure (a : α) : Alike related (pure a : Effect ε τ α) (pure a) :=
  fun _ _ known => ⟨rfl, known⟩

/-- An error alone is alike from related states. -/
theorem alike_throw (e : ε) : Alike related (throw e : Effect ε τ α) (throw e) :=
  fun _ _ known => ⟨rfl, known⟩

/-- Actions that go alike are followed by actions that go alike. -/
theorem Alike.bind {act act' : Effect ε τ α} {next next' : α → Effect ε τ β}
    (first : Alike related act act') (rest : ∀ a, Alike related (next a) (next' a)) :
    Alike related (act >>= next) (act' >>= next') := by
  intro x x' known
  have ⟨same, left⟩ := first x x' known
  rw [perform_bind, perform_bind]
  rcases answered : perform act x with ⟨e | a, y⟩ <;>
    rcases answered' : perform act' x' with ⟨e' | a', y'⟩ <;>
    rw [answered, answered'] at same left <;> cases same
  · exact ⟨rfl, left⟩
  · exact rest a y y' left

end Effect

namespace Action

open Effect

variable {σ τ α β : Type} {related : σ → σ → Prop}

/-- Actions on related states and on the same world. -/
abbrev Alike (related : σ → σ → Prop) (act act' : Action σ α) : Prop :=
  Effect.Alike (fun x x' : σ × World => related x.1 x'.1 ∧ x.2 = x'.2) act act'

/-- What follows may depend on the states, which are related. -/
theorem Alike.ofState {next next' : σ → Action σ α}
    (rest : ∀ s s', related s s' → Alike related (next s) (next' s')) :
    Alike related (state >>= next) (state >>= next') := by
  intro x x' known
  rw [perform_bind_ok (perform_state x.1 x.2), perform_bind_ok (perform_state x'.1 x'.2)]
  exact rest x.1 x'.1 known.1 x x' known

/-- Setting related states goes alike. -/
theorem alike_setState {s s' : σ} (are : related s s') :
    Alike related (setState s) (setState s') :=
  fun _ _ known => ⟨rfl, are, known.2⟩

/-- An outcome goes alike from related states. -/
theorem alike_ofOutcome (o : Outcome α) : Alike related (ofOutcome o : Action σ α) (ofOutcome o) :=
  fun _ _ known => by simpa only [perform_ofOutcome, true_and] using known

/-- Reading the files goes alike. -/
theorem alike_files : Alike related (files : Action σ FileTree) files := by
  rintro ⟨s, w⟩ ⟨s', _⟩ ⟨known, rfl⟩
  exact ⟨rfl, known, rfl⟩

/-- Reading the objects goes alike. -/
theorem alike_objects : Alike related (objects : Action σ Objects) objects := by
  rintro ⟨s, w⟩ ⟨s', _⟩ ⟨known, rfl⟩
  exact ⟨rfl, known, rfl⟩

/-- A change of the world goes alike. -/
theorem alike_onWorld (f : World → World) : Alike related (onWorld f : Action σ Unit) (onWorld f) :=
  fun _ _ known => ⟨rfl, known.1, congrArg f known.2⟩

/-- Logging goes alike. -/
theorem alike_log (level : Level) (message : Text) :
    Alike related (log level message : Action σ Unit) (log level message) :=
  alike_onWorld _

/-- Work on the files goes alike. -/
theorem alike_onDisk (act : Disk α) : Alike related (onDisk act : Action σ α) (onDisk act) := by
  rintro ⟨s, w⟩ ⟨s', _⟩ ⟨known, rfl⟩
  rw [perform_onDisk, perform_onDisk]
  exact ⟨rfl, known, rfl⟩

/-- Work on a part of the state that is the same in related states. -/
theorem alike_onPart {part : σ → τ} {update : σ → τ → σ}
    (same : ∀ s s', related s s' → part s = part s')
    (are : ∀ s s' t, related s s' → related (update s t) (update s' t)) (act : Action τ α) :
    Alike related (onPart part update act) (onPart part update act) := by
  rintro ⟨s, w⟩ ⟨s', _⟩ ⟨known, rfl⟩
  simp only [onPart, perform, ExceptT.run, same s s' known]
  exact ⟨rfl, are s s' _ known, rfl⟩

end Action

end HaxeBuild
