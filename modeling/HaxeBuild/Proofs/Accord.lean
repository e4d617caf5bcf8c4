import HaxeBuild.Build.World
import HaxeBuild.Proofs.Effect

namespace HaxeBuild

open Effect

/-- The error without the declared path that it names. -/
def BuildError.anonymous : BuildError → BuildError
  | resourceNotFound _ => resourceNotFound []
  | unsafePath _ root => unsafePath [] root
  | e => e

/-- Two outcomes are values that belong together, or errors that differ in the declared path only. -/
inductive Outcome.Accord {α β : Type} (paired : α → β → Prop) : Outcome α → Outcome β → Prop where
  | ok {a : α} {b : β} (values : paired a b) : Accord paired (.ok a) (.ok b)
  | error {e e' : BuildError} (errors : e.anonymous = e'.anonymous) :
      Accord paired (.error e) (.error e')

/-- The same was asked of the package source and run, and it left the same files and objects. -/
structure World.SameDeeds (w w' : World) : Prop where
  files : w.files = w'.files
  asked : w.asked = w'.asked
  runs : w.runs = w'.runs
  objects : w.objects = w'.objects

namespace Outcome

variable {α β γ δ : Type}

/-- Every outcome accords with itself. -/
theorem accord_refl (o : Outcome α) : Accord Eq o o := by
  cases o with
  | ok a => exact .ok rfl
  | error e => exact .error rfl

/-- Outcomes that accord go on to outcomes that accord. -/
theorem Accord.bind {paired : α → β → Prop} {joined : γ → δ → Prop} {o : Outcome α} {o' : Outcome β}
    {next : α → Outcome γ} {next' : β → Outcome δ} (first : Accord paired o o')
    (rest : ∀ a b, paired a b → Accord joined (next a) (next' b)) :
    Accord joined (o >>= next) (o' >>= next') := by
  cases first with
  | ok values => exact rest _ _ values
  | error errors => exact .error errors

end Outcome

namespace World.SameDeeds

variable {w w' : World}

/-- A world has its own deeds. -/
theorem refl (w : World) : w.SameDeeds w := ⟨rfl, rfl, rfl, rfl⟩

/-- The log is no deed. -/
theorem addLog (same : w.SameDeeds w') (log log' : Log) :
    SameDeeds { w with log := log } { w' with log := log' } :=
  ⟨same.files, same.asked, same.runs, same.objects⟩

end World.SameDeeds

namespace Action

variable {σ τ α β γ δ : Type} {related : σ → σ → Prop} {paired : α → β → Prop}
  {joined : γ → δ → Prop}

/-- From related states, and after the same deeds, the outcomes accord, the states are related, and
the deeds are the same again. -/
def Accord (related : σ → σ → Prop) (paired : α → β → Prop) (act : Action σ α)
    (act' : Action σ β) : Prop :=
  ∀ s s' w w', related s s' → w.SameDeeds w' →
    Outcome.Accord paired (perform act (s, w)).1 (perform act' (s', w')).1 ∧
      related (perform act (s, w)).2.1 (perform act' (s', w')).2.1 ∧
        (perform act (s, w)).2.2.SameDeeds (perform act' (s', w')).2.2

/-- Paired answers accord. -/
theorem accord_pure {a : α} {b : β} (values : paired a b) :
    Accord related paired (pure a) (pure b) :=
  fun _ _ _ _ known same => ⟨.ok values, known, same⟩

/-- The same error accords with itself. -/
theorem accord_throw (e : BuildError) : Accord related paired (throw e) (throw e) :=
  fun _ _ _ _ known same => ⟨.error rfl, known, same⟩

/-- Outcomes that accord do so as actions. -/
theorem accord_ofOutcome {o : Outcome α} {o' : Outcome β} (accord : Outcome.Accord paired o o') :
    Accord related paired (ofOutcome o) (ofOutcome o') := by
  intro s s' w w' known same
  rw [perform_ofOutcome, perform_ofOutcome]
  exact ⟨accord, known, same⟩

/-- Actions that accord go on to actions that accord. -/
theorem Accord.bind {act : Action σ α} {act' : Action σ β} {next : α → Action σ γ}
    {next' : β → Action σ δ} (first : Accord related paired act act')
    (rest : ∀ a b, paired a b → Accord related joined (next a) (next' b)) :
    Accord related joined (act >>= next) (act' >>= next') := by
  intro s s' w w' known same
  have accord := first s s' w w' known same
  rw [perform_bind, perform_bind]
  generalize perform act (s, w) = done at accord ⊢
  generalize perform act' (s', w') = done' at accord ⊢
  obtain ⟨o, s1, w1⟩ := done
  obtain ⟨o', s1', w1'⟩ := done'
  have ⟨answers, states, worlds⟩ := accord
  cases answers with
  | ok values => exact rest _ _ values s1 s1' w1 w1' states worlds
  | error errors => exact ⟨.error errors, states, worlds⟩

/-- What follows an action is told the same answer. -/
theorem Accord.bindEq {act act' : Action σ α} {next : α → Action σ γ} {next' : α → Action σ δ}
    (first : Accord related Eq act act') (rest : ∀ a, Accord related joined (next a) (next' a)) :
    Accord related joined (act >>= next) (act' >>= next') := by
  apply first.bind
  intro a b same
  rw [same]
  exact rest b

/-- Related states are read in accord. -/
theorem accord_state : Accord related related state state :=
  fun _ _ _ _ known same => ⟨.ok known, known, same⟩

/-- Related states are set in accord. -/
theorem accord_setState {s s' : σ} (states : related s s') :
    Accord related Eq (setState s) (setState s') :=
  fun _ _ _ _ _ same => ⟨.ok rfl, states, same⟩

/-- The files are the same on both sides. -/
theorem accord_files : Accord related Eq (files : Action σ FileTree) files :=
  fun _ _ _ _ known same => ⟨.ok same.files, known, same⟩

/-- The objects are the same on both sides. -/
theorem accord_objects : Accord related Eq (objects : Action σ Objects) objects :=
  fun _ _ _ _ known same => ⟨.ok same.objects, known, same⟩

/-- Messages do not count. -/
theorem accord_log (level level' : Level) (message message' : Text) :
    Accord related Eq (log level message : Action σ Unit) (log level' message') :=
  fun _ _ _ _ known same => ⟨.ok rfl, known, same.addLog _ _⟩

/-- Work on the files is the same on both sides. -/
theorem accord_onDisk (act : Disk α) : Accord related Eq (onDisk act : Action σ α) (onDisk act) := by
  intro s s' w w' known same
  rw [perform_onDisk, perform_onDisk, same.files]
  exact ⟨Outcome.accord_refl _, known, rfl, same.asked, same.runs, same.objects⟩

/-- The source answers both sides alike. -/
theorem accord_ask (source : PackageSource) (l : LibraryReference) :
    Accord related Eq (source.ask l : Action σ (Except Text Bool)) (source.ask l) := by
  intro s s' w w' known same
  simp only [PackageSource.ask, perform_bind, perform_files, perform_onWorld, perform_pure,
    same.files, same.asked]
  exact ⟨.ok rfl, known, rfl, rfl, same.runs, same.objects⟩

/-- The toolchain answers both sides alike. -/
theorem accord_run (runner : ProcessRunner) (i : Invocation) :
    Accord related Eq (runner.run i : Action σ ProcessResult) (runner.run i) := by
  intro s s' w w' known same
  rw [perform_run, perform_run, same.files, same.runs]
  exact ⟨Outcome.accord_refl _, known, rfl, same.asked, rfl, same.objects⟩

/-- Work on a part of the state, where the parts are related in their own way. -/
theorem accord_onPart {part : σ → τ} {update : σ → τ → σ} {relatedParts : τ → τ → Prop}
    {act : Action τ α} {act' : Action τ β}
    (parts : ∀ s s', related s s' → relatedParts (part s) (part s'))
    (updated : ∀ s s' x x', related s s' → relatedParts x x' → related (update s x) (update s' x'))
    (accord : Accord relatedParts paired act act') :
    Accord related paired (onPart part update act) (onPart part update act') := by
  intro s s' w w' known same
  have ⟨answers, states, worlds⟩ := accord _ _ w w' (parts s s' known) same
  exact ⟨answers, updated s s' _ _ known states, worlds⟩

end Action

end HaxeBuild
