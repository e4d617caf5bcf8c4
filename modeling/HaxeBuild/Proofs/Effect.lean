import Mathlib.Data.List.Forall2
import HaxeBuild.Build.World

namespace HaxeBuild

/-- A computation in two parts succeeds if both parts do. -/
theorem except_bind_ok {ε α β : Type} {first : Except ε α} {next : α → Except ε β} {b : β} :
    (first >>= next) = .ok b ↔ ∃ a, first = .ok a ∧ next a = .ok b := by
  constructor
  · intro done
    cases first with
    | error e => cases done
    | ok a => exact ⟨a, rfl, done⟩
  · rintro ⟨a, rfl, done⟩
    exact done

/-- It fails as the part does that fails first. -/
theorem except_bind_error {ε α β : Type} {first : Except ε α} {next : α → Except ε β} {e : ε} :
    (first >>= next) = .error e ↔ first = .error e ∨ ∃ a, first = .ok a ∧ next a = .error e := by
  cases first with
  | error e' =>
    refine ⟨fun is => .inl (congrArg _ (Except.error.inj is)), ?_⟩
    rintro (is | ⟨a, no, -⟩)
    · exact congrArg _ (Except.error.inj is)
    · cases no
  | ok a =>
    refine ⟨fun fails => .inr ⟨a, rfl, fails⟩, ?_⟩
    rintro (no | ⟨a, is, fails⟩)
    · cases no
    · cases is
      exact fails

/-- A mapping that tells values apart succeeds with the image of a value only on that value. -/
theorem except_map_ok {ε α β : Type} {f : α → β} (injective : Function.Injective f)
    {o : Except ε α} {a : α} : o.map f = .ok (f a) ↔ o = .ok a := by
  cases o <;> simp [Except.map, injective.eq_iff]

/-- Mapping the value of an outcome neither adds errors nor takes them away. -/
theorem except_map_error {ε α β : Type} {f : α → β} {o : Except ε α} {e : ε} :
    o.map f = .error e ↔ o = .error e := by
  cases o <;> simp [Except.map]

theorem eq_ok_of_toOption {ε α : Type} {o : Except ε α} {a : α} (is : o.toOption = some a) :
    o = .ok a := by
  cases o with
  | error e => cases is
  | ok b => exact congrArg _ (Option.some.inj is)

section

variable {ε α β : Type} {f : α → Except ε β} {as : List α}

/-- Reading one after the other gives what each is read as. -/
theorem except_mapM_ok {bs : List β} :
    as.mapM f = .ok bs ↔ List.Forall₂ (fun a b => f a = .ok b) as bs := by
  induction as generalizing bs with
  | nil =>
    rw [List.mapM_nil, List.forall₂_nil_left_iff]
    exact ⟨fun done => (Except.ok.inj done).symm, fun is => congrArg _ is.symm⟩
  | cons a as inductionHypothesis =>
    simp only [List.mapM_cons, except_bind_ok, inductionHypothesis, List.forall₂_cons_left_iff]
    constructor
    · rintro ⟨b, first, rest, others, done⟩
      cases done
      exact ⟨b, rest, first, others, rfl⟩
    · rintro ⟨b, rest, first, others, rfl⟩
      exact ⟨b, first, rest, others, rfl⟩

/-- Where all values are mapped, none is dropped by a mapping that skips failures. -/
theorem toOption_of_mapM {bs : List β} (done : as.mapM f = .ok bs) :
    as.filterMap (fun a => (f a).toOption) = bs := by
  have read := except_mapM_ok.mp done
  clear done
  induction read with
  | nil => rfl
  | cons first rest inductionHypothesis =>
    rw [List.filterMap_cons, first, inductionHypothesis]
    rfl

/-- It succeeds if each can be read. -/
theorem except_mapM_exists : (∃ bs, as.mapM f = .ok bs) ↔ ∀ a ∈ as, ∃ b, f a = .ok b := by
  induction as with
  | nil => exact ⟨fun _ => List.forall_mem_nil _, fun _ => ⟨[], List.mapM_nil⟩⟩
  | cons a as inductionHypothesis =>
    simp only [List.mapM_cons, except_bind_ok, List.forall_mem_cons, ← inductionHypothesis]
    constructor
    · rintro ⟨bs, b, first, rest, others, -⟩
      exact ⟨⟨b, first⟩, rest, others⟩
    · rintro ⟨⟨b, first⟩, rest, others⟩
      exact ⟨b :: rest, b, first, rest, others, rfl⟩

/-- It fails as the first one does that cannot be read. -/
theorem except_mapM_error {e : ε} :
    as.mapM f = .error e ↔
      ∃ before a after, as = before ++ a :: after ∧ (∀ b ∈ before, ∃ c, f b = .ok c) ∧
        f a = .error e := by
  induction as with
  | nil =>
    rw [List.mapM_nil]
    constructor
    · intro impossible
      cases impossible
    · rintro ⟨before, a, after, impossible, -⟩
      cases before <;> cases impossible
  | cons a as inductionHypothesis =>
    simp only [List.mapM_cons, except_bind_error, inductionHypothesis]
    constructor
    · rintro (failed | ⟨b, first, ⟨before, a', after, rfl, all, failed⟩ | ⟨rest, -, impossible⟩⟩)
      · exact ⟨[], a, as, rfl, List.forall_mem_nil _, failed⟩
      · exact ⟨a :: before, a', after, rfl, List.forall_mem_cons.mpr ⟨⟨b, first⟩, all⟩, failed⟩
      · cases impossible
    · rintro ⟨before, a', after, split, all, failed⟩
      cases before with
      | nil =>
        cases split
        exact .inl failed
      | cons b before =>
        cases split
        have ⟨⟨c, first⟩, all⟩ := List.forall_mem_cons.mp all
        exact .inr ⟨c, first, .inl ⟨before, a', after, rfl, all, failed⟩⟩

end

/-- Actions and work on the file tree are effects. -/
abbrev Effect (ε τ α : Type) := ExceptT ε (StateM τ) α

namespace Effect

variable {ε τ α β : Type}

/-- The answer to a state and the state that is left behind. -/
def perform (act : Effect ε τ α) (x : τ) : Except ε α × τ := act.run x

@[simp] theorem perform_pure (a : α) (x : τ) :
    perform (pure a : Effect ε τ α) x = (.ok a, x) := rfl

@[simp] theorem perform_throw (e : ε) (x : τ) :
    perform (throw e : Effect ε τ α) x = (.error e, x) := rfl

@[simp] theorem perform_get (x : τ) : perform (get : Effect ε τ τ) x = (.ok x, x) := rfl

@[simp] theorem perform_modify (f : τ → τ) (x : τ) :
    perform (modify f : Effect ε τ PUnit) x = (.ok ⟨⟩, f x) := rfl

@[simp] theorem perform_lift (o : Except ε α) (x : τ) :
    perform (liftM o : Effect ε τ α) x = (o, x) := by
  cases o <;> rfl

/-- What follows runs on what the first action leaves, unless this one fails. -/
theorem perform_bind (act : Effect ε τ α) (next : α → Effect ε τ β) (x : τ) :
    perform (act >>= next) x =
      match perform act x with
      | (.ok a, y) => perform (next a) y
      | (.error e, y) => (.error e, y) := by
  change ((act.run x).1 |> ExceptT.bindCont next) (act.run x).2 = _
  simp only [perform]
  rcases act.run x with ⟨e | a, y⟩ <;> rfl

/-- After an action that succeeds, the rest runs with its answer. -/
theorem perform_bind_ok {act : Effect ε τ α} {x y : τ} {a : α}
    (done : perform act x = (.ok a, y)) (next : α → Effect ε τ β) :
    perform (act >>= next) x = perform (next a) y := by
  rw [perform_bind, done]

/-- An action that fails leaves the rest out. -/
theorem perform_bind_error {act : Effect ε τ α} {x y : τ} {e : ε}
    (failed : perform act x = (.error e, y)) (next : α → Effect ε τ β) :
    perform (act >>= next) x = (.error e, y) := by
  rw [perform_bind, failed]

/-- An effect in two parts succeeds if both parts do. -/
theorem perform_bind_eq_ok {act : Effect ε τ α} {next : α → Effect ε τ β} {x z : τ} {b : β} :
    perform (act >>= next) x = (.ok b, z) ↔
      ∃ a y, perform act x = (.ok a, y) ∧ perform (next a) y = (.ok b, z) := by
  constructor
  · intro done
    rcases first : perform act x with ⟨e | a, y⟩
    · rw [perform_bind_error first] at done
      cases done
    · rw [perform_bind_ok first] at done
      exact ⟨a, y, rfl, done⟩
  · rintro ⟨a, y, first, done⟩
    rw [perform_bind_ok first, done]

/-- It fails as the part does that fails first. -/
theorem perform_bind_eq_error {act : Effect ε τ α} {next : α → Effect ε τ β} {x z : τ} {e : ε} :
    perform (act >>= next) x = (.error e, z) ↔
      perform act x = (.error e, z) ∨
        ∃ a y, perform act x = (.ok a, y) ∧ perform (next a) y = (.error e, z) := by
  rcases first : perform act x with ⟨e' | a, y⟩
  · rw [perform_bind_error first]
    simp
  · rw [perform_bind_ok first]
    simp

/-- What follows an effect matters only where the effect succeeds. -/
theorem perform_bind_congr {act : Effect ε τ α} {next next' : α → Effect ε τ β} {x : τ}
    (same : ∀ a y, perform act x = (.ok a, y) → perform (next a) y = perform (next' a) y) :
    perform (act >>= next) x = perform (act >>= next') x := by
  rcases done : perform act x with ⟨e | a, y⟩
  · rw [perform_bind_error done, perform_bind_error done]
  · rw [perform_bind_ok done, perform_bind_ok done]
    exact same a y done

/-- An answer can be changed after the fact without any effect. -/
theorem perform_bind_pure (act : Effect ε τ α) (f : α → β) (x : τ) :
    perform (act >>= fun a => pure (f a)) x = ((perform act x).1.map f, (perform act x).2) := by
  rw [perform_bind]
  rcases perform act x with ⟨e | a, y⟩ <;> rfl

/-- A handler runs on what the failed action has left behind. -/
theorem perform_tryCatch (act : Effect ε τ α) (handler : ε → Effect ε τ α) (x : τ) :
    perform (tryCatch act handler) x =
      match perform act x with
      | (.ok a, y) => (.ok a, y)
      | (.error e, y) => perform (handler e) y := by
  change (match (act.run x).1 with
    | .ok a => pure (.ok a)
    | .error e => (handler e).run : StateM τ (Except ε α)) (act.run x).2 = _
  simp only [perform]
  rcases act.run x with ⟨e | a, y⟩ <;> rfl

/-- From states of a kind the effect leads to states of the same kind, and its answers are good. -/
def Keeps (kept : τ → Prop) (good : α → Prop) (act : Effect ε τ α) : Prop :=
  ∀ x, kept x → kept (perform act x).2 ∧ ∀ a, (perform act x).1 = .ok a → good a

variable {kept : τ → Prop} {good : α → Prop} {better : β → Prop}

/-- An answer alone keeps everything. -/
theorem keeps_pure {a : α} (is : good a) : Keeps kept good (pure a : Effect ε τ α) := by
  intro x known
  constructor
  · exact known
  · intro b answered
    cases answered
    exact is

/-- An error alone keeps everything. -/
theorem keeps_throw (e : ε) : Keeps kept good (throw e : Effect ε τ α) := by
  intro x known
  constructor
  · exact known
  · intro b impossible
    cases impossible

theorem keeps_lift {o : Except ε α} (are : ∀ a, o = .ok a → good a) :
    Keeps kept good (liftM o : Effect ε τ α) := by
  intro x known
  rw [perform_lift]
  exact ⟨known, are⟩

/-- What two actions keep is kept by one after the other. -/
theorem Keeps.bind {act : Effect ε τ α} {next : α → Effect ε τ β} (first : Keeps kept good act)
    (rest : ∀ a, good a → Keeps kept better (next a)) : Keeps kept better (act >>= next) := by
  intro x known
  have ⟨left, answers⟩ := first x known
  rw [perform_bind]
  rcases answered : perform act x with ⟨e | a, y⟩
  · rw [answered] at left
    constructor
    · exact left
    · intro b impossible
      cases impossible
  · rw [answered] at left answers
    exact rest a (answers a rfl) y left

/-- What an action and its handler keep is kept by both together. -/
theorem Keeps.tryCatch {act : Effect ε τ α} {handler : ε → Effect ε τ α}
    (first : Keeps kept good act) (caught : ∀ e, Keeps kept good (handler e)) :
    Keeps kept good (MonadExcept.tryCatch act handler) := by
  intro x known
  have ⟨left, answers⟩ := first x known
  rw [perform_tryCatch]
  rcases answered : perform act x with ⟨e | a, y⟩
  · rw [answered] at left
    exact caught e y left
  · rw [answered] at left answers
    exact ⟨left, answers⟩

/-- Where the effect succeeds, it leads from one kind of states to another. -/
def Ensures (start finish : τ → Prop) (act : Effect ε τ α) : Prop :=
  ∀ x, start x → ∀ a, (perform act x).1 = .ok a → finish (perform act x).2

variable {start finish : τ → Prop}

/-- An action that always fails ensures anything of its successes. -/
theorem ensures_throw (e : ε) : Ensures start finish (throw e : Effect ε τ α) := by
  intro x known a impossible
  cases impossible

/-- What follows an effect that keeps to the kind of its start. -/
theorem Keeps.ensures {act : Effect ε τ α} {next : α → Effect ε τ β} (first : Keeps start good act)
    (rest : ∀ a, good a → Ensures start finish (next a)) : Ensures start finish (act >>= next) := by
  intro x known b succeeded
  have ⟨left, answers⟩ := first x known
  rw [perform_bind] at succeeded ⊢
  rcases answered : perform act x with ⟨e | a, y⟩
  · rw [answered] at succeeded
    cases succeeded
  · rw [answered] at left answers succeeded
    exact rest a (answers a rfl) y left b succeeded

/-- What is reached stays if the rest keeps to it. -/
theorem Ensures.bind {act : Effect ε τ α} {next : α → Effect ε τ β}
    (first : Ensures start finish act) (rest : ∀ a, Keeps finish (fun _ => True) (next a)) :
    Ensures start finish (act >>= next) := by
  intro x known b succeeded
  rw [perform_bind] at succeeded ⊢
  rcases answered : perform act x with ⟨e | a, y⟩
  · rw [answered] at succeeded
    cases succeeded
  · have reached := first x known a (by rw [answered])
    rw [answered] at reached
    exact (rest a y reached).1

/-- A handler has to ensure the same from any state. -/
theorem Ensures.tryCatch {act : Effect ε τ α} {handler : ε → Effect ε τ α}
    (first : Ensures start finish act) (caught : ∀ e, Ensures (fun _ => True) finish (handler e)) :
    Ensures start finish (MonadExcept.tryCatch act handler) := by
  intro x known a succeeded
  rw [perform_tryCatch] at succeeded ⊢
  rcases answered : perform act x with ⟨e | b, y⟩
  · rw [answered] at succeeded
    exact caught e y trivial a succeeded
  · have reached := first x known b (by rw [answered])
    rw [answered] at reached
    exact reached

/-- From states of a kind the effect leads to states of the same kind if it fails. -/
def Spares (kept : τ → Prop) (act : Effect ε τ α) : Prop :=
  ∀ x, kept x → ∀ e, (perform act x).1 = .error e → kept (perform act x).2

/-- What follows an effect that keeps to the kind of its start. -/
theorem Keeps.spares {act : Effect ε τ α} {next : α → Effect ε τ β} (first : Keeps kept good act)
    (rest : ∀ a, good a → Spares kept (next a)) : Spares kept (act >>= next) := by
  intro x known e failed
  have ⟨left, answers⟩ := first x known
  rw [perform_bind] at failed ⊢
  rcases answered : perform act x with ⟨e' | a, y⟩
  · rw [answered] at left
    exact left
  · rw [answered] at left answers failed
    exact rest a (answers a rfl) y left e failed

/-- Changing an answer spares what the action spares. -/
theorem Spares.bind_pure {act : Effect ε τ α} (spares : Spares kept act) (f : α → β) :
    Spares kept (act >>= fun a => pure (f a)) := by
  intro x known e failed
  rw [perform_bind_pure] at failed ⊢
  refine spares x known e ?_
  cases answered : (perform act x).1 with
  | error e' =>
    rw [answered] at failed
    cases failed
    rfl
  | ok a =>
    rw [answered] at failed
    cases failed

end Effect

/-- To look at a path changes nothing. -/
theorem Disk.perform_probe (p : Path) (t : FileTree) :
    Effect.perform (Disk.probe p) t = (t.probe p, t) := by
  rw [Disk.probe, Effect.perform_bind_ok (Effect.perform_get t)]
  exact Effect.perform_lift _ t

namespace Action

open Effect

variable {σ τ α : Type}

@[simp] theorem perform_state (s : σ) (w : World) :
    perform (state : Action σ σ) (s, w) = (.ok s, (s, w)) := rfl

@[simp] theorem perform_setState (s s' : σ) (w : World) :
    perform (setState s') (s, w) = (.ok (), (s', w)) := rfl

@[simp] theorem perform_world (s : σ) (w : World) :
    perform (world : Action σ World) (s, w) = (.ok w, (s, w)) := rfl

@[simp] theorem perform_files (s : σ) (w : World) :
    perform (files : Action σ FileTree) (s, w) = (.ok w.files, (s, w)) := rfl

@[simp] theorem perform_onWorld (f : World → World) (s : σ) (w : World) :
    perform (onWorld f : Action σ Unit) (s, w) = (.ok (), (s, f w)) := rfl

@[simp] theorem perform_objects (s : σ) (w : World) :
    perform (objects : Action σ Objects) (s, w) = (.ok w.objects, (s, w)) := rfl

@[simp] theorem perform_adopt (v : Value) (s : σ) (w : World) :
    perform (adopt v : Action σ Value) (s, w) =
      (.ok (w.objects.adopt v).1, (s, { w with objects := (w.objects.adopt v).2 })) := rfl

@[simp] theorem perform_readClock (s : σ) (w : World) :
    perform (readClock : Action σ Nat) (s, w) =
      (.ok (w.clock.headD 0), (s, { w with clock := w.clock.drop 1 })) := rfl

@[simp] theorem perform_log (level : Level) (message : Text) (s : σ) (w : World) :
    perform (log level message : Action σ Unit) (s, w) =
      (.ok (), (s, { w with log := w.log ++ [⟨level, message⟩] })) := rfl

@[simp] theorem perform_ofOutcome (o : Outcome α) (x : σ × World) :
    perform (ofOutcome o : Action σ α) x = (o, x) :=
  perform_lift o x

/-- Work on the files leaves the rest of the world alone. -/
theorem perform_onDisk (act : Disk α) (s : σ) (w : World) :
    perform (onDisk act : Action σ α) (s, w) =
      (Outcome.ofFault (perform act w.files).1,
        (s, { w with files := (perform act w.files).2 })) := by
  simp only [onDisk, perform_bind, perform_files]
  rfl

/-- Work on the files that succeeds, in a world that is written out. -/
theorem perform_onDisk_ok {act : Disk α} {t t' : FileTree} {a : α}
    (done : perform act t = (.ok a, t')) (s : σ) (log : Log) (asked : List Request)
    (runs : List Invocation) (objects : Objects) (clock : List Nat) :
    perform (onDisk act : Action σ α) (s, ⟨t, log, asked, runs, objects, clock⟩) =
      (.ok a, (s, ⟨t', log, asked, runs, objects, clock⟩)) := by
  rw [perform_onDisk, done]
  rfl

/-- Work on the files that fails, in a world that is written out. -/
theorem perform_onDisk_error {act : Disk α} {t t' : FileTree} {f : Fault}
    (failed : perform act t = (.error f, t')) (s : σ) (log : Log) (asked : List Request)
    (runs : List Invocation) (objects : Objects) (clock : List Nat) :
    perform (onDisk act : Action σ α) (s, ⟨t, log, asked, runs, objects, clock⟩) =
      (.error (.fault f), (s, ⟨t', log, asked, runs, objects, clock⟩)) := by
  rw [perform_onDisk, failed]
  rfl

/-- What follows an outcome succeeds exactly if the outcome is a value from which it does. -/
theorem perform_ofOutcome_bind_eq_ok {β : Type} {o : Outcome α} {next : α → Action σ β}
    {x z : σ × World} {b : β} :
    perform (ofOutcome o >>= next) x = (.ok b, z) ↔
      ∃ a, o = .ok a ∧ perform (next a) x = (.ok b, z) := by
  simp only [perform_bind_eq_ok, perform_ofOutcome, Prod.mk.injEq, and_assoc, exists_eq_left',
    exists_and_left]

/-- Work on the files succeeds exactly if it does so on the tree alone. -/
theorem perform_onDisk_eq_ok {act : Disk α} {s : σ} {w : World} {a : α} {x : σ × World} :
    perform (onDisk act) (s, w) = (.ok a, x) ↔
      ∃ t, perform act w.files = (.ok a, t) ∧ x = (s, { w with files := t }) := by
  rw [perform_onDisk]
  rcases perform act w.files with ⟨f | b, t⟩
  · constructor
    · intro impossible
      cases impossible
    · rintro ⟨_, impossible, -⟩
      cases impossible
  · constructor
    · intro done
      cases done
      exact ⟨t, rfl, rfl⟩
    · rintro ⟨_, done, rfl⟩
      cases done
      rfl

/-- The same for work on the files that other actions follow. -/
theorem perform_onDisk_bind_eq_ok {β : Type} {act : Disk α} {next : α → Action σ β} {s : σ}
    {w : World} {x : σ × World} {b : β} :
    perform (onDisk act >>= next) (s, w) = (.ok b, x) ↔
      ∃ a t, perform act w.files = (.ok a, t) ∧
        perform (next a) (s, { w with files := t }) = (.ok b, x) := by
  simp only [perform_bind_eq_ok, perform_onDisk_eq_ok]
  constructor
  · rintro ⟨a, _, ⟨t, done, rfl⟩, rest⟩
    exact ⟨a, t, done, rest⟩
  · rintro ⟨a, t, done, rest⟩
    exact ⟨a, _, ⟨t, done, rfl⟩, rest⟩

/-- An error comes from the outcome itself or from what follows it. -/
theorem perform_ofOutcome_bind_eq_error {β : Type} {o : Outcome α} {next : α → Action σ β}
    {x z : σ × World} {e : BuildError} :
    perform (ofOutcome o >>= next) x = (.error e, z) ↔
      o = .error e ∧ x = z ∨ ∃ a, o = .ok a ∧ perform (next a) x = (.error e, z) := by
  simp only [perform_bind_eq_error, perform_ofOutcome, Prod.mk.injEq, and_assoc, exists_eq_left',
    exists_and_left]

/-- A process that was run is on record, whatever becomes of it. -/
theorem perform_run (runner : ProcessRunner) (i : Invocation) (s : σ) (w : World) :
    perform (runner.run i : Action σ ProcessResult) (s, w) =
      (Outcome.ofFault (runner w.runs i w.files).result,
        (s, { w with
          files := (runner w.runs i w.files).files
          log := w.log ++ (runner w.runs i w.files).log
          runs := w.runs ++ [i] })) := by
  simp only [ProcessRunner.run, perform_bind, perform_world, perform_onWorld, perform_ofOutcome]

/-- The action asks for no library, runs no process, and leads from good states to good ones. -/
def Quiet (good : σ → Prop) (act : Action σ α) : Prop :=
  ∀ asked runs, Keeps (fun x : σ × World => good x.1 ∧ x.2.asked = asked ∧ x.2.runs = runs)
    (fun _ => True) act

variable {β : Type} {good : σ → Prop}

/-- Two quiet actions are quiet one after the other. -/
theorem Quiet.bind {act : Action σ α} {next : α → Action σ β} (first : Quiet good act)
    (rest : ∀ a, Quiet good (next a)) : Quiet good (act >>= next) :=
  fun asked runs => (first asked runs).bind fun a _ => rest a asked runs

theorem quiet_pure (a : α) : Quiet good (pure a : Action σ α) :=
  fun _ _ => keeps_pure trivial

theorem quiet_throw (e : BuildError) : Quiet good (throw e : Action σ α) :=
  fun _ _ => keeps_throw e

theorem quiet_ofOutcome (o : Outcome α) : Quiet good (ofOutcome o : Action σ α) :=
  fun _ _ => keeps_lift fun _ _ => trivial

theorem quiet_state : Quiet good (state : Action σ σ) :=
  fun _ _ _ known => ⟨known, fun _ _ => trivial⟩

/-- What follows may depend on the state, which is good. -/
theorem Quiet.ofState {next : σ → Action σ α} (rest : ∀ s, good s → Quiet good (next s)) :
    Quiet good (state >>= next) := by
  intro asked runs x known
  rw [perform_bind_ok (perform_state x.1 x.2)]
  exact rest x.1 known.1 asked runs x known

theorem quiet_setState {s : σ} (is : good s) : Quiet good (setState s) :=
  fun _ _ _ known => ⟨⟨is, known.2⟩, fun _ _ => trivial⟩

/-- What follows may depend on the objects. -/
theorem Quiet.ofObjects {next : Objects → Action σ α} (rest : ∀ o, Quiet good (next o)) :
    Quiet good (objects >>= next) :=
  fun asked runs x known => rest x.2.objects asked runs x known

theorem quiet_files : Quiet good (files : Action σ FileTree) :=
  fun _ _ _ known => ⟨known, fun _ _ => trivial⟩

/-- An update of the world that leaves the requests and the runs. -/
theorem quiet_onWorld {f : World → World} (leaves : ∀ w, (f w).asked = w.asked ∧ (f w).runs = w.runs) :
    Quiet good (onWorld f : Action σ Unit) := by
  intro asked runs x ⟨is, before⟩
  have ⟨sameAsked, sameRuns⟩ := leaves x.2
  exact ⟨⟨is, sameAsked.trans before.1, sameRuns.trans before.2⟩, fun _ _ => trivial⟩

/-- A log entry asks for nothing and runs nothing. -/
theorem quiet_log (level : Level) (message : Text) :
    Quiet good (log level message : Action σ Unit) :=
  quiet_onWorld fun _ => ⟨rfl, rfl⟩

/-- Work on the files asks for nothing and runs nothing. -/
theorem quiet_onDisk (act : Disk α) : Quiet good (onDisk act : Action σ α) := by
  intro asked runs ⟨s, w⟩ known
  rw [perform_onDisk]
  exact ⟨known, fun _ _ => trivial⟩

/-- Actions on good states that only concern the file tree. -/
def OnFiles (good : σ → Prop) (kept : FileTree → Prop) (x : σ × World) : Prop :=
  good x.1 ∧ kept x.2.files

variable {kept finish : FileTree → Prop}

/-- An outcome keeps state and files. -/
theorem keepsFiles_ofOutcome {o : Outcome α} {answers : α → Prop}
    (are : ∀ a, o = .ok a → answers a) :
    Keeps (OnFiles good kept) answers (ofOutcome o : Action σ α) :=
  keeps_lift are

/-- A log entry keeps state and files. -/
theorem keepsFiles_log (level : Level) (message : Text) :
    Keeps (OnFiles good kept) (fun _ => True) (log level message : Action σ Unit) :=
  fun _ known => ⟨known, fun _ _ => trivial⟩

theorem keepsFiles_state : Keeps (OnFiles good kept) good (state : Action σ σ) := by
  intro x known
  constructor
  · exact known
  · intro s answered
    cases answered
    exact known.1

theorem keepsFiles_files : Keeps (OnFiles good kept) kept (files : Action σ FileTree) := by
  intro x known
  constructor
  · exact known
  · intro t answered
    cases answered
    exact known.2

/-- What work on the files keeps is kept by the action, and the state stays. -/
theorem keepsFiles_onDisk {act : Disk α} {answers : α → Prop} (keeps : Keeps kept answers act) :
    Keeps (OnFiles good kept) answers (onDisk act : Action σ α) := by
  intro ⟨s, w⟩ known
  have ⟨left, are⟩ := keeps w.files known.2
  rw [perform_onDisk]
  constructor
  · exact ⟨known.1, left⟩
  · intro a answered
    cases done : (perform act w.files).1 with
    | error f =>
      rw [done] at answered
      cases answered
    | ok b =>
      rw [done] at answered
      cases answered
      exact are a done

/-- What failing work on the files spares is spared by the action. -/
theorem sparesFiles_onDisk {act : Disk α} (spares : Spares kept act) :
    Spares (OnFiles good kept) (onDisk act : Action σ α) := by
  intro ⟨s, w⟩ known e failed
  rw [perform_onDisk] at failed ⊢
  cases done : (perform act w.files).1 with
  | error f => exact ⟨known.1, spares w.files known.2 f done⟩
  | ok a =>
    rw [done] at failed
    cases failed

/-- What work on the files ensures is ensured by the action. -/
theorem ensuresFiles_onDisk {act : Disk α} (ensures : Ensures kept finish act) :
    Ensures (OnFiles good kept) (OnFiles good finish) (onDisk act : Action σ α) := by
  intro ⟨s, w⟩ known a succeeded
  rw [perform_onDisk] at succeeded ⊢
  cases done : (perform act w.files).1 with
  | error f =>
    rw [done] at succeeded
    cases succeeded
  | ok b => exact ⟨known.1, ensures w.files known.2 b done⟩

end Action

end HaxeBuild
