import HaxeBuild.Proofs.Library.Distinct

namespace HaxeBuild.LibraryManager

open Effect LibraryReference

/-- The declared libraries: those that were found when the program was first read. -/
def declaredNow (m : LibraryManager) (subject : Subject) : Outcome (List LibraryReference) :=
  match m.read.lookup subject.identity with
  | some ls => .ok ls
  | none => declared subject.program

/-- The declared libraries and those of the settings. -/
def requiredNow (m : LibraryManager) (subject : Subject) (s : Option Settings) :
    Outcome (List LibraryReference) := do
  withSettings (← m.declaredNow subject) s

/-- What a manager knows once it was asked about a program. A program that cannot be read is not
remembered. -/
def remember (m : LibraryManager) (subject : Subject) : LibraryManager :=
  match m.read.lookup subject.identity, declared subject.program with
  | none, .ok ls => { m with read := m.read ++ [(subject.identity, ls)] }
  | _, _ => m

variable {m : LibraryManager} {subject : Subject} {ls : List LibraryReference}

@[simp] theorem remember_installed (m : LibraryManager) (subject : Subject) :
    (m.remember subject).installed = m.installed := by
  rw [remember]
  split <;> rfl

theorem remember_of_known (known : m.read.lookup subject.identity = some ls) :
    m.remember subject = m := by
  rw [remember, known]

theorem remember_of_error {e : BuildError} (bad : m.declaredNow subject = .error e) :
    m.remember subject = m := by
  rw [declaredNow] at bad
  split at bad
  · cases bad
  · rename_i unknown
    rw [remember, unknown, bad]

/-- What was remembered before stays as it is. -/
theorem lookup_remember (m : LibraryManager) (subject : Subject) (identity : Nat) :
    (m.remember subject).read.lookup identity =
      (m.read.lookup identity).or
        (if subject.identity = identity then (declared subject.program).toOption else none) := by
  by_cases same : subject.identity = identity
  · subst same
    rw [if_pos rfl, remember]
    cases known : m.read.lookup subject.identity with
    | some ls => simp only [known, Option.some_or]
    | none =>
      rcases declared subject.program with e | ls
      · simp only [known, Except.toOption, Option.or_none]
      · simp [List.lookup_append, known, Except.toOption]
  · have other : (identity == subject.identity) = false := by simp [Ne.symm same]
    rw [if_neg same, Option.or_none, remember]
    split
    · simp [List.lookup_append, List.lookup_cons, other]
    · rfl

/-! ### The calls that do not install -/

theorem perform_libraries (m : LibraryManager) (subject : Subject) (w : World) :
    perform (libraries subject) (m, w) = (m.declaredNow subject, (m.remember subject, w)) := by
  rw [libraries, perform_bind_ok (Action.perform_state ..), declaredNow, remember]
  cases known : m.read.lookup subject.identity with
  | some ls => rfl
  | none =>
    rcases declared subject.program with e | ls
    · exact perform_bind_error (Action.perform_ofOutcome ..) _
    · exact perform_bind_ok (Action.perform_ofOutcome ..) _

theorem perform_required (m : LibraryManager) (subject : Subject) (s : Option Settings)
    (w : World) :
    perform (required subject s) (m, w) = (m.requiredNow subject s, (m.remember subject, w)) := by
  rw [required, perform_bind, perform_libraries, requiredNow]
  rcases m.declaredNow subject with e | ls
  · rfl
  · exact Action.perform_ofOutcome ..

theorem perform_compilerFlags (m : LibraryManager) (subject : Subject) (s : Settings)
    (w : World) :
    perform (compilerFlags subject s) (m, w) =
      ((m.requiredNow subject (some s)).map flags, (m.remember subject, w)) := by
  rw [compilerFlags, perform_bind_pure, perform_required]

theorem requiredNow_eq_ok {s : Option Settings} {required : List LibraryReference} :
    m.requiredNow subject s = .ok required ↔
      ∃ ls, m.declaredNow subject = .ok ls ∧ withSettings ls s = .ok required :=
  except_bind_ok

end HaxeBuild.LibraryManager
