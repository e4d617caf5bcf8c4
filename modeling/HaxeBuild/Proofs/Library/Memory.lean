import HaxeBuild.Proofs.Library.History

namespace HaxeBuild.LibraryManager

open Effect LibraryReference

/-- The program with this identity was read at the moment, or could have been read. -/
def Moment.reads (identity : Nat) (m : Moment) : Bool :=
  m.subject.identity == identity && (declared m.subject.program).toBool

/-- The moment at which a program was first read. -/
def firstReading (past : List Moment) (identity : Nat) : Option Moment :=
  past.reverse.find? (·.reads identity)

/-- The program as it was when it was first read. Until then it is as it is now. -/
def programRead (past : List Moment) (subject : Subject) : Program :=
  ((firstReading past subject.identity).map (·.subject.program)).getD subject.program

/-- The manager remembers what was found by the first readings, and nothing else. -/
def Remembers (m : LibraryManager) (past : List Moment) : Prop :=
  ∀ identity, m.read.lookup identity =
    (firstReading past identity).bind fun first => (declared first.subject.program).toOption

variable {past : List Moment} {m : LibraryManager} {w : World} {subject : Subject}

theorem firstReading_cons (latest : Moment) (past : List Moment) (identity : Nat) :
    firstReading (latest :: past) identity =
      (firstReading past identity).or (if latest.reads identity then some latest else none) := by
  rw [firstReading, List.reverse_cons, List.find?_append, firstReading, List.find?_singleton]

theorem exists_declared_of_reads {identity : Nat} {first : Moment}
    (reads : first.reads identity = true) :
    ∃ ls, declared first.subject.program = .ok ls := by
  have ⟨_, read⟩ := Bool.and_eq_true_iff.mp reads
  cases found : declared first.subject.program with
  | error e =>
    rw [found] at read
    cases read
  | ok ls => exact ⟨ls, rfl⟩

theorem reads_of_firstReading {identity : Nat} {first : Moment}
    (found : firstReading past identity = some first) : first.reads identity = true :=
  List.find?_some found

namespace Remembers

/-- A later call about any program leaves the memory right. -/
theorem remember (remembers : m.Remembers past) (latest : Moment) :
    (m.remember latest.subject).Remembers (latest :: past) := by
  intro identity
  rw [lookup_remember, remembers, firstReading_cons]
  cases found : firstReading past identity with
  | some first =>
    obtain ⟨ls, read⟩ := exists_declared_of_reads (reads_of_firstReading found)
    simp only [Option.bind_some, read, Except.toOption, Option.some_or]
  | none =>
    rw [Option.bind_none, Option.none_or, Option.none_or, Moment.reads]
    by_cases same : latest.subject.identity = identity
    · rcases read : declared latest.subject.program with e | ls <;>
        simp [same, read, Except.toOption, Except.toBool]
    · simp [same]

theorem declaredNow_eq (remembers : m.Remembers past) (subject : Subject) :
    m.declaredNow subject = declared (programRead past subject) := by
  rw [declaredNow, remembers, programRead]
  cases found : firstReading past subject.identity with
  | none => rfl
  | some first =>
    obtain ⟨ls, read⟩ := exists_declared_of_reads (reads_of_firstReading found)
    simp only [Option.bind_some, read, Except.toOption, Option.map_some, Option.getD_some]

theorem requiredNow_eq (remembers : m.Remembers past) (subject : Subject) (s : Option Settings) :
    m.requiredNow subject s =
      declared (programRead past subject) >>= fun ls => withSettings ls s := by
  rw [requiredNow, remembers.declaredNow_eq]

theorem areDistinct (remembers : m.Remembers past) (subject : Subject) (s : Option Settings)
    (ls : List LibraryReference) (listed : m.requiredNow subject s = .ok ls) : AreDistinct ls := by
  rw [remembers.requiredNow_eq] at listed
  obtain ⟨first, read, joined⟩ := except_bind_ok.mp listed
  exact areDistinct_withSettings (areDistinct_declared read) joined

end Remembers

theorem Managed.remembers (managed : Managed past m w) : m.Remembers past := by
  induction managed with
  | created => exact fun identity => rfl
  | @next past m w managed subject call inductionHypothesis =>
    have goes := goes_call (inductionHypothesis.areDistinct subject) call w
    have memory := inductionHypothesis.remember (call.moment subject (m, w))
    intro identity
    rw [← memory identity]
    exact congrArg (List.lookup identity) goes.read_eq

/-- What cannot be read now has never been read before. -/
theorem programRead_of_error {e : BuildError}
    (bad : declared (programRead past subject) = .error e) :
    programRead past subject = subject.program := by
  rw [programRead] at bad ⊢
  cases found : firstReading past subject.identity with
  | none => rfl
  | some first =>
    obtain ⟨ls, read⟩ := exists_declared_of_reads (reads_of_firstReading found)
    rw [found, Option.map_some, Option.getD_some, read] at bad
    cases bad

theorem moment_libraries (m : LibraryManager) (w : World) (subject : Subject) :
    let listing := Call.libraries.moment subject (m, w)
    listing.answer = (m.declaredNow subject).map .libraries ∧
      listing.after = (m.remember subject, w) := by
  simp only [Call.moment, Call.act, perform_bind_pure, perform_libraries, and_self]

theorem moment_required (m : LibraryManager) (w : World) (subject : Subject)
    (s : Option Settings) :
    let listing := (Call.required s).moment subject (m, w)
    listing.answer = (m.requiredNow subject s).map .libraries ∧
      listing.after = (m.remember subject, w) := by
  simp only [Call.moment, Call.act, perform_bind_pure, perform_required, and_self]

theorem map_libraries_eq_ok {o : Outcome (List LibraryReference)} {ls : List LibraryReference} :
    o.map Answer.libraries = .ok (.libraries ls) ↔ o = .ok ls := by
  cases o <;> simp [Except.map]

/-- A manager lists the first declared library of each form as the program was when it was first
read, and then what the settings add. A program that cannot be read is read again the next time. -/
theorem lists_first_reading (managed : Managed past m w) (subject : Subject) :
    let program := programRead past subject
    let listing := Call.libraries.moment subject (m, w)
    (∀ ls, listing.answer = .ok (.libraries ls) ↔ Lists program ls) ∧
      (∀ e, listing.answer = .error e → program = subject.program ∧ listing.after = (m, w)) ∧
      ∀ s required,
        ((Call.required s).moment subject (m, w)).answer = .ok (.libraries required) ↔
          ∃ ls added, Lists program ls ∧ Adds s ls added ∧ required = ls ++ added := by
  have remembers := managed.remembers
  have ⟨listed, after⟩ := moment_libraries m w subject
  refine ⟨fun ls => ?_, fun e failed => ?_, fun s required => ?_⟩
  · rw [listed, map_libraries_eq_ok, remembers.declaredNow_eq, declared_eq_ok]
  · rw [listed] at failed
    rw [after]
    rcases bad : m.declaredNow subject with e' | ls
    · rw [remember_of_error bad]
      rw [remembers.declaredNow_eq] at bad
      exact ⟨programRead_of_error bad, rfl⟩
    · rw [bad] at failed
      cases failed
  · rw [(moment_required m w subject s).1, map_libraries_eq_ok, remembers.requiredNow_eq,
      except_bind_ok]
    constructor
    · rintro ⟨ls, read, joined⟩
      obtain ⟨added, adds, rfl⟩ :=
        (withSettings_eq_ok (areDistinct_declared read)).mp joined
      exact ⟨ls, added, declared_eq_ok.mp read, adds, rfl⟩
    · rintro ⟨ls, added, lists, adds, rfl⟩
      have read := declared_eq_ok.mpr lists
      exact ⟨ls, read, (withSettings_eq_ok (areDistinct_declared read)).mpr ⟨added, adds, rfl⟩⟩

namespace Small

/-- A value of the program cannot be read at first; later the program declares more. -/
def reread : List Moment × LibraryManager × World :=
  follow [(declaring [.text ""], .libraries), (declaring values, .libraries)] [] start

end Small

theorem lists_first_reading_reread :
    Managed Small.reread.1 Small.reread.2.1 Small.reread.2.2 ∧
      Lists (programRead Small.reread.1 (Small.declaring (Small.values ++ [.text "lime"])))
        [⟨"format", none⟩, ⟨"hxcpp", some "4.3"⟩] := by
  have managed := Small.managed_start.follow
    [(Small.declaring [.text ""], .libraries), (Small.declaring Small.values, .libraries)]
  have listed := (lists_first_reading managed (Small.declaring (Small.values ++ [.text "lime"]))).1
    [⟨"format", none⟩, ⟨"hxcpp", some "4.3"⟩]
  exact ⟨managed, listed.mp (by decide +kernel)⟩

end HaxeBuild.LibraryManager
