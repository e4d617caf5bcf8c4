import HaxeBuild.Proofs.Library.Memory

namespace HaxeBuild

open Effect

namespace LibraryReference

/-- Whatever the program declares and the settings name is a library. -/
structure Readable (p : Program) (s : Option Settings) : Prop where
  values : ∀ v ∈ Value.flattenAll (p.metadata .addLibraries), ∃ l, ofDeclared v = .valid l
  named : ∀ v ∈ written s, ∃ l, ofNamed v = .ok l

variable {p : Program} {s : Option Settings}

theorem readable_iff :
    Readable p s ↔ ∃ required, (declared p >>= fun ls => withSettings ls s) = .ok required := by
  constructor
  · intro readable
    have valid : ∀ v ∈ Value.flattenAll (p.metadata .addLibraries),
        ∃ l, (ofDeclared v).orFail = .ok l := fun v among =>
      (readable.values v among).imp fun _ => Checked.orFail_eq_ok.mpr
    obtain ⟨all, read⟩ := readAll_exists.mpr valid
    obtain ⟨more, named⟩ := readAll_exists.mpr readable.named
    have lists : declared p = .ok (distinct all) := except_bind_ok.mpr ⟨all, read, rfl⟩
    have joined := withSettings_eq (areDistinct_distinct all) s
    rw [named] at joined
    exact ⟨_, except_bind_ok.mpr ⟨distinct all, lists, joined⟩⟩
  · rintro ⟨required, joined⟩
    obtain ⟨ls, lists, joined⟩ := except_bind_ok.mp joined
    have different := areDistinct_declared lists
    obtain ⟨all, read, -⟩ := except_bind_ok.mp lists
    obtain ⟨added, ⟨more, named, -⟩, -⟩ := (withSettings_eq_ok different).mp joined
    refine ⟨fun v among => ?_, readAll_exists.mp ⟨more, readAll_eq_ok.mpr named⟩⟩
    exact (readAll_exists.mp ⟨all, read⟩ v among).imp fun _ => Checked.orFail_eq_ok.mp

/-- Whatever else is declared or named by a text is reported as invalid. -/
theorem invalid_of_error {e : BuildError}
    (bad : (declared p >>= fun ls => withSettings ls s) = .error e) (texts : OfTexts s) :
    ∃ issues, e = .invalid issues := by
  rcases except_bind_error.mp bad with unread | ⟨ls, read, unnamed⟩
  · obtain ⟨-, v, -, -, -, flawed⟩ := readAll_eq_error.mp (declared_eq_error.mp unread)
    obtain ⟨issues, -, is⟩ := Checked.orFail_eq_error.mp flawed
    exact ⟨issues, is⟩
  · have different := areDistinct_declared read
    obtain ⟨before, v, after, split, -, flawed⟩ :=
      readAll_eq_error.mp ((withSettings_eq_error different).mp unnamed)
    obtain ⟨t, rfl⟩ := texts v (split ▸ List.mem_append_right _ List.mem_cons_self)
    obtain ⟨issues, -, is⟩ := Checked.orFail_eq_error.mp (ofNamed_text.symm.trans flawed)
    exact ⟨issues, is⟩

end LibraryReference

namespace LibraryManager

open LibraryReference

variable {past : List Moment} {m : LibraryManager} {w : World}

theorem Ledger.goes {subject : Subject} {call : Call} {o : Outcome Answer} {m' : LibraryManager}
    {w' : World} (ledger : Ledger m w.asked)
    (different : ∀ s ls, m.requiredNow subject s = .ok ls → AreDistinct ls)
    (goes : Goes subject m w call o m' w') : Ledger m' w'.asked := by
  cases goes with
  | @installed source s ls rs o m' w' listed supply =>
    rw [← pending_remember m subject] at supply
    exact (ledger.remember subject).supply (different s ls listed) supply
  | _ => exact ledger.remember subject

/-- However a manager was used, what is installed is what was accepted. -/
theorem Managed.ledger (managed : Managed past m w) : Ledger m w.asked := by
  induction managed with
  | created => exact ⟨rfl, List.Pairwise.nil⟩
  | @next past m w managed subject call inductionHypothesis =>
    have different := managed.remembers.areDistinct subject
    exact inductionHypothesis.goes different (goes_call different call w)

/-- The source is asked for the required libraries that are missing, up to the first one that it
does not accept, and never again for one that it accepted. It is asked for nothing if something
cannot be read, and only by installations. -/
theorem asks_for_missing (managed : Managed past m w) (subject : Subject) :
    (w.asked.Pairwise fun a b => a.accepted = true → b.library.canonical ≠ a.library.canonical) ∧
      (∀ call : Call, call.installs = false →
        let after := (call.moment subject (m, w)).after
        after.1.installed = m.installed ∧ after.2 = w) ∧
      ∀ source s,
        let now := (Call.installRequired source s).moment subject (m, w)
        (¬ Readable (programRead past subject) s →
          (∃ e, now.answer = .error e ∧ (OfTexts s → ∃ issues, e = .invalid issues)) ∧
            now.after.1.installed = m.installed ∧ now.after.2 = w) ∧
        (Readable (programRead past subject) s → ∃ required rs,
          ((Call.required s).moment subject (m, w)).answer = .ok (.libraries required) ∧
            Supply source (m.remember subject) w (m.pending required) rs now.after.1 now.after.2 ∧
            Request.Ends rs (.libraries required) now.answer) := by
  have remembers := managed.remembers
  have different := remembers.areDistinct subject
  refine ⟨managed.ledger.once, fun call other => ?_, fun source s => ?_⟩
  · have goes := goes_call different call w
    rcases performed : perform (call.act subject) (m, w) with ⟨o, m', w'⟩
    rw [performed] at goes
    simp only [Call.moment, performed]
    cases goes with
    | unreadable => cases other
    | installed => cases other
    | _ => exact ⟨remember_installed m subject, rfl⟩
  · have goes := goes_call different (.installRequired source s) w
    have listing := remembers.requiredNow_eq subject s
    rw [readable_iff, ← listing, (moment_required m w subject s).1]
    rcases performed : perform ((Call.installRequired source s).act subject) (m, w)
      with ⟨o, m', w'⟩
    rw [performed] at goes
    simp only [Call.moment, performed, map_libraries_eq_ok]
    cases goes with
    | @unreadable _ _ e bad =>
      have invalid := invalid_of_error (listing.symm.trans bad)
      refine ⟨fun _ => ⟨⟨e, rfl, invalid⟩, remember_installed m subject, rfl⟩, ?_⟩
      rintro ⟨required, listed⟩
      rw [bad] at listed
      cases listed
    | @installed _ _ ls rs _ _ _ listed supply ends =>
      refine ⟨fun unreadable => absurd ⟨ls, listed⟩ unreadable, fun _ => ?_⟩
      exact ⟨ls, rs, listed, supply, ends⟩

namespace Small

/-- The source lacks one of the libraries. -/
def declined : List Moment × LibraryManager × World :=
  follow [(declaring values, .installRequired (offering ["format"]) none)] [] start

/-- The installation is tried again with another source. -/
def retried : Moment :=
  (Call.installRequired (offering ["format", "hxcpp"]) none).moment (declaring values) declined.2

end Small

theorem asks_for_missing_retried :
    Small.declined.2.2.asked.map (·.accepted) = [true, false] ∧
      Readable (programRead Small.declined.1 (Small.declaring Small.values)) none ∧
      ∃ required rs, Small.retried.after.2.asked = Small.declined.2.2.asked ++ rs ∧
        rs.map (·.library) = [⟨"hxcpp", some "4.3"⟩] ∧
        Request.Ends rs (.libraries required) Small.retried.answer := by
  have managed : Managed Small.declined.1 Small.declined.2.1 Small.declined.2.2 :=
    Small.managed_start.follow _
  have readable : Readable (programRead Small.declined.1 (Small.declaring Small.values)) none :=
    readable_iff.mpr ⟨_, rfl⟩
  obtain ⟨required, rs, listed, supply, ends⟩ :=
    ((asks_for_missing managed (Small.declaring Small.values)).2.2
      (Small.offering ["format", "hxcpp"]) none).2 readable
  have asked : Small.retried.after.2.asked = Small.declined.2.2.asked ++ rs := supply.asked.asked
  have again : Small.retried.after.2.asked.map (·.library) =
      Small.declined.2.2.asked.map (·.library) ++ [⟨"hxcpp", some "4.3"⟩] := by decide +kernel
  rw [asked, List.map_append] at again
  exact ⟨by decide +kernel, readable, required, rs, asked, List.append_cancel_left again, ends⟩

end LibraryManager

end HaxeBuild
