import HaxeBuild.Proofs.Library.Requests
import HaxeBuild.Proofs.Text.Pieces

namespace HaxeBuild

open Effect

namespace LibraryReference

/-- A text names the library. -/
def IsWritten (l : LibraryReference) : Prop := ∃ text, parse text = .valid l

/-- The name has no `@`, and the version is not empty if there is one. -/
structure IsCut (l : LibraryReference) : Prop where
  name : Code.char '@' ∉ l.name
  version : l.version ≠ some []

variable {ls more all : List LibraryReference} {l a b : LibraryReference}

/-- A reference that passes its check has the given parts. -/
theorem eq_of_checked {name : Text} {version : Option Text}
    (accepted : checked name version = .valid l) : l = ⟨name, version⟩ := by
  rw [checked, checkedName] at accepted
  split_ifs at accepted
  · cases accepted
  · cases accepted
  · cases accepted
    rfl

/-- A reference that is read from a text is cut at its first mark. -/
theorem IsWritten.isCut (written : IsWritten l) : IsCut l := by
  obtain ⟨text, read⟩ := written
  have trimmed {part : Text} (clean : Code.char '@' ∉ part) : Code.char '@' ∉ part.trim :=
    fun among => clean ((Text.isInfix_trim part).subset among)
  rw [parse] at read
  dsimp only at read
  split at read
  · rename_i name version found
    rw [eq_of_checked read]
    refine ⟨trimmed ?_, ?_⟩
    · cases cut : Text.cut? "@" text.trim with
      | some pair =>
        rw [cut] at found
        cases found
        exact (Text.cut?_eq_some.mp cut).1
      | none =>
        -- Without an `@` in the whole text there is none before its first colon.
        rw [cut] at found
        obtain ⟨-, whole⟩ := Text.cut?_eq_some.mp found
        have clean := Text.cut?_eq_none.mp cut
        rw [whole] at clean
        exact fun among => clean (List.mem_append_left _ among)
    · dsimp only
      split
      · exact nofun
      · rename_i present
        intro empty
        rw [Option.some.inj empty] at present
        exact present rfl
  · rename_i found
    rw [eq_of_checked read]
    refine ⟨?_, nofun⟩
    cases cut : Text.cut? "@" text.trim with
    | some pair =>
      rw [cut] at found
      cases found
    | none => exact Text.cut?_eq_none.mp cut

/-- A cut reference states the version that it has. -/
theorem IsCut.statedVersion_eq (cut : IsCut l) : l.statedVersion = l.version := by
  rw [statedVersion]
  cases stated : l.version with
  | none => rfl
  | some version =>
    have present : version ≠ [] := fun empty => cut.version (stated.trans (congrArg some empty))
    simp [Option.filter, present]

/-- Name and version are found again in the canonical form. -/
theorem IsCut.cut?_canonical (cut : IsCut l) :
    Text.cut? [.char '@'] l.canonical = l.version.map fun version => (l.name, version) := by
  rw [canonical, joined, cut.statedVersion_eq]
  cases l.version with
  | none => exact Text.cut?_eq_none.mpr cut.name
  | some version =>
    apply Text.cut?_eq_some.mpr
    exact ⟨cut.name, List.append_assoc ..⟩

/-- Cut references are told apart by their canonical texts. -/
theorem IsCut.canonical_inj (first : IsCut a) (second : IsCut b) :
    a.canonical = b.canonical ↔ a = b := by
  constructor
  · intro same
    have parts := first.cut?_canonical
    rw [same, second.cut?_canonical] at parts
    obtain ⟨name, version⟩ := a
    obtain ⟨name', version'⟩ := b
    cases version with
    | none =>
      cases version' with
      | none => exact congrArg (LibraryReference.mk · none) same
      | some _ => cases parts
    | some version =>
      cases version' with
      | none => cases parts
      | some version' =>
        cases parts
        rfl
  · rintro rfl
    rfl

/-- To tell such libraries apart by their canonical forms is to tell them apart. -/
theorem distinct_eq_eraseDups (cut : ∀ l ∈ ls, IsCut l) : distinct ls = ls.eraseDups := by
  induction shorter : ls.length using Nat.strongRecOn generalizing ls with
  | ind length inductionHypothesis =>
    cases ls with
    | nil => rfl
    | cons first rest =>
      have ⟨here, others⟩ := List.forall_mem_cons.mp cut
      have same : rest.filter (·.canonical != first.canonical) = rest.filter (!· == first) := by
        refine List.filter_congr fun l among => ?_
        have told := (others l among).canonical_inj here
        by_cases is : l = first
        · simp [is]
        · have differ : l.canonical ≠ first.canonical := mt told.mp is
          rw [bne, beq_false_of_ne differ, beq_false_of_ne is]
      have fewer := List.length_filter_le (!· == first) rest
      rw [distinct_cons, List.eraseDups_cons, same]
      refine congrArg _ (inductionHypothesis _ ?_ (fun l among => ?_) rfl)
      · simp only [List.length_cons] at shorter
        omega
      · exact others l (List.mem_of_mem_filter among)

/-- Dropping duplicates keeps which references are listed. -/
theorem isAmong_distinct (ls : List LibraryReference) (l : LibraryReference) :
    isAmong (distinct ls) l = isAmong ls l := by
  have keeps := firstOfEach_distinct ls
  apply Bool.eq_iff_iff.mpr
  constructor
  · intro known
    obtain ⟨k, among, same⟩ := isAmong_iff.mp known
    exact isAmong_iff.mpr ⟨k, keeps.mem among, same⟩
  · intro known
    obtain ⟨k, among, same⟩ := isAmong_iff.mp known
    rw [← isAmong_congr same]
    exact keeps.complete k among

/-- Duplicates can be dropped before or after more is appended. -/
theorem distinct_distinct_append (ls more : List LibraryReference) :
    distinct (distinct ls ++ more) = distinct (ls ++ more) := by
  induction more using List.reverseRecOn with
  | nil =>
    rw [List.append_nil, List.append_nil]
    exact distinct_of_areDistinct (areDistinct_distinct ls)
  | append_singleton more l inductionHypothesis =>
    rw [← List.append_assoc, ← List.append_assoc, distinct_concat, distinct_concat,
      inductionHypothesis, isAmong_append, isAmong_append, isAmong_distinct]

/-- What is required of a program: what it declares and the settings name, each form once. -/
theorem required_eq_ok {p : Program} {s : Option Settings} {required : List LibraryReference} :
    (declared p >>= fun ls => withSettings ls s) = .ok required ↔
      ∃ all more, Declares (Value.flattenAll (p.metadata .addLibraries)) all ∧
        Names (written s) more ∧ required = distinct (all ++ more) := by
  have joined (all : List LibraryReference) :
      withSettings (distinct all) s =
        (readAll ofNamed (written s)).map fun more => distinct (all ++ more) := by
    rw [withSettings_eq (areDistinct_distinct all)]
    congr 1
    funext more
    rw [← distinct_append (areDistinct_distinct all), distinct_distinct_append]
  rw [except_bind_ok]
  constructor
  · rintro ⟨ls, lists, done⟩
    obtain ⟨all, declares, keeps⟩ := declared_eq_ok.mp lists
    rw [keeps.unique (firstOfEach_distinct all), joined] at done
    cases read : readAll ofNamed (written s) with
    | error e =>
      rw [read] at done
      cases done
    | ok more =>
      rw [read] at done
      cases done
      exact ⟨all, more, declares, readAll_eq_ok.mp read, rfl⟩
  · rintro ⟨all, more, declares, names, rfl⟩
    refine ⟨distinct all, declared_eq_ok.mpr ⟨all, declares, firstOfEach_distinct all⟩, ?_⟩
    rw [joined, readAll_eq_ok.mpr names]
    rfl

/-- Whatever the program declares could have been declared by a text. -/
def ByTexts (p : Program) : Prop :=
  ∀ v ∈ Value.flattenAll (p.metadata .addLibraries), ∃ text, ofDeclared v = parse text

/-- A reference that is named in the settings is read from a text. -/
theorem isWritten_of_named {v : Value} (named : ofNamed v = .ok l) : IsWritten l := by
  unfold ofNamed at named
  split at named
  · exact ⟨_, Checked.orFail_eq_ok.mp named⟩
  all_goals cases named

/-- Where each value is read from a text, all references are cut. -/
theorem isCut_of_read {Reads : Value → LibraryReference → Prop} {vs : List Value}
    (each : ∀ v ∈ vs, ∀ l, Reads v l → IsWritten l) (reads : List.Forall₂ Reads vs ls) :
    ∀ l ∈ ls, IsCut l := by
  induction reads with
  | nil => exact List.forall_mem_nil _
  | cons first rest inductionHypothesis =>
    have ⟨here, others⟩ := List.forall_mem_cons.mp each
    exact List.forall_mem_cons.mpr ⟨(here _ first).isCut, inductionHypothesis others⟩

/-- All references of a program that declares texts are cut. -/
theorem ByTexts.isCut {p : Program} {s : Option Settings} (byTexts : ByTexts p)
    (declares : Declares (Value.flattenAll (p.metadata .addLibraries)) all)
    (names : Names (written s) more) : ∀ l ∈ all ++ more, IsCut l := by
  refine List.forall_mem_append.mpr ⟨isCut_of_read (fun v among l read => ?_) declares,
    isCut_of_read (fun _ _ _ => isWritten_of_named) names⟩
  obtain ⟨text, is⟩ := byTexts v among
  exact ⟨text, is.symm.trans read⟩

end LibraryReference

namespace LibraryManager

open LibraryReference

variable {past : List Moment} {m : LibraryManager} {w : World} {subject : Subject}
  {s : Option Settings} {required : List LibraryReference}

/-- The program that was read first is one of those that declare texts. -/
theorem byTexts_programRead (earlier : ∀ moment ∈ past, ByTexts moment.subject.program)
    (now : ByTexts subject.program) : ByTexts (programRead past subject) := by
  rw [programRead]
  cases found : firstReading past subject.identity with
  | none => exact now
  | some first => exact earlier first (List.mem_reverse.mp (List.mem_of_find?_eq_some found))

/-- What is required is what the program declares and the settings name. -/
theorem Managed.requiredNow_eq_ok (managed : Managed past m w) :
    m.requiredNow subject s = .ok required ↔
      ∃ all more,
        Declares (Value.flattenAll ((programRead past subject).metadata .addLibraries)) all ∧
          Names (written s) more ∧ required = distinct (all ++ more) := by
  rw [managed.remembers.requiredNow_eq, required_eq_ok]

/-- Everything that is required is cut. -/
theorem Managed.isCut_of_required (managed : Managed past m w)
    (byTexts : ByTexts (programRead past subject))
    (listed : m.requiredNow subject s = .ok required) : ∀ l ∈ required, IsCut l := by
  obtain ⟨all, more, declares, names, rfl⟩ := managed.requiredNow_eq_ok.mp listed
  intro l among
  exact byTexts.isCut declares names l ((firstOfEach_distinct _).mem among)

/-- A manager that was only asked about libraries that texts name asks for no others. -/
theorem Managed.isCut_of_asked (managed : Managed past m w)
    (byTexts : ∀ moment ∈ past, ByTexts moment.subject.program) :
    ∀ r ∈ w.asked, IsCut r.library := by
  induction managed with
  | created => exact List.forall_mem_nil _
  | @next past m w managed subject call inductionHypothesis =>
    have ⟨latest, earlier⟩ := List.forall_mem_cons.mp byTexts
    have before := inductionHypothesis earlier
    have goes := goes_call (managed.remembers.areDistinct subject) call w
    rcases performed : perform (call.act subject) (m, w) with ⟨o, m', w'⟩
    rw [performed] at goes
    simp only [Call.moment, performed]
    cases goes with
    | @installed source s ls rs o m' w' listed supply =>
      have cut := managed.isCut_of_required (byTexts_programRead earlier latest) listed
      rw [supply.asked.asked]
      refine List.forall_mem_append.mpr ⟨before, fun r among => ?_⟩
      have missing := supply.asks.prefix_libraries.subset (List.mem_map_of_mem among)
      exact cut r.library (List.mem_of_mem_filter missing)
    | _ => exact before

/-- What is missing differs in name or version from everything that was accepted. -/
theorem Ledger.pending_eq (ledger : Ledger m w.asked) (asked : ∀ r ∈ w.asked, IsCut r.library)
    (cut : ∀ l ∈ required, IsCut l) :
    m.pending required = required.filter (· ∉ Request.acceptedOf w.asked) := by
  refine List.filter_congr fun l among => ?_
  have installed : l.canonical ∈ m.installed ↔ l ∈ Request.acceptedOf w.asked := by
    rw [ledger.installed, List.mem_map]
    constructor
    · rintro ⟨accepted, before, same⟩
      obtain ⟨r, kept, rfl⟩ := List.mem_map.mp before
      have known := asked r (List.mem_of_mem_filter kept)
      rw [← (known.canonical_inj (cut l among)).mp same]
      exact before
    · intro before
      exact ⟨l, before, rfl⟩
  by_cases known : l ∈ Request.acceptedOf w.asked
  · simp [known, installed]
  · simp [known, installed]

/-- Libraries that texts name have the same canonical form if and only if they have the same name
and the same version. So a manager that was only asked about such libraries lists each of them once,
and asks for exactly those that it lists and that no accepted one is equal to. -/
theorem texts_told_apart :
    (∀ text text' a b, parse text = .valid a → parse text' = .valid b →
      (a.canonical = b.canonical ↔ a.name = b.name ∧ a.version = b.version)) ∧
    ∀ past m w, Managed past m w → (∀ moment ∈ past, ByTexts moment.subject.program) →
      ∀ subject, ByTexts subject.program → ∀ s required,
        ((Call.required s).moment subject (m, w)).answer = .ok (.libraries required) →
          (∃ all more,
            Declares (Value.flattenAll ((programRead past subject).metadata .addLibraries)) all ∧
              Names (written s) more ∧ required = (all ++ more).eraseDups) ∧
          ∀ source,
            let now := (Call.installRequired source s).moment subject (m, w)
            ∃ rs, now.after.2.asked = w.asked ++ rs ∧
              Request.Asks (required.filter (· ∉ Request.acceptedOf w.asked)) rs ∧
              Request.Ends rs (.libraries required) now.answer := by
  constructor
  · intro text text' a b read read'
    have first : IsWritten a := ⟨text, read⟩
    have second : IsWritten b := ⟨text', read'⟩
    rw [first.isCut.canonical_inj second.isCut]
    cases a
    cases b
    rw [LibraryReference.mk.injEq]
  · intro past m w managed earlier subject now s required answered
    rw [(moment_required m w subject s).1, map_libraries_eq_ok] at answered
    have byTexts := byTexts_programRead earlier now
    constructor
    · obtain ⟨all, more, declares, names, is⟩ := managed.requiredNow_eq_ok.mp answered
      rw [distinct_eq_eraseDups (byTexts.isCut declares names)] at is
      exact ⟨all, more, declares, names, is⟩
    · intro source
      have goes := goes_call (managed.remembers.areDistinct subject) (.installRequired source s) w
      rcases performed : perform ((Call.installRequired source s).act subject) (m, w)
        with ⟨o, m', w'⟩
      rw [performed] at goes
      simp only [Call.moment, performed]
      cases goes with
      | unreadable bad =>
        rw [answered] at bad
        cases bad
      | @installed _ _ ls rs _ _ _ listed supply ends =>
        rw [answered] at listed
        cases listed
        rw [managed.ledger.pending_eq (managed.isCut_of_asked earlier)
          (managed.isCut_of_required byTexts answered)] at supply
        exact ⟨rs, supply.asked.asked, supply.asks, ends⟩

namespace Small

/-- Three libraries whose texts differ in their marks. -/
def marked : List Text := ["lime:dev@2", "lime@dev:2", " lime : dev "]

/-- Settings that name further libraries. -/
def settings (libraries : List Value) : Settings where
  title := "Main"
  name := "main"
  package := "app"
  version := "1.0"
  company := ""
  initialWidth := 800
  initialHeight := 600
  orientation := .auto
  embedResources := false
  assets := []
  icon := none
  libraries := libraries
  minimizeNames := false
  release := false
  analyzerEnabled := false

/-- A program that declares marked texts. -/
def markedSubject : Subject := declaring (marked.map .text)

/-- The source has the first of the libraries only. -/
def tried : List Moment × LibraryManager × World :=
  follow [(markedSubject, .installRequired (offering ["lime:dev"]) none)] [] start

/-- The settings name one of the libraries in another way, and a further one. -/
def more : Option Settings := some (settings [.text "lime@dev", .text "format"])

/-- What this program is listed to require. -/
def listed : List LibraryReference :=
  [⟨"lime:dev", some "2"⟩, ⟨"lime", some "dev:2"⟩, ⟨"lime", some "dev"⟩, ⟨"format", none⟩]

/-- This program declares its libraries by texts. -/
theorem byTexts_marked : ByTexts markedSubject.program := by
  intro v among
  obtain ⟨text, -, rfl⟩ := List.mem_map.mp (show v ∈ marked.map Value.text from among)
  exact ⟨text, rfl⟩

end Small

/-- Two texts with both marks, which are two libraries with two answers. -/
theorem texts_told_apart_marked :
    (parse "lime:dev@2" = .valid ⟨"lime:dev", some "2"⟩ ∧
      parse "lime@dev:2" = .valid ⟨"lime", some "dev:2"⟩ ∧
      canonical ⟨"lime:dev", some "2"⟩ ≠ canonical ⟨"lime", some "dev:2"⟩) ∧
    (∀ moment ∈ Small.tried.1, ByTexts moment.subject.program) ∧
      ((Call.required Small.more).moment Small.markedSubject
        (Small.tried.2.1, Small.tried.2.2)).answer = .ok (.libraries Small.listed) ∧
      ∃ rs, ((Call.installRequired (Small.offering ["lime"]) Small.more).moment Small.markedSubject
          (Small.tried.2.1, Small.tried.2.2)).after.2.asked = Small.tried.2.2.asked ++ rs ∧
        Request.Asks Small.listed.tail rs := by
  have first : parse "lime:dev@2" = .valid ⟨"lime:dev", some "2"⟩ := rfl
  have second : parse "lime@dev:2" = .valid ⟨"lime", some "dev:2"⟩ := rfl
  have apart : canonical ⟨"lime:dev", some "2"⟩ ≠ canonical ⟨"lime", some "dev:2"⟩ := by
    intro same
    have ⟨name, _⟩ := (texts_told_apart.1 _ _ _ _ first second).mp same
    exact absurd name (by decide +kernel)
  have managed : Managed Small.tried.1 Small.tried.2.1 Small.tried.2.2 :=
    Small.managed_start.follow _
  have once : Small.tried.1 = [(Call.installRequired (Small.offering ["lime:dev"]) none).moment
      Small.markedSubject Small.start] := rfl
  have earlier : ∀ moment ∈ Small.tried.1, ByTexts moment.subject.program := by
    rw [once]
    exact List.forall_mem_singleton.mpr Small.byTexts_marked
  have answered : ((Call.required Small.more).moment Small.markedSubject
      (Small.tried.2.1, Small.tried.2.2)).answer = .ok (.libraries Small.listed) := by
    decide +kernel
  have missing : Small.listed.filter (· ∉ Request.acceptedOf Small.tried.2.2.asked) =
      Small.listed.tail := by
    decide +kernel
  have told := texts_told_apart.2 Small.tried.1 Small.tried.2.1 Small.tried.2.2 managed earlier
    Small.markedSubject Small.byTexts_marked Small.more Small.listed answered
  obtain ⟨rs, asked, asks, -⟩ := told.2 (Small.offering ["lime"])
  rw [missing] at asks
  exact ⟨⟨first, second, apart⟩, earlier, answered, rs, asked, asks⟩

end LibraryManager

end HaxeBuild
