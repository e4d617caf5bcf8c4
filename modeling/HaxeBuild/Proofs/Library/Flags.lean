import HaxeBuild.Proofs.Library.Written

namespace HaxeBuild

namespace LibraryReference

/-- What stands behind the name. -/
def behind (mark : Text) (l : LibraryReference) : Text :=
  match l.statedVersion with
  | some version => mark ++ version
  | none => []

/-- The compiler is given one text for both, and the first name ends at a colon of the second
one. -/
def SplitsBefore (a b : LibraryReference) : Prop :=
  ∃ more, b.name = a.name ++ ":" ++ more ∧ a.statedVersion = some (haxeSpec ⟨more, b.version⟩)

variable {a b : LibraryReference} {ls : List LibraryReference}

theorem joined_eq (mark : Text) (l : LibraryReference) :
    l.joined mark = l.name ++ l.behind mark := by
  rw [joined, behind]
  cases l.statedVersion with
  | none => exact (List.append_nil _).symm
  | some version => exact List.append_assoc ..

theorem statedVersion_eq_of_behind {c : Code} {rest : Text} (is : a.behind ":" = c :: rest) :
    c = .char ':' ∧ a.statedVersion = some rest := by
  rw [behind] at is
  cases stated : a.statedVersion with
  | none =>
    rw [stated] at is
    cases is
  | some version =>
    rw [stated] at is
    cases is
    exact ⟨rfl, rfl⟩

theorem statedVersion_congr (same : a.behind ":" = b.behind ":") :
    a.statedVersion = b.statedVersion := by
  cases is : b.behind ":" with
  | cons c rest =>
    rw [(statedVersion_eq_of_behind is).2, (statedVersion_eq_of_behind (same.trans is)).2]
  | nil =>
    have none {l : LibraryReference} (nothing : l.behind ":" = []) : l.statedVersion = none := by
      rw [behind] at nothing
      cases stated : l.statedVersion with
      | none => rfl
      | some version =>
        rw [stated] at nothing
        cases nothing
    rw [none is, none (same.trans is)]

theorem SplitsBefore.haxeSpec_eq (splits : SplitsBefore a b) : a.haxeSpec = b.haxeSpec := by
  obtain ⟨more, name, version⟩ := splits
  rw [haxeSpec, joined, version, haxeSpec, joined_eq, haxeSpec, joined_eq, name]
  simp only [List.append_assoc]
  rfl

/-- The mark between name and version tells the two apart. -/
theorem SplitsBefore.canonical_ne (splits : SplitsBefore a b) : a.canonical ≠ b.canonical := by
  obtain ⟨more, name, version⟩ := splits
  rw [canonical, joined, version, canonical, joined_eq, name]
  simp only [List.append_assoc]
  intro same
  cases List.append_cancel_left same

/-- One text for the compiler, cut at the same place or later. -/
theorem canonical_eq_or_splitsBefore {more : Text} (name : b.name = a.name ++ more)
    (rest : a.behind ":" = more ++ b.behind ":") :
    a.canonical = b.canonical ∨ SplitsBefore a b := by
  cases more with
  | nil =>
    rw [List.append_nil] at name
    rw [canonical, joined, canonical, joined, name, statedVersion_congr rest]
    exact .inl rfl
  | cons c more =>
    obtain ⟨rfl, version⟩ := statedVersion_eq_of_behind rest
    refine .inr ⟨more, ?_, ?_⟩
    · rw [name, List.append_assoc]
      rfl
    · rw [version, haxeSpec, joined_eq]
      rfl

/-- The compiler is given one text for different libraries if and only if their names end at
different colons of it. -/
theorem haxeSpec_eq_iff (different : a.canonical ≠ b.canonical) :
    a.haxeSpec = b.haxeSpec ↔ SplitsBefore a b ∨ SplitsBefore b a := by
  constructor
  · intro alike
    rw [haxeSpec, joined_eq, haxeSpec, joined_eq] at alike
    rcases List.append_eq_append_iff.mp alike with ⟨more, name, rest⟩ | ⟨more, name, rest⟩
    · exact .inl ((canonical_eq_or_splitsBefore name rest).resolve_left different)
    · exact .inr ((canonical_eq_or_splitsBefore name rest).resolve_left different.symm)
  · rintro (splits | splits)
    · exact splits.haxeSpec_eq
    · exact splits.haxeSpec_eq.symm

theorem AreDistinct.eq_of_canonical (different : AreDistinct ls) (first : a ∈ ls) (second : b ∈ ls)
    (same : a.canonical = b.canonical) : a = b :=
  List.inj_on_of_nodup_map (List.pairwise_map.mpr different) first second same

end LibraryReference

namespace LibraryManager

open Effect LibraryReference

variable {ls : List LibraryReference}

theorem nodup_flags_iff (different : AreDistinct ls) :
    (flags ls).Nodup ↔ ∀ a ∈ ls, ∀ b ∈ ls, ¬ SplitsBefore a b := by
  have spelled {a b : LibraryReference} :
      (CompilerFlag.mk "-lib" a.haxeSpec = ⟨"-lib", b.haxeSpec⟩) ↔ a.haxeSpec = b.haxeSpec := by
    rw [CompilerFlag.mk.injEq, and_iff_right rfl]
  constructor
  · intro nodup a first b second splits
    have same := List.inj_on_of_nodup_map nodup first second (spelled.mpr splits.haxeSpec_eq)
    exact splits.canonical_ne (congrArg canonical same)
  · intro apart
    refine List.Nodup.map_on (fun a first b second alike => ?_)
      (different.imp fun differ same => ?_)
    · by_contra other
      have differ := mt (different.eq_of_canonical first second) other
      rcases (haxeSpec_eq_iff differ).mp (spelled.mp alike) with splits | splits
      · exact apart a first b second splits
      · exact apart b second a first splits
    · exact differ (congrArg canonical same)

/-- The flags are those of the required libraries in their order. One of them comes twice exactly if
the name of one of the libraries ends at a colon in the name of another one that the compiler is
given the same text for. So no flag comes twice if there is no colon in the names. -/
theorem flags_repeated_iff {past : List Moment} {m : LibraryManager} {w : World}
    (managed : Managed past m w) {subject : Subject} {s : Settings} {fs : List CompilerFlag}
    (answered : ((Call.compilerFlags s).moment subject (m, w)).answer = .ok (.flags fs)) :
    ∃ required,
      ((Call.required (some s)).moment subject (m, w)).answer = .ok (.libraries required) ∧
      fs = required.map (fun l => ⟨"-lib", l.haxeSpec⟩) ∧
      (fs.Nodup ↔ ∀ a ∈ required, ∀ b ∈ required, ¬ SplitsBefore a b) ∧
      ((∀ l ∈ required, Code.char ':' ∉ l.name) → fs.Nodup) := by
  have listing : ((Call.compilerFlags s).moment subject (m, w)).answer =
      ((m.requiredNow subject (some s)).map flags).map .flags := by
    simp only [Call.moment, Call.act, perform_bind_pure, perform_compilerFlags]
  rw [listing] at answered
  cases listed : m.requiredNow subject (some s) with
  | error e =>
    rw [listed] at answered
    cases answered
  | ok required =>
    rw [listed] at answered
    cases answered
    have once := nodup_flags_iff (managed.remembers.areDistinct subject (some s) required listed)
    refine ⟨required, ?_, rfl, once, fun plain => once.mpr ?_⟩
    · rw [(moment_required m w subject (some s)).1, listed]
      rfl
    · rintro a - b second ⟨more, name, -⟩
      apply plain b second
      rw [name]
      exact List.mem_append_left _ (List.mem_append_right _ List.mem_cons_self)

namespace Small

/-- A library, a description and a text; one of the names has a colon. -/
def mixed : Subject :=
  declaring [.library ⟨"org:lime", some "2"⟩,
    .list [.dict [(.text "name", .text "openfl"), (.text "version", .text "9")], .text "openfl@8"]]

/-- The settings name two further libraries. -/
def named : List Value := [.text "openfl : 8", .text "org@lime:3"]

def mixedFlags : List CompilerFlag :=
  [⟨"-lib", "org:lime:2"⟩, ⟨"-lib", "openfl:9"⟩, ⟨"-lib", "openfl:8"⟩, ⟨"-lib", "org:lime:3"⟩]

end Small

theorem flags_repeated_iff_mixed :
    ((Call.compilerFlags (Small.settings Small.named)).moment Small.mixed
        (Small.start.1, Small.start.2)).answer = .ok (.flags Small.mixedFlags) ∧
      ∃ required,
        ((Call.required (some (Small.settings Small.named))).moment Small.mixed
          (Small.start.1, Small.start.2)).answer = .ok (.libraries required) ∧
        ∀ a ∈ required, ∀ b ∈ required, ¬ SplitsBefore a b := by
  have answered : ((Call.compilerFlags (Small.settings Small.named)).moment
      Small.mixed (Small.start.1, Small.start.2)).answer = .ok (.flags Small.mixedFlags) := by
    decide +kernel
  obtain ⟨required, listed, -, once, -⟩ := flags_repeated_iff Small.managed_start answered
  exact ⟨answered, required, listed, once.mp (by decide +kernel)⟩

/-- Two texts name different libraries that the compiler is given one text for. -/
theorem flags_repeated_colons :
    let fs : List CompilerFlag := [⟨"-lib", "lime:dev:2"⟩, ⟨"-lib", "lime:dev:2"⟩]
    ((Call.compilerFlags (Small.settings [])).moment
        (Small.declaring [.text "lime:dev@2", .text "lime@dev:2"]) Small.start).answer =
      .ok (.flags fs) ∧ ¬ fs.Nodup := by
  decide +kernel

end LibraryManager

end HaxeBuild
