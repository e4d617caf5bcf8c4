import Mathlib.Data.List.Induction
import Mathlib.Data.List.Sort
import HaxeBuild.Library.Manager
import HaxeBuild.Proofs.Effect

namespace HaxeBuild

namespace LibraryReference

/-- No two of the libraries have the same canonical form. -/
def AreDistinct (ls : List LibraryReference) : Prop :=
  ls.Pairwise fun a b => a.canonical ≠ b.canonical

/-- Whether a library of the same canonical form is among the libraries. -/
def isAmong (ls : List LibraryReference) (l : LibraryReference) : Bool :=
  ls.any (·.canonical == l.canonical)

/-- The number of the first library of the same canonical form. -/
def position (all : List LibraryReference) (l : LibraryReference) : Nat :=
  all.findIdx (·.canonical == l.canonical)

/-- Of each canonical form the first library is kept, in the order in which the forms first
occur. -/
structure FirstOfEach (all kept : List LibraryReference) : Prop where
  first : ∀ l ∈ kept, all.find? (·.canonical == l.canonical) = some l
  complete : ∀ l ∈ all, isAmong kept l = true
  ordered : kept.Pairwise fun a b => position all a < position all b
  different : AreDistinct kept

variable {ls more kept required : List LibraryReference} {l : LibraryReference}

/-- A library is among others if one of them has the same canonical form. -/
theorem isAmong_iff : isAmong ls l = true ↔ ∃ k ∈ ls, k.canonical = l.canonical := by
  simp [isAmong]

/-- Only the canonical form counts. -/
theorem isAmong_congr {k : LibraryReference} (same : k.canonical = l.canonical) :
    isAmong ls k = isAmong ls l := by
  rw [isAmong, isAmong, same]

theorem isAmong_append (ls more : List LibraryReference) (l : LibraryReference) :
    isAmong (ls ++ more) l = (isAmong ls l || isAmong more l) :=
  List.any_append

/-- Taking out one library leaves the others among the rest. -/
theorem isAmong_filter {first : LibraryReference} (differs : first.canonical ≠ l.canonical) :
    isAmong (ls.filter (·.canonical != first.canonical)) l = isAmong ls l := by
  rw [isAmong, isAmong, List.any_filter]
  congr 1
  funext k
  by_cases is : k.canonical = l.canonical <;> simp [is, Ne.symm differs]

/-- The first library is kept, and what is the same later on is not. -/
theorem distinct_cons (first : LibraryReference) (rest : List LibraryReference) :
    distinct (first :: rest) =
      first :: distinct (rest.filter (·.canonical != first.canonical)) := by
  rw [distinct, distinct, List.eraseDupsBy_cons]
  congr 3
  funext l
  cases same : l.canonical == first.canonical <;> simp [bne, same]

/-- A further library is kept unless its canonical form has occurred before. -/
theorem distinct_concat (ls : List LibraryReference) (l : LibraryReference) :
    distinct (ls ++ [l]) = if isAmong ls l then distinct ls else distinct ls ++ [l] := by
  induction shorter : ls.length using Nat.strongRecOn generalizing ls with
  | ind length inductionHypothesis =>
    cases ls with
    | nil => rfl
    | cons first rest =>
      have fewer := List.length_filter_le (·.canonical != first.canonical) rest
      rw [List.cons_append, distinct_cons, distinct_cons, List.filter_append]
      by_cases same : first.canonical = l.canonical
      · simp [isAmong, same]
      · have later := inductionHypothesis _ (by simp only [List.length_cons] at shorter; omega)
          (rest.filter (·.canonical != first.canonical)) rfl
        have here : isAmong (first :: rest) l = isAmong rest l := by
          simp [isAmong, same]
        rw [here, List.filter_cons_of_pos (by simp [Ne.symm same]), List.filter_nil, later,
          isAmong_filter same]
        split <;> rfl

/-- Libraries of different canonical forms are all kept. -/
theorem distinct_of_areDistinct (different : AreDistinct ls) : distinct ls = ls := by
  induction ls using List.reverseRecOn with
  | nil => rfl
  | append_singleton ls l inductionHypothesis =>
    have ⟨before, _, apart⟩ := List.pairwise_append.mp different
    have unknown : ¬ isAmong ls l = true := by
      intro known
      obtain ⟨k, among, same⟩ := isAmong_iff.mp known
      exact apart k among l List.mem_cons_self same
    rw [distinct_concat, if_neg unknown, inductionHypothesis before]

/-- Of further libraries those are kept that are not among the first ones. -/
theorem distinct_append (different : AreDistinct ls) (more : List LibraryReference) :
    distinct (ls ++ more) = ls ++ distinct (more.filter fun l => !isAmong ls l) := by
  induction more using List.reverseRecOn with
  | nil =>
    rw [List.append_nil, distinct_of_areDistinct different]
    exact (List.append_nil ls).symm
  | append_singleton more l inductionHypothesis =>
    rw [← List.append_assoc, distinct_concat, inductionHypothesis, isAmong_append,
      List.filter_append]
    cases known : isAmong ls l with
    | true => simp [known]
    | false =>
      have others : isAmong (more.filter fun k => !isAmong ls k) l = isAmong more l := by
        rw [isAmong, isAmong, List.any_filter]
        congr 1
        funext k
        by_cases same : k.canonical = l.canonical
        · simp [isAmong_congr same, known]
        · simp [same]
      rw [Bool.false_or, List.filter_cons_of_pos (by simp [known]), List.filter_nil,
        distinct_concat, others]
      split
      · rfl
      · rw [List.append_assoc]

/-- A library that is known has its position. -/
theorem position_append (known : isAmong ls l = true) (more : List LibraryReference) :
    position (ls ++ more) l = position ls l := by
  rw [position, position, List.findIdx_append, if_pos]
  exact List.findIdx_lt_length.mpr (isAmong_iff.mp known |>.imp fun _ => by simp)

/-- This is a position among the libraries. -/
theorem position_lt (known : isAmong ls l = true) : position ls l < ls.length :=
  List.findIdx_lt_length.mpr (isAmong_iff.mp known |>.imp fun _ => by simp)

/-- A library that is not known comes after all others. -/
theorem le_position (unknown : isAmong ls l = false) (more : List LibraryReference) :
    ls.length ≤ position (ls ++ more) l := by
  have absent : ls.findIdx (·.canonical == l.canonical) = ls.length := by
    rw [List.findIdx_eq_length]
    simpa [isAmong] using unknown
  rw [position, List.findIdx_append, if_neg (by omega)]
  omega

namespace FirstOfEach

/-- What is kept was there. -/
theorem mem (keeps : FirstOfEach ls kept) (among : l ∈ kept) : l ∈ ls :=
  List.mem_of_find?_eq_some (keeps.first l among)

/-- What is kept is among the libraries. -/
theorem isAmong (keeps : FirstOfEach ls kept) (among : l ∈ kept) :
    LibraryReference.isAmong ls l = true :=
  isAmong_iff.mpr ⟨l, keeps.mem among, rfl⟩

/-- What is kept of the first libraries is kept, and keeps its order. -/
theorem first_append (keeps : FirstOfEach ls kept) (more : List LibraryReference) :
    (∀ k ∈ kept, (ls ++ more).find? (·.canonical == k.canonical) = some k) ∧
      kept.Pairwise fun a b => position (ls ++ more) a < position (ls ++ more) b := by
  constructor
  · intro k among
    rw [List.find?_append, keeps.first k among]
    rfl
  · refine keeps.ordered.imp_of_mem fun {a b} first second before => ?_
    rw [position_append (keeps.isAmong first), position_append (keeps.isAmong second)]
    exact before

/-- A library that is known already is not kept again. -/
theorem known (keeps : FirstOfEach ls kept) (known : LibraryReference.isAmong ls l = true) :
    FirstOfEach (ls ++ [l]) kept where
  first := (keeps.first_append [l]).1
  complete := by
    intro k among
    rcases List.mem_append.mp among with before | last
    · exact keeps.complete k before
    · obtain ⟨first, earlier, same⟩ := isAmong_iff.mp known
      rw [List.mem_singleton.mp last, ← isAmong_congr same]
      exact keeps.complete first earlier
  ordered := (keeps.first_append [l]).2
  different := keeps.different

/-- A new library is kept at the end. -/
theorem unknown (keeps : FirstOfEach ls kept) (unknown : LibraryReference.isAmong ls l = false) :
    FirstOfEach (ls ++ [l]) (kept ++ [l]) where
  first := by
    intro k among
    rcases List.mem_append.mp among with before | last
    · exact (keeps.first_append [l]).1 k before
    · have absent : ls.find? (·.canonical == l.canonical) = none := by
        simpa [LibraryReference.isAmong] using unknown
      rw [List.mem_singleton.mp last, List.find?_append, absent]
      simp
  complete := by
    intro k among
    rw [isAmong_append]
    rcases List.mem_append.mp among with before | last
    · rw [keeps.complete k before, Bool.true_or]
    · rw [List.mem_singleton.mp last]
      simp [LibraryReference.isAmong]
  ordered := by
    refine List.pairwise_append.mpr ⟨(keeps.first_append [l]).2, List.pairwise_singleton _ _, ?_⟩
    intro a before b last
    rw [List.mem_singleton.mp last, position_append (keeps.isAmong before)]
    exact Nat.lt_of_lt_of_le (position_lt (keeps.isAmong before)) (le_position unknown [l])
  different := by
    refine List.pairwise_append.mpr ⟨keeps.different, List.pairwise_singleton _ _, ?_⟩
    intro a before b last same
    rw [List.mem_singleton.mp last] at same
    rw [← isAmong_congr same, keeps.isAmong before] at unknown
    cases unknown

/-- There is only one way to keep the first of each form. -/
theorem subset {others : List LibraryReference} (keeps : FirstOfEach ls kept)
    (too : FirstOfEach ls others) : kept ⊆ others := by
  intro k among
  obtain ⟨other, here, same⟩ := isAmong_iff.mp (too.complete k (keeps.mem among))
  have found := too.first other here
  rw [same, keeps.first k among] at found
  rw [Option.some.inj found]
  exact here

/-- There is only one way to keep the first of each. -/
theorem unique {others : List LibraryReference} (keeps : FirstOfEach ls kept)
    (too : FirstOfEach ls others) : kept = others := by
  let Before (a b : LibraryReference) : Prop := position ls a < position ls b
  have irreflexive : Std.Irrefl Before := ⟨fun a => Nat.lt_irrefl (position ls a)⟩
  have antisymmetric : Std.Antisymm Before := ⟨fun a b first second =>
    absurd second (Nat.lt_asymm first)⟩
  exact List.Subset.antisymm_of_pairwise keeps.ordered too.ordered (keeps.subset too)
    (too.subset keeps)

end FirstOfEach

/-- So distinct libraries are the first of each. -/
theorem firstOfEach_distinct (all : List LibraryReference) : FirstOfEach all (distinct all) := by
  induction all using List.reverseRecOn with
  | nil => exact ⟨nofun, nofun, .nil, .nil⟩
  | append_singleton ls l inductionHypothesis =>
    rw [distinct_concat]
    cases known : isAmong ls l with
    | true => exact inductionHypothesis.known known
    | false => exact inductionHypothesis.unknown known

/-- Distinct libraries differ in their canonical forms. -/
theorem areDistinct_distinct (ls : List LibraryReference) : AreDistinct (distinct ls) :=
  (firstOfEach_distinct ls).different

/-! ### Reading -/

theorem readAll_eq_mapM (read : Value → Outcome LibraryReference) (vs : List Value) :
    readAll read vs = vs.mapM read := by
  induction vs with
  | nil => rfl
  | cons v vs inductionHypothesis => rw [readAll, List.mapM_cons, inductionHypothesis]

/-- A list is read if each of its values is. -/
theorem readAll_eq_ok {read : Value → Outcome LibraryReference} {vs : List Value} :
    readAll read vs = .ok ls ↔ List.Forall₂ (fun v l => read v = .ok l) vs ls := by
  rw [readAll_eq_mapM, except_mapM_ok]

/-- A list can be read if each of its values can. -/
theorem readAll_exists {read : Value → Outcome LibraryReference} {vs : List Value} :
    (∃ ls, readAll read vs = .ok ls) ↔ ∀ v ∈ vs, ∃ l, read v = .ok l := by
  simp only [readAll_eq_mapM, except_mapM_exists]

/-- The first flaw is reported. -/
theorem readAll_eq_error {read : Value → Outcome LibraryReference} {vs : List Value}
    {e : BuildError} :
    readAll read vs = .error e ↔ ∃ before v after, vs = before ++ v :: after ∧
      (∀ b ∈ before, ∃ l, read b = .ok l) ∧ read v = .error e := by
  rw [readAll_eq_mapM, except_mapM_error]

/-- The library that each of the values declares. -/
def Declares (vs : List Value) (ls : List LibraryReference) : Prop :=
  List.Forall₂ (fun v l => ofDeclared v = .valid l) vs ls

/-- What the classes of a program declare: the first library of each form. -/
def Lists (p : Program) (ls : List LibraryReference) : Prop :=
  ∃ all, Declares (Value.flattenAll (p.metadata .addLibraries)) all ∧ FirstOfEach all ls

/-- The declared libraries are the first of each that the classes name. -/
theorem declared_eq_ok {p : Program} : declared p = .ok ls ↔ Lists p ls := by
  simp only [declared, except_bind_ok, readAll_eq_ok, Checked.orFail_eq_ok, Lists, Declares]
  constructor
  · rintro ⟨all, read, done⟩
    cases done
    exact ⟨all, read, firstOfEach_distinct all⟩
  · rintro ⟨all, read, keeps⟩
    rw [keeps.unique (firstOfEach_distinct all)]
    exact ⟨all, read, rfl⟩

/-- They fail exactly if one of the values cannot be read. -/
theorem declared_eq_error {p : Program} {e : BuildError} :
    declared p = .error e ↔
      readAll (fun v => (ofDeclared v).orFail) (Value.flattenAll (p.metadata .addLibraries)) =
        .error e := by
  rw [declared, except_bind_error]
  constructor
  · rintro (failed | ⟨all, -, impossible⟩)
    · exact failed
    · cases impossible
  · exact .inl

/-- Declared libraries differ in their canonical forms. -/
theorem areDistinct_declared {p : Program} (read : declared p = .ok ls) : AreDistinct ls := by
  obtain ⟨all, -, keeps⟩ := declared_eq_ok.mp read
  exact keeps.different

/-- The values by which settings name libraries. -/
def written (s : Option Settings) : List Value := (s.map (·.libraries)).getD []

/-- Of the settings only the libraries matter. -/
theorem withSettings_congr {s s' : Settings} (same : s'.libraries = s.libraries) :
    withSettings ls (some s') = withSettings ls (some s) := by
  simp only [withSettings, Option.map_some, same]

/-- The settings add what they name unless it is declared already, and the first of each form. -/
theorem withSettings_eq (different : AreDistinct ls) (s : Option Settings) :
    withSettings ls s =
      (readAll ofNamed (written s)).map fun more =>
        ls ++ distinct (more.filter fun l => !isAmong ls l) := by
  have nothing : ls = ls ++ distinct (([] : List LibraryReference).filter fun l => !isAmong ls l) :=
    (List.append_nil ls).symm
  rw [withSettings, written]
  generalize s.map (·.libraries) = named
  rcases named with _ | _ | ⟨v, vs⟩
  · exact congrArg Except.ok nothing
  · exact congrArg Except.ok nothing
  · change (do return distinct (ls ++ (← readAll ofNamed (v :: vs)))) =
      (readAll ofNamed (v :: vs)).map _
    rcases readAll ofNamed (v :: vs) with e | more
    · rfl
    · exact congrArg Except.ok (distinct_append different more)

/-- The library that each of the values names. -/
def Names (vs : List Value) (ls : List LibraryReference) : Prop :=
  List.Forall₂ (fun v l => ofNamed v = .ok l) vs ls

theorem ofNamed_text {t : Text} : ofNamed (.text t) = (parse t).orFail := rfl

/-- Settings that were read name libraries by texts. -/
def OfTexts (s : Option Settings) : Prop := ∀ v ∈ written s, ∃ t, v = .text t

/-- What settings add: the first library of each form that is not among the others. -/
def Adds (s : Option Settings) (ls added : List LibraryReference) : Prop :=
  ∃ more, Names (written s) more ∧ FirstOfEach (more.filter fun l => !isAmong ls l) added

/-- The settings add what they name and was not declared. -/
theorem withSettings_eq_ok {s : Option Settings} (different : AreDistinct ls) :
    withSettings ls s = .ok required ↔ ∃ added, Adds s ls added ∧ required = ls ++ added := by
  rw [withSettings_eq different]
  constructor
  · intro joined
    cases read : readAll ofNamed (written s) with
    | error e =>
      rw [read] at joined
      cases joined
    | ok more =>
      rw [read] at joined
      cases joined
      exact ⟨_, ⟨more, readAll_eq_ok.mp read, firstOfEach_distinct _⟩, rfl⟩
  · rintro ⟨added, ⟨more, named, keeps⟩, rfl⟩
    rw [readAll_eq_ok.mpr named, keeps.unique (firstOfEach_distinct _)]
    rfl

/-- They fail exactly if one of their values cannot be read. -/
theorem withSettings_eq_error {s : Option Settings} (different : AreDistinct ls) {e : BuildError} :
    withSettings ls s = .error e ↔ readAll ofNamed (written s) = .error e := by
  rw [withSettings_eq different]
  cases readAll ofNamed (written s) with
  | error e' => exact ⟨fun is => congrArg _ (Except.error.inj is),
      fun is => congrArg _ (Except.error.inj is)⟩
  | ok more => exact ⟨nofun, nofun⟩

/-- What they add differs from what was there. -/
theorem Adds.areDistinct {s : Option Settings} {added : List LibraryReference}
    (adds : Adds s ls added) (different : AreDistinct ls) : AreDistinct (ls ++ added) := by
  obtain ⟨more, -, keeps⟩ := adds
  refine List.pairwise_append.mpr ⟨different, keeps.different, ?_⟩
  intro a among b new same
  have unknown := (List.mem_filter.mp (keeps.mem new)).2
  have known : isAmong ls b = true := isAmong_iff.mpr ⟨a, among, same⟩
  simp [known] at unknown

/-- All required libraries differ in their canonical forms. -/
theorem areDistinct_withSettings {s : Option Settings} (different : AreDistinct ls)
    (joined : withSettings ls s = .ok required) : AreDistinct required := by
  obtain ⟨added, adds, rfl⟩ := (withSettings_eq_ok different).mp joined
  exact adds.areDistinct different

end LibraryReference

end HaxeBuild
