import Mathlib.Data.List.Sort
import HaxeBuild.Proofs.Files.Plain
import HaxeBuild.Proofs.Text.Order

namespace HaxeBuild

namespace Path

/-- The numbers of the code points of names, by which paths are ordered. -/
def numbers (names : List Text) : List (List Nat) := names.map Text.numbers

theorem numbers_injective : Function.Injective numbers :=
  List.map_injective_iff.mpr Text.numbers_injective

theorem partsBefore_iff {a b : List Text} : partsBefore a b = true ↔ numbers a < numbers b := by
  induction a generalizing b with
  | nil => cases b <;> simp [partsBefore, numbers]
  | cons name a inductionHypothesis =>
    cases b with
    | nil => simp [partsBefore, numbers]
    | cons name' b =>
      have later : partsBefore a b = true ↔ a.map Text.numbers < b.map Text.numbers :=
        inductionHypothesis
      have same : name = name' ↔ name.numbers = name'.numbers := Text.numbers_injective.eq_iff.symm
      simp [partsBefore, numbers, later, same, Text.before_iff, List.cons_lt_cons_iff]

/-- Things that have names, in the order of these. -/
def Ordered {α : Type} (f : α → List Text) (as : List α) : Prop :=
  as.Pairwise fun a b => numbers (f a) ≤ numbers (f b)

variable {α : Type} {f : α → List Text} {as bs : List α}

theorem ordered_mergeSort (f : α → List Text) (as : List α) :
    Ordered f (as.mergeSort fun a b => !partsBefore (f b) (f a)) := by
  have atMost (a b : α) : (!partsBefore (f b) (f a)) = true ↔ numbers (f a) ≤ numbers (f b) := by
    rw [Bool.not_eq_true', ← Bool.not_eq_true, partsBefore_iff, not_lt]
  refine (List.pairwise_mergeSort ?_ ?_ as).imp fun le => (atMost _ _).mp le
  · intro a b c first second
    exact (atMost _ _).mpr (le_trans ((atMost _ _).mp first) ((atMost _ _).mp second))
  · intro a b
    rw [Bool.or_eq_true, atMost, atMost]
    exact le_total _ _

/-- Distinct names can be ordered in one way only. -/
theorem Ordered.eq_of_mem_iff (ordered : Ordered f as) (ordered' : Ordered f bs)
    (distinct : (as.map f).Nodup) (distinct' : (bs.map f).Nodup) (same : ∀ a, a ∈ as ↔ a ∈ bs) :
    as = bs := by
  have perm : as.Perm bs :=
    (List.perm_ext_iff_of_nodup (.of_map f distinct) (.of_map f distinct')).mpr same
  refine perm.eq_of_pairwise ?_ ordered ordered'
  intro a b first second le ge
  have named : f a = f b := numbers_injective (le_antisymm le ge)
  exact List.inj_on_of_nodup_map distinct first ((same b).mpr second) named

/-- Names that are some of others come in the same order as these. -/
theorem Ordered.sublist {names more : List (List Text)} (ordered : Ordered id names)
    (ordered' : Ordered id more) (some : names.Subperm more) : names.Sublist more := by
  have antisymm : Std.Antisymm fun a b : List Text => numbers (id a) ≤ numbers (id b) :=
    ⟨fun _ _ le ge => numbers_injective (le_antisymm le ge)⟩
  exact List.sublist_of_subperm_of_pairwise some ordered ordered'

end Path

namespace FileTree

/-- The names of what is below a location are what its entries are called. -/
theorem map_fst_below (t : FileTree) (l : Location) :
    (t.below l).map (·.1) = (t.entries.map (·.1)).filterMap fun l' =>
      if l.isPrefixOf l' && l != l' then some (l'.drop l.length) else none := by
  rw [below, List.map_filterMap, List.filterMap_map]
  refine List.filterMap_congr fun entry _ => ?_
  simp only [Function.comp]
  split <;> rfl

theorem mem_map_fst_below {t : FileTree} {l : Location} {names : List Text} :
    names ∈ (t.below l).map (·.1) ↔ names ≠ [] ∧ t.get? (l ++ names) ≠ none := by
  rw [map_fst_below, List.mem_filterMap]
  constructor
  · rintro ⟨l', among, is⟩
    obtain ⟨under, is⟩ := Option.ite_none_right_eq_some.mp is
    cases is
    rw [Bool.and_eq_true, List.isPrefixOf_iff_prefix] at under
    obtain ⟨⟨names, rfl⟩, other⟩ := under
    rw [List.drop_left]
    have more : names ≠ [] := by
      rintro rfl
      simp at other
    refine ⟨more, fun missing => ?_⟩
    rw [get?, if_neg (by simp [more])] at missing
    obtain ⟨entry, known, is⟩ := List.mem_map.mp among
    have different := List.lookup_eq_none_iff.mp missing entry known
    simp [is] at different
  · rintro ⟨more, there⟩
    obtain ⟨e, there⟩ := Option.ne_none_iff_exists'.mp there
    rw [get?, if_neg (by simp [more])] at there
    obtain ⟨before, after, split, -⟩ := List.lookup_eq_some_iff.mp there
    refine ⟨l ++ names, List.mem_map.mpr ⟨(l ++ names, e), by simp [split], rfl⟩, ?_⟩
    simp [more]

/-- The files below a directory stand behind the names of its entries, in their order. -/
theorem filesBelow_eq_map {t : FileTree} {directory : Path} {l : Location}
    (found : t.probe directory = .ok (some (l, .directory))) :
    ∃ files, Disk.filesBelow t directory =
        files.map (fun names => Path.mk directory.slashes (directory.parts ++ names)) ∧
      Path.Ordered id files ∧ ∀ names, names ∈ files ↔ names ≠ [] ∧ t.get? (l ++ names) ≠ none ∧
        t.isFile ⟨directory.slashes, directory.parts ++ names⟩ = true := by
  rw [Disk.filesBelow, found_of_probe found]
  refine ⟨_, List.filter_map, (Path.ordered_mergeSort id _).filter _, fun names => ?_⟩
  rw [List.mem_filter, List.mem_mergeSort, mem_map_fst_below, and_assoc]
  rfl

/-- The files below a directory have its parts and some more names. -/
theorem parts_of_filesBelow {t : FileTree} {directory source : Path}
    (listed : source ∈ Disk.filesBelow t directory) :
    ∃ names, names ≠ [] ∧ source = ⟨directory.slashes, directory.parts ++ names⟩ := by
  rw [Disk.filesBelow] at listed
  split at listed
  · obtain ⟨listed, -⟩ := List.mem_filter.mp listed
    obtain ⟨names, among, rfl⟩ := List.mem_map.mp listed
    rw [List.mem_mergeSort, mem_map_fst_below] at among
    exact ⟨names, among.1, rfl⟩
  · cases listed

/-- The content of a file among entries. -/
def fileOf : List Text × Entry → Option (List Text × Bytes)
  | (names, .file content) => some (names, content)
  | _ => none

/-- The files below a location, with the names that lead to them, in order. -/
def filesUnder (t : FileTree) (l : Location) : List (List Text × Bytes) :=
  ((t.below l).filterMap fileOf).mergeSort fun a b => !Path.partsBefore b.1 a.1

namespace Plain

variable {t t' : FileTree} {l : Location} {names : List Text}

theorem mem_below (plain : Plain t) {e : Entry} :
    (names, e) ∈ t.below l ↔ names ≠ [] ∧ t.get? (l ++ names) = some e := by
  simp only [below, List.mem_filterMap]
  constructor
  · rintro ⟨⟨l', e'⟩, among, is⟩
    split at is
    · rename_i under
      cases is
      rw [Bool.and_eq_true, List.isPrefixOf_iff_prefix] at under
      obtain ⟨⟨names, rfl⟩, other⟩ := under
      rw [List.drop_left]
      have more : names ≠ [] := by
        rintro rfl
        simp at other
      refine ⟨more, ?_⟩
      have named : (l ++ names).isEmpty = false := by simp [more]
      rw [get?, named]
      exact (lookup_iff_mem plain.distinct).mpr among
    · cases is
  · rintro ⟨more, there⟩
    have named : (l ++ names).isEmpty = false := by simp [more]
    rw [get?, named] at there
    refine ⟨(l ++ names, e), (lookup_iff_mem plain.distinct).mp there, ?_⟩
    have under : (l.isPrefixOf (l ++ names) && l != l ++ names) = true := by
      simp [more]
    simp only [under, if_true, List.drop_left]

theorem distinct_below (plain : Plain t) (l : Location) : ((t.below l).map (·.1)).Nodup := by
  rw [map_fst_below]
  refine plain.distinct.filterMap fun l' l'' names is is' => ?_
  simp only [Option.mem_def, Option.ite_none_right_eq_some, Bool.and_eq_true,
    List.isPrefixOf_iff_prefix, Option.some.injEq] at is is'
  obtain ⟨⟨⟨rest, rfl⟩, -⟩, is⟩ := is
  obtain ⟨⟨⟨rest', rfl⟩, -⟩, is'⟩ := is'
  rw [List.drop_left] at is is'
  rw [is, is']

theorem mem_filesUnder (plain : Plain t) {content : Bytes} :
    (names, content) ∈ t.filesUnder l ↔
      names ≠ [] ∧ t.bytesAt (l ++ names) = some content := by
  rw [filesUnder, List.mem_mergeSort, List.mem_filterMap, bytesAt_eq_some, ← plain.mem_below]
  constructor
  · rintro ⟨⟨names', _ | content' | _⟩, among, is⟩
    all_goals cases is
    exact among
  · intro among
    exact ⟨_, among, rfl⟩

theorem distinct_filesUnder (plain : Plain t) (l : Location) :
    ((t.filesUnder l).map (·.1)).Nodup := by
  have sorted := (List.mergeSort_perm ((t.below l).filterMap fileOf)
    fun a b => !Path.partsBefore b.1 a.1).map (·.1)
  rw [filesUnder, sorted.nodup_iff]
  have files : (((t.below l).filterMap fileOf).map (·.1)).Sublist ((t.below l).map (·.1)) := by
    generalize t.below l = entries
    induction entries with
    | nil => exact .slnil
    | cons entry rest inductionHypothesis =>
      obtain ⟨names, _ | content | _⟩ := entry
      · exact .cons _ inductionHypothesis
      · exact .cons_cons _ inductionHypothesis
      · exact .cons _ inductionHypothesis
  exact (plain.distinct_below l).sublist files

/-- The files below a location are those that can be read. -/
theorem filesBelow_eq (plain : Plain t) {p : Path}
    (probed : t.probe p = .ok (some (l, .directory))) :
    Disk.filesBelow t p =
      (t.filesUnder l).map fun file => Path.mk p.slashes (p.parts ++ file.1) := by
  have found : t.entry? p = some (l, .directory) := found_of_probe probed
  have is := (plain.get?_of_probe probed).1
  rw [Disk.filesBelow, found]
  simp only
  rw [List.filter_map]
  refine Eq.trans (congrArg _ ?_) List.map_map
  refine Path.Ordered.eq_of_mem_iff (f := id) ?_ ?_ ?_ ?_ fun names => ?_
  · exact (Path.ordered_mergeSort id _).filter _
  · exact List.pairwise_map.mpr (Path.ordered_mergeSort Prod.fst _)
  · rw [List.map_id]
    exact ((List.mergeSort_perm _ _).nodup_iff.mpr (plain.distinct_below l)).filter _
  · rw [List.map_id]
    exact plain.distinct_filesUnder l
  · rw [List.mem_filter, List.mem_mergeSort, List.mem_map, List.mem_map]
    constructor
    · rintro ⟨⟨⟨_, e⟩, among, rfl⟩, readable⟩
      have ⟨more, there⟩ := plain.mem_below.mp among
      obtain ⟨content, read⟩ := Option.isSome_iff_exists.mp readable
      have down := fun name below =>
        (plain.named _ _ there name (List.mem_append_right _ below)).down
      have bytes := plain.bytesAt_of_content? read
      rw [place_names t p down, ← is] at bytes
      exact ⟨(_, content), plain.mem_filesUnder.mpr ⟨more, bytes⟩, rfl⟩
    · rintro ⟨⟨_, content⟩, among, rfl⟩
      have ⟨more, bytes⟩ := plain.mem_filesUnder.mp among
      refine ⟨⟨(_, .file content), plain.mem_below.mpr ⟨more, bytesAt_eq_some.mp bytes⟩, rfl⟩, ?_⟩
      exact Option.isSome_iff_exists.mpr ⟨content, plain.content?_below probed bytes⟩

theorem filesUnder_congr (plain : Plain t) (plain' : Plain t')
    (same : ∀ names, t'.bytesAt (l ++ names) = t.bytesAt (l ++ names)) :
    t'.filesUnder l = t.filesUnder l := by
  refine Path.Ordered.eq_of_mem_iff (Path.ordered_mergeSort Prod.fst _)
    (Path.ordered_mergeSort Prod.fst _) (plain'.distinct_filesUnder l)
    (plain.distinct_filesUnder l) ?_
  rintro ⟨names, content⟩
  rw [plain'.mem_filesUnder, plain.mem_filesUnder, same]

end Plain

end FileTree

end HaxeBuild
