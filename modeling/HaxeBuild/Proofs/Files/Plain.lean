import Mathlib.Data.List.Induction
import Mathlib.Data.List.Nodup
import HaxeBuild.Proofs.Files.Writing

namespace HaxeBuild.FileTree

/-- The location that a path names, if there are no links. -/
def place (t : FileTree) (p : Path) : Location := onPaper (t.startOf p) p.parts

/-- The content of the file at a location. -/
def bytesAt (t : FileTree) (l : Location) : Option Bytes :=
  match t.get? l with
  | some (.file content) => some content
  | _ => none

/-- A name that an entry can have. -/
structure IsName (name : Text) : Prop where
  down : (name == "..") = false
  short : isTooLong name = false
  asked : IsAskable name

instance (name : Text) : Decidable (IsName name) :=
  decidable_of_iff ((name == "..") = false ∧ isTooLong name = false ∧ IsAskable name)
    ⟨fun ⟨down, short, asked⟩ => ⟨down, short, asked⟩,
      fun ⟨down, short, asked⟩ => ⟨down, short, asked⟩⟩

/-- A file tree without links. -/
structure Plain (t : FileTree) : Prop where
  distinct : (t.entries.map (·.1)).Nodup
  named : ∀ l e, t.get? l = some e → ∀ name ∈ l, IsName name
  parents : ∀ l e, t.get? l = some e → t.get? l.dropLast = some .directory
  noLinks : ∀ l target, t.get? l ≠ some (.link target)
  cwd : t.get? t.cwd = some .directory

/-- A location has bytes exactly if there is a file with them. -/
theorem bytesAt_eq_some {t : FileTree} {l : Location} {content : Bytes} :
    t.bytesAt l = some content ↔ t.get? l = some (.file content) := by
  rw [bytesAt]
  split
  · rename_i found
    simp [found]
  · rename_i other
    simp only [reduceCtorEq, false_iff]
    exact other content

/-- What is written to a file is its content, and all other files are as they were. -/
theorem bytesAt_set {t : FileTree} {l : Location} (other : t.get? l ≠ some .directory)
    (content : Bytes) (l' : Location) :
    (t.set l (.file content)).bytesAt l' = if l' = l then some content else t.bytesAt l' := by
  have named : l ≠ [] := by
    rintro rfl
    exact other rfl
  rw [bytesAt, get?_set t l l' _ named]
  by_cases same : l' = l
  · rw [if_pos same, if_pos same]
  · rw [if_neg same, if_neg same, bytesAt]

/-- Among distinct locations an entry is found exactly if it is there. -/
theorem lookup_iff_mem {entries : List (Location × Entry)}
    (distinct : (entries.map (·.1)).Nodup) {l : Location} {e : Entry} :
    entries.lookup l = some e ↔ (l, e) ∈ entries := by
  induction entries with
  | nil => simp
  | cons entry rest inductionHypothesis =>
    obtain ⟨l', e'⟩ := entry
    have ⟨new, others⟩ := List.nodup_cons.mp distinct
    rw [List.lookup_cons, List.mem_cons, ← inductionHypothesis others]
    by_cases same : l = l'
    · subst same
      have absent : rest.lookup l ≠ some e := fun found =>
        new (List.mem_map.mpr ⟨_, (inductionHypothesis others).mp found, rfl⟩)
      simp [absent, eq_comm]
    · simp [same, beq_false_of_ne same]

/-- For a tree that is written out, it is enough to look at its entries. -/
theorem plain_of_entries {t : FileTree} (distinct : (t.entries.map (·.1)).Nodup)
    (named : ∀ entry ∈ t.entries, ∀ name ∈ entry.1, IsName name)
    (parents : ∀ entry ∈ t.entries, t.get? entry.1.dropLast = some .directory)
    (noLinks : ∀ entry ∈ t.entries, entry.2 = .directory ∨ (t.bytesAt entry.1).isSome = true)
    (cwd : t.get? t.cwd = some .directory) : Plain t := by
  have among {l : Location} {e : Entry} (there : t.get? l = some e) :
      l = [] ∧ e = .directory ∨ (l, e) ∈ t.entries := by
    rw [get?] at there
    split at there
    · rename_i root
      exact .inl ⟨List.isEmpty_iff.mp root, (Option.some.inj there).symm⟩
    · exact .inr ((lookup_iff_mem distinct).mp there)
  refine ⟨distinct, fun l e there => ?_, fun l e there => ?_, fun l target there => ?_, cwd⟩
  · rcases among there with ⟨rfl, -⟩ | listed
    · exact List.forall_mem_nil _
    · exact named _ listed
  · rcases among there with ⟨rfl, -⟩ | listed
    · rfl
    · exact parents _ listed
  · rcases among there with ⟨-, impossible⟩ | listed
    · cases impossible
    · rcases noLinks _ listed with impossible | file
      · cases impossible
      · rw [bytesAt, there] at file
        cases file

/-! ### Paths on paper -/

/-- Steps on paper are taken one after the other. -/
theorem onPaper_append (l : Location) (steps more : List Text) :
    onPaper l (steps ++ more) = onPaper (onPaper l steps) more := by
  induction steps generalizing l with
  | nil => rfl
  | cons name steps inductionHypothesis => exact inductionHypothesis _

theorem onPaper_name {name : Text} (down : (name == "..") = false) (l : Location)
    (rest : List Text) : onPaper l (name :: rest) = onPaper (l ++ [name]) rest := by
  rw [onPaper, down, if_neg Bool.false_ne_true]

/-- Names lead down on paper. -/
theorem onPaper_names {names : List Text} (down : ∀ name ∈ names, (name == "..") = false)
    (l : Location) : onPaper l names = l ++ names := by
  induction names generalizing l with
  | nil => exact (List.append_nil l).symm
  | cons name names inductionHypothesis =>
    have ⟨here, rest⟩ := List.forall_mem_cons.mp down
    rw [onPaper_name here, inductionHypothesis rest, List.append_assoc]
    rfl

/-- Where a path is on paper depends on the working directory only. -/
theorem place_of_cwd {t t' : FileTree} (same : t'.cwd = t.cwd) : t'.place = t.place := by
  funext p
  rw [place, place, startOf, startOf, same]

/-- Names that are added to a path are added to its location. -/
theorem place_names (t : FileTree) (p : Path) {names : List Text}
    (down : ∀ name ∈ names, (name == "..") = false) :
    t.place ⟨p.slashes, p.parts ++ names⟩ = t.place p ++ names := by
  rw [place, onPaper_append, onPaper_names down]
  rfl

/-- A child is one name below. -/
theorem place_child (t : FileTree) (p : Path) {name : Text} (down : (name == "..") = false) :
    t.place (p.child name) = t.place p ++ [name] :=
  t.place_names p (List.forall_mem_singleton.mpr down)

section NoLinks

variable {t : FileTree} (noLinks : ∀ l target, t.get? l ≠ some (.link target))

include noLinks

/-- Without links, steps lead where they lead on paper. -/
theorem leads_onPaper (l : Location) (steps : List Text) :
    Leads t steps.length l steps (onPaper l steps) := by
  induction steps generalizing l with
  | nil => exact .here
  | cons name steps inductionHypothesis =>
    rw [onPaper]
    cases down : name == ".." with
    | true =>
      rw [eq_of_beq down]
      exact .up (inductionHypothesis _)
    | false => exact .name down (noLinks _) (inductionHypothesis _)

/-- Without links, a path stands for the location that it names. -/
theorem resolve_eq_place {p : Path} (asked : askable p = .ok ()) :
    t.resolve p = .ok (t.place p) :=
  (leads_onPaper noLinks (t.startOf p) p.parts).resolve_eq asked

end NoLinks

namespace Plain

variable {t : FileTree} {l : Location} {p : Path}

/-- A path is resolved on paper. -/
theorem eq_place_of_resolve (plain : Plain t) (resolved : t.resolve p = .ok l) :
    l = t.place p := by
  rw [resolve_eq_place plain.noLinks (resolve_eq_ok.mp resolved).1] at resolved
  exact (Except.ok.inj resolved).symm

/-- A path starts at a directory. -/
theorem start (plain : Plain t) (p : Path) : t.get? (t.startOf p) = some .directory := by
  rw [startOf]
  split
  · rfl
  · exact plain.cwd

/-- What is above a directory is a directory. -/
theorem dropLast (plain : Plain t) (directory : t.get? l = some .directory) :
    t.get? l.dropLast = some .directory :=
  plain.parents l _ directory

end Plain

/-- What is found where the steps lead to: the entry there, or a name that is free in a
directory. -/
inductive Ends (t : FileTree) (l : Location) (steps : List Text) : Spot → Prop where
  | entry {e : Entry} (there : t.get? l = some e) : Ends t l steps (.entry l e)
  | free {here : Location} {name : Text} (is : l = here ++ [name]) (among : name ∈ steps)
      (down : (name == "..") = false) (short : isTooLong name = false)
      (directory : t.get? here = some .directory) (missing : t.get? l = none) :
      Ends t l steps (.free l)

theorem Ends.cons {t : FileTree} {l : Location} {steps : List Text} {spot : Spot}
    (ends : Ends t l steps spot) (name : Text) : Ends t l (name :: steps) spot := by
  cases ends with
  | entry there => exact .entry there
  | free is among down short directory missing =>
    exact .free is (.tail _ among) down short directory missing

/-- Setting an entry adds its location, unless this was there. -/
theorem map_fst_setIn (entries : List (Location × Entry)) (l : Location) (e : Entry) :
    (setIn l e entries).map (·.1) =
      if l ∈ entries.map (·.1) then entries.map (·.1) else entries.map (·.1) ++ [l] := by
  induction entries with
  | nil => rfl
  | cons entry rest inductionHypothesis =>
    obtain ⟨l', old⟩ := entry
    rw [setIn]
    cases same : l' == l with
    | true =>
      rw [if_pos rfl, eq_of_beq same]
      simp
    | false =>
      have other : l ≠ l' := (ne_of_beq_false same).symm
      rw [if_neg Bool.false_ne_true, List.map_cons, inductionHypothesis]
      by_cases among : l ∈ rest.map (·.1)
      · simp only [List.map_cons, if_pos among, if_pos (List.mem_cons_of_mem _ among)]
      · rw [if_neg among, List.map_cons, if_neg (List.not_mem_cons_of_ne_of_not_mem other among)]
        rfl

/-- No location comes twice. -/
theorem nodup_setIn {entries : List (Location × Entry)} (distinct : (entries.map (·.1)).Nodup)
    (l : Location) (e : Entry) : ((setIn l e entries).map (·.1)).Nodup := by
  rw [map_fst_setIn]
  split
  · exact distinct
  · rw [← List.concat_eq_append]
    exact List.Nodup.concat ‹_› distinct

namespace Plain

variable {t : FileTree} {l : Location} {steps : List Text} {p : Path} {spot : Spot}
  {followLast : Bool}

/-- A walk without links ends where it does on paper. -/
theorem ends_of_walkWith (plain : Plain t) {onLink : Location → List Text → Except Refusal Spot}
    (directory : t.get? l = some .directory)
    (found : walkWith t followLast onLink l steps = .ok spot) :
    Ends t (onPaper l steps) steps spot := by
  induction steps generalizing l with
  | nil =>
    cases found
    exact .entry directory
  | cons name rest inductionHypothesis =>
    cases firstStep found with
    | up further => exact (inductionHypothesis (plain.dropLast directory) further).cons ".."
    | directory down short there further =>
      rw [onPaper_name down]
      exact (inductionHypothesis there further).cons name
    | link down short there => exact absurd there (plain.noLinks _ _)
    | file down short there =>
      rw [onPaper_name down]
      exact .entry there
    | lastLink down short there => exact absurd there (plain.noLinks _ _)
    | free down short missing =>
      rw [onPaper_name down]
      exact .free rfl (.head _) down short directory missing

/-- So does the walk of a path. -/
theorem ends_of_locate (plain : Plain t) (found : t.locate followLast p = .ok spot) :
    Ends t (t.place p) p.parts spot :=
  plain.ends_of_walkWith (plain.start p) (locate_eq_ok.mp found).2

/-- What is probed is at the place of the path. -/
theorem get?_of_probe (plain : Plain t) {e : Entry} (probed : t.probe p = .ok (some (l, e))) :
    l = t.place p ∧ t.get? (t.place p) = some e := by
  cases plain.ends_of_locate (locate_of_probe probed) with
  | entry there => exact ⟨rfl, there⟩

/-- A file is opened at the place of its path. -/
theorem eq_place_of_opens (plain : Plain t) (opens : Opens t p l) : l = t.place p := by
  cases opens with
  | free found =>
    cases plain.ends_of_locate found with
    | free => rfl
  | file found =>
    cases plain.ends_of_locate found with
    | entry => rfl

/-- A free name of a directory, or a file, can get another entry. -/
theorem set (plain : Plain t) {here : Location} {name : Text} {e : Entry}
    (directory : t.get? here = some .directory) (isName : IsName name)
    (old : t.get? (here ++ [name]) ≠ some .directory)
    (noLink : ∀ target, e ≠ .link target) : Plain (t.set (here ++ [name]) e) := by
  have now (l : Location) := get?_set t (here ++ [name]) l e (by simp)
  have kept {l : Location} (there : t.get? l = some .directory) :
      (t.set (here ++ [name]) e).get? l = some .directory := by
    rw [now, if_neg, there]
    rintro rfl
    exact old there
  refine ⟨?_, ?_, ?_, ?_, ?_⟩
  · exact nodup_setIn plain.distinct _ _
  · intro l e' there other among
    rw [now] at there
    split at there
    · rename_i same
      rw [same, List.mem_append, List.mem_singleton] at among
      rcases among with above | rfl
      · exact plain.named _ _ directory other above
      · exact isName
    · exact plain.named l e' there other among
  · intro l e' there
    rw [now] at there
    split at there
    · rename_i same
      rw [same, List.dropLast_concat]
      exact kept directory
    · exact kept (plain.parents l e' there)
  · intro l target there
    rw [now] at there
    split at there
    · exact noLink target (Option.some.inj there)
    · exact plain.noLinks l target there
  · exact kept plain.cwd

/-- A directory can be made where a path leads to a free name. -/
theorem make (plain : Plain t) (found : t.locate followLast p = .ok (.free l)) :
    Plain (t.set l .directory) := by
  have asked := askable_iff.mp (locate_eq_ok.mp found).1
  cases plain.ends_of_locate found with
  | @free here name is among down short directory missing =>
    rw [is] at missing ⊢
    exact plain.set directory ⟨down, short, asked name among⟩ (by rw [missing]; nofun) nofun

/-- A file can be written where a path leads. -/
theorem write (plain : Plain t) (opens : Opens t p l) (content : Bytes) :
    Plain (t.set l (.file content)) := by
  cases opens with
  | free found =>
    have asked := askable_iff.mp (locate_eq_ok.mp found).1
    cases plain.ends_of_locate found with
    | @free here name is among down short directory missing =>
      rw [is] at missing ⊢
      exact plain.set directory ⟨down, short, asked name among⟩ (by rw [missing]; nofun) nofun
  | @file old found =>
    cases plain.ends_of_locate found with
    | entry there =>
      have named : t.place p ≠ [] := by
        intro root
        rw [root] at there
        cases there
      have is := List.dropLast_concat_getLast named
      have isName := plain.named _ _ there _ (List.getLast_mem named)
      have directory := plain.parents _ _ there
      rw [← is] at there ⊢
      exact plain.set directory isName (by rw [there]; nofun) nofun

/-! ### Ways down -/

/-- What is above an entry is a directory. -/
theorem above (plain : Plain t) {names : List Text} {e : Entry}
    (there : t.get? (l ++ names) = some e) (more : names ≠ []) : t.get? l = some .directory := by
  induction names using List.reverseRecOn generalizing e with
  | nil => exact absurd rfl more
  | append_singleton names name inductionHypothesis =>
    have directory := plain.parents _ _ there
    rw [← List.append_assoc, List.dropLast_concat] at directory
    cases names with
    | nil => rwa [List.append_nil] at directory
    | cons => exact inductionHypothesis directory (List.cons_ne_nil _ _)

/-- Behind a directory the walk goes on. -/
theorem walkWith_append (plain : Plain t) {onLink : Location → List Text → Except Refusal Spot}
    {m : Location} (found : walkWith t followLast onLink l steps = .ok (.entry m .directory))
    (more : List Text) :
    walkWith t followLast onLink l (steps ++ more) = walkWith t followLast onLink m more := by
  induction steps generalizing l with
  | nil =>
    cases found
    rfl
  | cons name rest inductionHypothesis =>
    rw [List.cons_append]
    refine FirstStep.walkWith_eq ?_
    cases firstStep found with
    | up further => exact .up (inductionHypothesis further)
    | directory down short there further =>
      exact .directory down short there (inductionHypothesis further)
    | link down short there => exact absurd there (plain.noLinks _ _)

/-- A file is found by the names that lead to it. -/
theorem walkWith_names (plain : Plain t) {onLink : Location → List Text → Except Refusal Spot}
    {names : List Text} {content : Bytes} (directory : t.get? l = some .directory)
    (there : t.get? (l ++ names) = some (.file content)) :
    walkWith t followLast onLink l names = .ok (.entry (l ++ names) (.file content)) := by
  induction names generalizing l with
  | nil =>
    rw [List.append_nil, directory] at there
    cases there
  | cons name rest inductionHypothesis =>
    have isName := plain.named _ _ there name (List.mem_append_right _ (.head _))
    have split : l ++ name :: rest = l ++ [name] ++ rest := List.append_cons ..
    rw [split] at there ⊢
    refine FirstStep.walkWith_eq ?_
    cases rest with
    | nil =>
      rw [List.append_nil] at there ⊢
      exact .file isName.down isName.short there
    | cons next rest =>
      have further := plain.above there (List.cons_ne_nil _ _)
      exact .directory isName.down isName.short further (inductionHypothesis further there)

/-- A path that leads to a file ends with the name of the file. -/
theorem last_of_walkWith (plain : Plain t) {onLink : Location → List Text → Except Refusal Spot}
    {m : Location} {content : Bytes}
    (found : walkWith t followLast onLink l steps = .ok (.entry m (.file content)))
    (default : Text) : (steps.getLastD default == "..") = false := by
  induction steps generalizing l default with
  | nil => cases found
  | cons name rest inductionHypothesis =>
    rw [List.getLastD_cons]
    cases firstStep found with
    | up further => exact inductionHypothesis further ".."
    | directory down short there further => exact inductionHypothesis further name
    | link down short there => exact absurd there (plain.noLinks _ _)
    | file down => exact down

/-- The name of a file does not lead up. -/
theorem name_of_probe (plain : Plain t) {content : Bytes}
    (probed : t.probe p = .ok (some (l, .file content))) : (p.name == "..") = false :=
  plain.last_of_walkWith (locate_eq_ok.mp (locate_of_probe probed)).2 []

/-- The content of a file is at its place. -/
theorem bytesAt_of_content? (plain : Plain t) {content : Bytes}
    (found : t.content? p = some content) : t.bytesAt (t.place p) = some content := by
  rw [content?, entry?] at found
  split at found
  · rename_i l content there
    cases found
    split at there
    · rename_i probed
      exact bytesAt_eq_some.mpr (plain.get?_of_probe (probed.trans (congrArg _ there))).2
    · cases there
  · cases found

/-- What is below a directory is found by the path of the directory. -/
theorem content?_below (plain : Plain t) (probed : t.probe p = .ok (some (l, .directory)))
    {names : List Text} {content : Bytes} (there : t.bytesAt (l ++ names) = some content) :
    t.content? ⟨p.slashes, p.parts ++ names⟩ = some content := by
  have file := bytesAt_eq_some.mp there
  have ⟨asked, walked⟩ := locate_eq_ok.mp (locate_of_probe probed)
  have directory : t.get? l = some .directory := by
    have ⟨is, found⟩ := plain.get?_of_probe probed
    rw [is, found]
  have found := (plain.walkWith_append walked names).trans (plain.walkWith_names directory file)
  refine content?_of_locate (locate_eq_ok.mpr ⟨askable_iff.mpr fun part among => ?_, found⟩)
  rcases List.mem_append.mp among with first | below
  · exact askable_iff.mp asked part first
  · exact (plain.named _ _ file part (List.mem_append_right _ below)).asked

end Plain

/-! ### More directories -/

/-- Nothing is different but that there are more directories. -/
structure Grows (t t' : FileTree) : Prop where
  cwd : t'.cwd = t.cwd
  changes : ∀ l, t'.get? l = t.get? l ∨ t.get? l = none ∧ t'.get? l = some .directory

namespace Grows

variable {t t' : FileTree}

theorem refl (t : FileTree) : Grows t t := ⟨rfl, fun _ => .inl rfl⟩

/-- Directories add no bytes. -/
theorem bytesAt (grows : Grows t t') : t'.bytesAt = t.bytesAt := by
  funext l
  rw [FileTree.bytesAt, FileTree.bytesAt]
  rcases grows.changes l with same | ⟨missing, made⟩
  · rw [same]
  · rw [missing, made]

/-- What is there stays there. -/
theorem get?_eq (grows : Grows t t') {l : Location} {e : Entry} (there : t.get? l = some e) :
    t'.get? l = some e := by
  rcases grows.changes l with same | ⟨missing, -⟩
  · rw [same, there]
  · rw [there] at missing
    cases missing

end Grows

/-- One more directory can be made. -/
theorem Grows.make {t t' : FileTree} (grows : Grows t t') {l : Location}
    (missing : t'.get? l = none) : Grows t (t'.set l .directory) := by
  have named : l ≠ [] := by
    rintro rfl
    cases missing
  refine ⟨grows.cwd, fun l' => ?_⟩
  rw [get?_set t' l l' _ named]
  split
  · rename_i same
    rw [same]
    rcases grows.changes l with same | ⟨absent, made⟩
    · exact .inr ⟨same ▸ missing, rfl⟩
    · exact .inr ⟨absent, rfl⟩
  · exact grows.changes l'

/-- Ensuring a directory adds directories only. -/
theorem keeps_grows_ensureDirectory (t : FileTree) (p : Path) :
    Effect.Keeps (Grows t) (fun _ => True) (Disk.ensureDirectory p) :=
  Disk.keeps_ensureDirectory fun _ _ _ _ grows found =>
    grows.make ((walks_of_locate found).free_missing rfl)

/-- It adds no links either. -/
theorem keeps_plain_ensureDirectory (t : FileTree) (p : Path) :
    Effect.Keeps (fun t' => Plain t' ∧ Grows t t') (fun _ => True) (Disk.ensureDirectory p) :=
  Disk.keeps_ensureDirectory fun _ _ _ _ ⟨plain, grows⟩ found =>
    ⟨plain.make found, grows.make ((walks_of_locate found).free_missing rfl)⟩

/-- So the tree stays plain, whether the directory can be made or not. -/
theorem grows_of_ensureDirectory {t t' : FileTree} {p : Path} {o : Except Fault Unit}
    (plain : t.Plain) (made : Effect.perform (Disk.ensureDirectory p) t = (o, t')) :
    Plain t' ∧ Grows t t' := by
  have kept := (keeps_plain_ensureDirectory t p t ⟨plain, .refl t⟩).1
  rwa [made] at kept

end HaxeBuild.FileTree
