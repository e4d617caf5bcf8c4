import HaxeBuild.Proofs.Files.Plain

namespace HaxeBuild

/-- Destinations with the bytes that are to be written there. -/
abbrev Copies := List (Path × Bytes)

namespace Copies

/-- What the last copy to a location brings there. The copies are written where `lands` says. -/
def lastAt (copies : Copies) (lands : Path → Location) (l : Location) : Option Bytes :=
  (copies.reverse.find? fun copy => lands copy.1 == l).map (·.2)

variable {copies : Copies} {lands lands' : Path → Location} {l : Location}

theorem lastAt_append (copies : Copies) (lands : Path → Location) (copy : Path × Bytes)
    (l : Location) : lastAt (copies ++ [copy]) lands l =
      if lands copy.1 = l then some copy.2 else copies.lastAt lands l := by
  rw [lastAt, List.reverse_append, List.reverse_singleton, List.singleton_append, List.find?_cons]
  by_cases here : lands copy.1 = l
  · rw [here, beq_self_eq_true, if_pos rfl]
    rfl
  · rw [beq_false_of_ne here, if_neg here]
    rfl

theorem lastAt_congr (same : ∀ copy ∈ copies, lands copy.1 = lands' copy.1) :
    copies.lastAt lands = copies.lastAt lands' := by
  funext l
  induction copies using List.reverseRecOn with
  | nil => rfl
  | append_singleton copies copy inductionHypothesis =>
    rw [List.forall_mem_append, List.forall_mem_singleton] at same
    rw [lastAt_append, lastAt_append, same.2, inductionHypothesis same.1]

theorem lastAt_eq_none : copies.lastAt lands l = none ↔ ∀ copy ∈ copies, lands copy.1 ≠ l := by
  simp [lastAt]

end Copies

namespace FileTree

/-- The files are those of the earlier tree after the copies. -/
def Overlaid (t : FileTree) (copies : Copies) (lands : Path → Location) (t' : FileTree) : Prop :=
  ∀ l, t'.bytesAt l = (copies.lastAt lands l).or (t.bytesAt l)

/-- Where a file is written that is copied to a path: a directory that is there gets it under the
name of the path. -/
def landing (t : FileTree) (p : Path) : Location :=
  if t.get? (t.place p) = some .directory then t.place p ++ [p.name] else t.place p

/-- Copies were written below a directory. -/
structure Receives (t : FileTree) (root : Path) (copies : Copies) (t' : FileTree) : Prop where
  plain : t'.Plain
  cwd : t'.cwd = t.cwd
  overlaid : Overlaid t copies t'.landing t'
  occupied : ∀ copy ∈ copies, t'.get? (t.place copy.1) ≠ none
  inside : ∀ copy ∈ copies, t.place root <+: t.place copy.1

section Landing

variable {t : FileTree} {p : Path} {l : Location}

theorem landing_of_place (t' : FileTree) (same : t'.cwd = t.cwd)
    (directory : t'.get? (t.place p) = some .directory ↔ t.get? (t.place p) = some .directory) :
    t'.landing p = t.landing p := by
  rw [landing, landing, place_of_cwd same]
  simp only [directory]

theorem landing_of_ne {t : FileTree} {p : Path} (other : t.get? (t.place p) ≠ some .directory) :
    t.landing p = t.place p :=
  if_neg other

theorem landing_prefix (t : FileTree) (p : Path) : t.place p <+: t.landing p := by
  rw [landing]
  split
  · exact List.prefix_append _ _
  · exact List.prefix_refl _

theorem landing_of_opens (plain : t.Plain) (opens : Opens t p l) : t.landing p = l := by
  rw [plain.eq_place_of_opens opens]
  exact landing_of_ne (plain.eq_place_of_opens opens ▸ opens.ne_directory)

theorem landing_of_isDirectory (plain : t.Plain) (directory : t.isDirectory p = true)
    (down : (p.name == "..") = false) (opens : Opens t (p.child p.name) l) : t.landing p = l := by
  rw [plain.eq_place_of_opens opens, place_child t p down, landing, if_pos]
  rw [isDirectory, entry?] at directory
  split at directory
  · rename_i l there
    split at there
    · rename_i probed
      exact (plain.get?_of_probe (probed.trans (congrArg _ there))).2
    · cases there
  · cases directory

end Landing

namespace Receives

variable {t t' t'' : FileTree} {root : Path} {copies : Copies}

theorem start (plain : t.Plain) (root : Path) : Receives t root [] t where
  plain := plain
  cwd := rfl
  overlaid := fun _ => rfl
  occupied := List.forall_mem_nil _
  inside := List.forall_mem_nil _

/-- What is at a destination stays there when directories are made. -/
theorem get?_grow (receives : Receives t root copies t') (grows : Grows t' t'')
    {copy : Path × Bytes} (among : copy ∈ copies) :
    t''.get? (t.place copy.1) = t'.get? (t.place copy.1) := by
  obtain ⟨e, found⟩ := Option.ne_none_iff_exists'.mp (receives.occupied copy among)
  rw [found, grows.get?_eq found]

/-- Directories can be made. -/
theorem grow (receives : Receives t root copies t') (plain : t''.Plain) (grows : Grows t' t'') :
    Receives t root copies t'' := by
  have lands : ∀ copy ∈ copies, t''.landing copy.1 = t'.landing copy.1 := by
    intro copy among
    refine landing_of_place t'' grows.cwd ?_
    rw [place_of_cwd receives.cwd, receives.get?_grow grows among]
  refine ⟨plain, grows.cwd.trans receives.cwd, fun l => ?_, ?_, receives.inside⟩
  · rw [grows.bytesAt, Copies.lastAt_congr lands]
    exact receives.overlaid l
  · intro copy among
    rw [receives.get?_grow grows among]
    exact receives.occupied copy among

/-- One more copy can be written. -/
theorem write (receives : Receives t root copies t') {p q : Path} {l : Location} {content : Bytes}
    (opens : t'.Opens q l) (lands : t'.landing p = l) (inside : t.place root <+: t.place p) :
    Receives t root (copies ++ [(p, content)]) (t'.set l (.file content)) := by
  have plain := receives.plain.write opens content
  have named : l ≠ [] := by
    rintro rfl
    exact opens.ne_directory rfl
  have now (l' : Location) := get?_set t' l l' (.file content) named
  have directory (l' : Location) : (t'.set l (.file content)).get? l' = some .directory ↔
      t'.get? l' = some .directory := by
    rw [now]
    split
    · rename_i same
      rw [same]
      simp [opens.ne_directory]
    · rfl
  have same (p : Path) : (t'.set l (.file content)).landing p = t'.landing p :=
    landing_of_place _ rfl (directory _)
  refine ⟨plain, receives.cwd, fun l' => ?_, ?_, ?_⟩
  · rw [Copies.lastAt_append, same, lands, Copies.lastAt_congr fun copy _ => same copy.1]
    by_cases here : l = l'
    · subst here
      rw [if_pos rfl]
      exact bytesAt_eq_some.mpr ((now l).trans (if_pos rfl))
    · rw [if_neg here, ← receives.overlaid, bytesAt, bytesAt, now, if_neg (Ne.symm here)]
  · have kept {l' : Location} (there : t'.get? l' ≠ none) :
        (t'.set l (.file content)).get? l' ≠ none := by
      rw [now]
      split
      · exact Option.some_ne_none _
      · exact there
    intro copy among
    rcases List.mem_append.mp among with earlier | new
    · exact kept (receives.occupied copy earlier)
    · cases List.mem_singleton.mp new
      rw [← place_of_cwd receives.cwd]
      by_cases there : t'.get? (t'.place p) = some .directory
      · exact kept (there ▸ Option.some_ne_none _)
      · rw [landing_of_ne there] at lands
        rw [now, lands, if_pos rfl]
        exact Option.some_ne_none _
  · intro copy among
    rcases List.mem_append.mp among with earlier | new
    · exact receives.inside copy earlier
    · cases List.mem_singleton.mp new
      exact inside

/-- Outside the directory all files are as they were. -/
theorem bytesAt_outside (receives : Receives t root copies t') {l : Location}
    (outside : ¬ t.place root <+: l) : t'.bytesAt l = t.bytesAt l := by
  have none : copies.lastAt t'.landing l = none := by
    refine Copies.lastAt_eq_none.mpr fun copy among lands => outside ?_
    have below := (receives.inside copy among).trans
      (place_of_cwd receives.cwd ▸ t'.landing_prefix copy.1)
    rwa [lands] at below
  rw [receives.overlaid, none, Option.none_or]

/-- What was copied is at the destinations exactly if these are no directories. -/
theorem overlaid_place_iff (receives : Receives t root copies t') :
    Overlaid t copies t.place t' ↔
      ∀ p ∈ copies.map (·.1), t'.get? (t.place p) ≠ some .directory := by
  rw [List.forall_mem_map]
  constructor
  · intro overlaid copy among directory
    have here := overlaid (t.place copy.1)
    rw [bytesAt, directory] at here
    have none := (Option.or_eq_none_iff.mp here.symm).1
    exact Copies.lastAt_eq_none.mp none copy among rfl
  · intro flat l
    have lands : ∀ copy ∈ copies, t'.landing copy.1 = t.place copy.1 := by
      intro copy among
      have flat := flat copy among
      rw [← place_of_cwd receives.cwd] at flat ⊢
      exact landing_of_ne flat
    rw [← Copies.lastAt_congr lands]
    exact receives.overlaid l

end Receives

end FileTree

end HaxeBuild
