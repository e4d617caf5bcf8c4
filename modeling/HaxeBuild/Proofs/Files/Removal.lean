import HaxeBuild.Proofs.Files.Writing

namespace HaxeBuild

open Effect

namespace FileTree

theorem lookup_filter_fst (kept : Location → Bool) (entries : List (Location × Entry))
    (l : Location) :
    (entries.filter fun entry => kept entry.1).lookup l =
      if kept l then entries.lookup l else none := by
  induction entries with
  | nil => split <;> rfl
  | cons entry rest inductionHypothesis =>
    obtain ⟨l', e⟩ := entry
    by_cases same : l = l'
    · subst same
      cases known : kept l <;> simp [known, inductionHypothesis]
    · have other : (l == l') = false := beq_false_of_ne same
      cases known : kept l' <;> simp [List.lookup_cons, known, other, inductionHypothesis]

/-- What stood at the path is gone, a directory with everything below it, and nothing else is
different. If the path led nowhere, then nothing is different at all. -/
inductive Removed (t : FileTree) (p : Path) (t' : FileTree) : Prop where
  | absent (nothing : t.probe p = .ok none) (same : t' = t)
  | entry {l : Location} {e : Entry} (found : t.locate false p = .ok (.entry l e))
      (cwd : t'.cwd = t.cwd)
      (left : ∀ l', t'.get? l' =
        if l' = l ∨ e = .directory ∧ l <+: l' then none else t.get? l')

/-- Only the root directory is found under no name. -/
theorem Walks.named {t : FileTree} {followLast : Bool} {l m : Location} {steps : List Text}
    {spot : Spot} {e : Entry} (walks : Walks t followLast l steps spot) (is : spot = .entry m e)
    (other : e ≠ .directory) : m ≠ [] := by
  induction walks with
  | here =>
    cases is
    exact absurd rfl other
  | up _ inductionHypothesis => exact inductionHypothesis is
  | directory _ _ _ inductionHypothesis => exact inductionHypothesis is
  | link _ _ _ _ inductionHypothesis => exact inductionHypothesis is
  | file =>
    cases is
    exact List.append_ne_nil_of_right_ne_nil _ (List.cons_ne_nil _ _)
  | lastLink =>
    cases is
    exact List.append_ne_nil_of_right_ne_nil _ (List.cons_ne_nil _ _)
  | free => cases is

theorem removed_erase {t : FileTree} {p : Path} {l : Location} {e : Entry}
    (found : t.locate false p = .ok (.entry l e)) (other : e ≠ .directory) :
    t.Removed p (t.erase l) := by
  have named := (walks_of_locate found).named rfl other
  refine .entry found rfl fun l' => ?_
  have below : ¬ (e = .directory ∧ l <+: l') := fun is => other is.1
  rw [get?, get?, erase, lookup_filter_fst (· != l)]
  by_cases same : l' = l
  · subst same
    simp [named]
  · simp [same, below]

theorem removed_eraseBelow {t : FileTree} {p : Path} {l : Location}
    (found : t.locate false p = .ok (.entry l .directory)) (named : l ≠ []) :
    t.Removed p (t.eraseBelow l) := by
  refine .entry found rfl fun l' => ?_
  rw [get?, get?, eraseBelow, lookup_filter_fst fun l' => !l.isPrefixOf l']
  by_cases below : l <+: l'
  · have more : l' ≠ [] := by
      rintro rfl
      exact named (List.prefix_nil.mp below)
    simp [below, more, List.isPrefixOf_iff_prefix.mpr below]
  · have other : l' ≠ l := by
      rintro rfl
      exact below (List.prefix_refl _)
    have apart : l.isPrefixOf l' = false :=
      Bool.eq_false_iff.mpr fun is => below (List.isPrefixOf_iff_prefix.mp is)
    simp [below, other, apart]

end FileTree

namespace Disk

open FileTree

/-- A removal that succeeds has removed what is at the path. -/
theorem removed_of_remove {t t' : FileTree} {p : Path}
    (done : perform (remove p) t = (.ok (), t')) : t.Removed p t' := by
  rw [remove, perform_bind, perform_probe] at done
  have unlinked (done : perform (unlink p) t = (.ok (), t')) : t.Removed p t' := by
    rw [unlink, perform_bind, perform_locate] at done
    rcases found : t.locate false p with f | ⟨l, content | content | target⟩ | l
    all_goals
      rw [found] at done
      cases done
    · exact removed_erase found nofun
    · exact removed_erase found nofun
  rcases probed : t.probe p with f | _ | ⟨l, content | content | target⟩
  all_goals rw [probed] at done
  · cases done
  · cases done
    exact .absent probed rfl
  · change perform (removeTree p) t = _ at done
    rw [removeTree, perform_bind, perform_locate] at done
    rcases found : t.locate false p with f | ⟨l, content | content | target⟩ | l
    all_goals rw [found] at done
    · cases done
    · simp only [perform_bind, perform_modify] at done
      cases l with
      | nil => cases done
      | cons name rest =>
        cases done
        exact removed_eraseBelow found (List.cons_ne_nil _ _)
    · cases done
    · cases done
    · cases done
  · exact unlinked done
  · exact unlinked done

end Disk

end HaxeBuild
