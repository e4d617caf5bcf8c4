import Mathlib.Data.List.Lex
import HaxeBuild.Proofs.Text.Escaping

namespace HaxeBuild

theorem Code.val_injective : Function.Injective Code.val := by
  intro c d same
  have read := congrArg Code.ofNat? same
  rw [Code.ofNat?_val, Code.ofNat?_val] at read
  exact Option.some.inj read

namespace Text

/-- The numbers of the code points, by which texts are ordered. -/
def numbers (t : Text) : List Nat := t.map Code.val

theorem numbers_injective : Function.Injective numbers :=
  List.map_injective_iff.mpr Code.val_injective

theorem before_iff {t u : Text} : before t u = true ↔ t.numbers < u.numbers := by
  induction t generalizing u with
  | nil => cases u <;> simp [before, numbers]
  | cons c t inductionHypothesis =>
    cases u with
    | nil => simp [before, numbers]
    | cons d u =>
      have later : before t u = true ↔ t.map Code.val < u.map Code.val := inductionHypothesis
      have same : c = d ↔ c.val = d.val := Code.val_injective.eq_iff.symm
      simp [before, numbers, later, same, List.cons_lt_cons_iff]

theorem atMost_iff {t u : Text} : atMost t u = true ↔ t.numbers ≤ u.numbers := by
  rw [atMost, Bool.not_eq_true', ← Bool.not_eq_true, before_iff, not_lt]

/-- Texts in the order of their numbers, none before one that it precedes. -/
def Sorted (ts : List Text) : Prop := ts.Pairwise fun t u => t.numbers ≤ u.numbers

theorem sorted_perm (ts : List Text) : (sorted ts).Perm ts :=
  List.mergeSort_perm ts atMost

theorem sorted_sorted (ts : List Text) : Sorted (sorted ts) := by
  have ordered : (sorted ts).Pairwise fun t u => atMost t u = true := by
    refine List.pairwise_mergeSort ?_ ?_ ts
    · intro t u v first second
      exact atMost_iff.mpr (le_trans (atMost_iff.mp first) (atMost_iff.mp second))
    · intro t u
      rw [Bool.or_eq_true, atMost_iff, atMost_iff]
      exact le_total _ _
  exact ordered.imp atMost_iff.mp

/-- There is only one way to sort. -/
theorem Sorted.eq_of_perm {ts us : List Text} (sorted : Sorted ts) (sorted' : Sorted us)
    (perm : ts.Perm us) : ts = us := by
  refine perm.eq_of_pairwise ?_ sorted sorted'
  intro t u _ _ first second
  exact numbers_injective (le_antisymm first second)

end Text

end HaxeBuild
