import Mathlib.Data.List.Chain
import HaxeBuild.Proofs.Text.Splitting

namespace HaxeBuild

namespace Text

theorem unifyLineEnds_cons {c : Code} (other : c ≠ .char '\r') (rest : Text) :
    unifyLineEnds (c :: rest) = c :: unifyLineEnds rest := by
  rw [unifyLineEnds]
  · rintro _ rfl
    exact absurd rfl other
  · exact other

/-- No carriage return is left. -/
theorem notMem_unifyLineEnds (t : Text) : Code.char '\r' ∉ t.unifyLineEnds := by
  fun_induction unifyLineEnds t with
  | case1 => exact List.not_mem_nil
  | case2 rest inductionHypothesis => exact List.not_mem_cons_of_ne_of_not_mem nofun inductionHypothesis
  | case3 rest noPair inductionHypothesis =>
    exact List.not_mem_cons_of_ne_of_not_mem nofun inductionHypothesis
  | case4 c rest noPair other inductionHypothesis =>
    exact List.not_mem_cons_of_ne_of_not_mem (fun is => other is.symm) inductionHypothesis

/-- Exactly the texts without carriage returns stay as they are. -/
theorem unifyLineEnds_eq_self_iff {t : Text} : t.unifyLineEnds = t ↔ Code.char '\r' ∉ t := by
  constructor
  · intro same
    rw [← same]
    exact notMem_unifyLineEnds t
  · intro absent
    induction t with
    | nil => rfl
    | cons c rest inductionHypothesis =>
      rw [List.mem_cons, not_or] at absent
      rw [unifyLineEnds_cons (Ne.symm absent.1), inductionHypothesis absent.2]

/-- A carriage return is a line end, and so is a line feed behind it. -/
theorem unifyLineEnds_return {rest : Text} (apart : rest.head? ≠ some (.char '\n')) :
    unifyLineEnds (.char '\r' :: rest) = .char '\n' :: unifyLineEnds rest := by
  rw [unifyLineEnds]
  rintro more rfl
  exact apart rfl

/-- Texts are unified apart from each other unless a line end goes across. -/
theorem unifyLineEnds_append {t u : Text}
    (apart : ¬ (t.getLast? = some (.char '\r') ∧ u.head? = some (.char '\n'))) :
    unifyLineEnds (t ++ u) = unifyLineEnds t ++ unifyLineEnds u := by
  fun_induction unifyLineEnds t with
  | case1 => rfl
  | case2 rest inductionHypothesis =>
    have later := inductionHypothesis fun ⟨last, first⟩ => apart ⟨by cases rest <;> simp_all, first⟩
    rw [List.cons_append, List.cons_append, unifyLineEnds, later, List.cons_append]
  | case3 rest noPair inductionHypothesis =>
    have later := inductionHypothesis fun ⟨last, first⟩ => apart ⟨by cases rest <;> simp_all, first⟩
    rw [List.cons_append, unifyLineEnds_return, later, List.cons_append]
    cases rest with
    | nil => exact fun first => apart ⟨rfl, first⟩
    | cons c rest =>
      intro first
      cases first
      exact noPair rest rfl
  | case4 c rest noPair other inductionHypothesis =>
    have later := inductionHypothesis fun ⟨last, first⟩ => apart ⟨by cases rest <;> simp_all, first⟩
    rw [List.cons_append, unifyLineEnds_cons other, later, List.cons_append]

/-- Line ends that are unified part the same lines. -/
theorem lines_unifyLineEnds (t : Text) : lines (unifyLineEnds t) = lines t := by
  fun_induction unifyLineEnds t with
  | case1 => rfl
  | case2 rest inductionHypothesis =>
    rw [lines_newline, inductionHypothesis, lines]
  | case3 rest noPair inductionHypothesis =>
    rw [lines_newline, inductionHypothesis, lines_of_endsLine (by decide)]
    rintro - first
    cases rest with
    | nil => cases first
    | cons c rest =>
      cases first
      exact noPair rest rfl
  | case4 c rest noPair other inductionHypothesis =>
    cases ends : c.endsLine with
    | true =>
      rw [lines_of_endsLine ends, lines_of_endsLine ends, inductionHypothesis]
      · exact fun is => absurd is other
      · exact fun is => absurd is other
    | false => rw [lines_of_inner ends, lines_of_inner ends, inductionHypothesis]

/-- A line feed at the end of a text stays. -/
theorem exists_unifyLineEnds_concat (t : Text) :
    ∃ u, unifyLineEnds (t ++ [.char '\n']) = u ++ [.char '\n'] := by
  fun_induction unifyLineEnds t with
  | case1 => exact ⟨[], rfl⟩
  | case2 rest inductionHypothesis =>
    obtain ⟨u, is⟩ := inductionHypothesis
    exact ⟨.char '\n' :: u, by rw [List.cons_append, List.cons_append, unifyLineEnds, is]; rfl⟩
  | case3 rest noPair inductionHypothesis =>
    cases rest with
    | nil => exact ⟨[], rfl⟩
    | cons c rest =>
      obtain ⟨u, is⟩ := inductionHypothesis
      refine ⟨.char '\n' :: u, ?_⟩
      rw [List.cons_append, unifyLineEnds_return, is, List.cons_append]
      intro first
      cases first
      exact noPair rest rfl
  | case4 c rest noPair other inductionHypothesis =>
    obtain ⟨u, is⟩ := inductionHypothesis
    exact ⟨c :: u, by rw [List.cons_append, unifyLineEnds_cons other, is]; rfl⟩

/-- A code point that is not a line feed was the last one before. -/
theorem getLast?_of_unifyLineEnds {t : Text} {c : Code} (inner : c ≠ .char '\n')
    (last : (unifyLineEnds t).getLast? = some c) : t.getLast? = some c := by
  rcases List.eq_nil_or_concat t with rfl | ⟨front, d, rfl⟩
  · exact last
  rw [List.concat_eq_append] at last ⊢
  by_cases feed : d = .char '\n'
  · obtain ⟨u, is⟩ := exists_unifyLineEnds_concat front
    rw [feed, is, List.getLast?_concat] at last
    exact absurd (Option.some.inj last).symm inner
  · rw [unifyLineEnds_append (by simp [feed])] at last
    by_cases carriage : d = .char '\r'
    · rw [carriage, show unifyLineEnds [.char '\r'] = [.char '\n'] from rfl,
        List.getLast?_concat] at last
      exact absurd (Option.some.inj last).symm inner
    · rw [unifyLineEnds_cons carriage, show unifyLineEnds [] = [] from rfl,
        List.getLast?_concat] at last
      rw [List.getLast?_concat, last]

theorem head?_of_unifyLineEnds {t : Text} {c : Code} (inner : c ≠ .char '\n')
    (first : (unifyLineEnds t).head? = some c) : t.head? = some c := by
  fun_cases unifyLineEnds t with
  | case1 => exact first
  | case2 rest =>
    rw [unifyLineEnds] at first
    exact absurd (Option.some.inj first).symm inner
  | case3 rest noPair =>
    rw [unifyLineEnds_return] at first
    · exact absurd (Option.some.inj first).symm inner
    · cases rest with
      | nil => nofun
      | cons d rest =>
        intro second
        cases second
        exact noPair rest rfl
  | case4 d rest noPair other =>
    rw [unifyLineEnds_cons other] at first
    exact first

/-- What holds of neighbours still holds if line feeds may have any neighbours. -/
theorem isChain_unifyLineEnds {related : Code → Code → Prop} {t : Text}
    (before : ∀ c, related c (.char '\n')) (after : ∀ c, related (.char '\n') c)
    (chain : t.IsChain related) : (unifyLineEnds t).IsChain related := by
  fun_induction unifyLineEnds t with
  | case1 => exact .nil
  | case2 rest inductionHypothesis =>
    refine List.isChain_cons.mpr ⟨fun _ _ => after _, inductionHypothesis ?_⟩
    exact (List.isChain_cons.mp (List.isChain_cons.mp chain).2).2
  | case3 rest noPair inductionHypothesis =>
    exact List.isChain_cons.mpr
      ⟨fun _ _ => after _, inductionHypothesis (List.isChain_cons.mp chain).2⟩
  | case4 c rest noPair other inductionHypothesis =>
    have ⟨next, later⟩ := List.isChain_cons.mp chain
    refine List.isChain_cons.mpr ⟨fun d first => ?_, inductionHypothesis later⟩
    by_cases feed : d = .char '\n'
    · rw [feed]
      exact before c
    · exact next d (head?_of_unifyLineEnds feed first)

end Text

namespace Command

@[simp] theorem split_unifyLineEnds (t : Text) : split t.unifyLineEnds = split t := by
  rw [split_eq, Text.lines_unifyLineEnds, split_eq]

/-- A text with a line feed behind it has its own arguments when its line ends are unified. -/
theorem exists_unifyLineEnds_newline (t : Text) (rest : Text) :
    ∃ u, (t ++ .char '\n' :: rest).unifyLineEnds = u ++ .char '\n' :: rest.unifyLineEnds ∧
      split u = split t := by
  obtain ⟨u, is⟩ := Text.exists_unifyLineEnds_concat t
  refine ⟨u, ?_, ?_⟩
  · rw [List.append_cons, Text.unifyLineEnds_append (by simp), is, ← List.append_cons]
  · have same := split_unifyLineEnds (t ++ [.char '\n'])
    rwa [is, split_append_newline, split_append_newline, split_nil, List.append_nil,
      List.append_nil] at same

end Command

end HaxeBuild
