import HaxeBuild.Proofs.Text.Trimming

namespace HaxeBuild.Text

variable {mark : Code}

theorem splitOn_of_notMem {t : Text} (absent : mark ∉ t) : splitOn mark t = [t] := by
  induction t with
  | nil => rfl
  | cons c rest inductionHypothesis =>
    have ⟨differs, later⟩ := not_or.mp (mt List.mem_cons.mpr absent)
    simp [splitOn, Ne.symm differs, inductionHypothesis later]

/-- A mark ends the pieces of what is before it. -/
theorem splitOn_append_mark (mark : Code) (t rest : Text) :
    splitOn mark (t ++ mark :: rest) = splitOn mark t ++ splitOn mark rest := by
  induction t with
  | nil => simp [splitOn]
  | cons c more inductionHypothesis =>
    by_cases marked : c = mark
    · simp [splitOn, marked, inductionHypothesis]
    · cases pieces : splitOn mark more with
      | nil => exact absurd pieces (splitOn_ne_nil mark more)
      | cons first later => simp [splitOn, marked, inductionHypothesis, pieces]

/-- What holds of the mark holds of every code point of a text if it holds of those of its pieces. -/
theorem forall_mem_splitOn {holds : Code → Prop} (atMark : holds mark) {t : Text} :
    (∀ piece ∈ splitOn mark t, ∀ c ∈ piece, holds c) ↔ ∀ c ∈ t, holds c := by
  induction t with
  | nil => simp [splitOn]
  | cons c rest inductionHypothesis =>
    rw [List.forall_mem_cons, ← inductionHypothesis]
    by_cases marked : c = mark
    · simp [splitOn, marked, atMark]
    · cases pieces : splitOn mark rest with
      | nil => exact absurd pieces (splitOn_ne_nil mark rest)
      | cons first later => simp [splitOn, marked, pieces, and_assoc]

/-- Pieces that have no mark in them are found again. -/
theorem splitOn_join {pieces : List Text} (present : pieces ≠ [])
    (clean : ∀ piece ∈ pieces, mark ∉ piece) : splitOn mark (join [mark] pieces) = pieces := by
  induction pieces with
  | nil => exact absurd rfl present
  | cons first more inductionHypothesis =>
    have ⟨here, later⟩ := List.forall_mem_cons.mp clean
    cases more with
    | nil => rw [join_singleton, splitOn_of_notMem here]
    | cons second more =>
      rw [join_cons_cons, List.append_assoc, List.singleton_append, splitOn_append_mark,
        splitOn_of_notMem here, inductionHypothesis (List.cons_ne_nil _ _) later]
      rfl

theorem join_concat_append (pieces : List Text) (last back : Text) :
    join [mark] (pieces ++ [last]) ++ back = join [mark] (pieces ++ [last ++ back]) := by
  induction pieces with
  | nil => simp
  | cons first more inductionHypothesis =>
    cases more with
    | nil => simp
    | cons second more =>
      simp only [List.cons_append, join_cons_cons, List.append_assoc] at inductionHypothesis ⊢
      rw [inductionHypothesis]

theorem join_cons_prepend (front first : Text) (pieces : List Text) :
    front ++ join [mark] (first :: pieces) = join [mark] ((front ++ first) :: pieces) := by
  cases pieces <;> simp

theorem notMem_of_blank (solid : mark.isBlank = false) {t : Text} (blank : AllBlank t) :
    mark ∉ t := by
  intro among
  rw [blank mark among] at solid
  cases solid

/-- Blanks in front of a text are blanks in front of its first piece. -/
theorem splitOn_blank_append (solid : mark.isBlank = false) {front : Text} (blank : AllBlank front)
    (t : Text) :
    (splitOn mark (front ++ t)).map trim = (splitOn mark t).map trim := by
  cases pieces : splitOn mark t with
  | nil => exact absurd pieces (splitOn_ne_nil mark t)
  | cons first more =>
    have clean : ∀ piece ∈ first :: more, mark ∉ piece := fun piece among =>
      notMem_of_mem_splitOn (pieces ▸ among)
    have ⟨here, later⟩ := List.forall_mem_cons.mp clean
    have whole : front ++ t = join [mark] ((front ++ first) :: more) := by
      rw [← join_cons_prepend, ← pieces, join_splitOn]
    rw [whole, splitOn_join (List.cons_ne_nil _ _), List.map_cons, List.map_cons,
      trim_blank_append blank]
    refine List.forall_mem_cons.mpr ⟨?_, later⟩
    exact List.not_mem_append (notMem_of_blank solid blank) here

/-- Blanks behind a text are blanks behind its last piece. -/
theorem splitOn_append_blank (solid : mark.isBlank = false) {back : Text} (blank : AllBlank back)
    (t : Text) :
    (splitOn mark (t ++ back)).map trim = (splitOn mark t).map trim := by
  rcases (splitOn mark t).eq_nil_or_concat with pieces | ⟨more, last, pieces⟩
  · exact absurd pieces (splitOn_ne_nil mark t)
  · rw [List.concat_eq_append] at pieces
    have clean : ∀ piece ∈ more ++ [last], mark ∉ piece := fun piece among =>
      notMem_of_mem_splitOn (pieces ▸ among)
    have whole : t ++ back = join [mark] (more ++ [last ++ back]) := by
      rw [← join_concat_append, ← pieces, join_splitOn]
    rw [whole, splitOn_join (by simp), pieces, List.map_append, List.map_append, List.map_singleton,
      List.map_singleton, trim_append_blank blank]
    intro piece among
    rcases List.mem_append.mp among with early | is
    · exact clean piece (List.mem_append_left _ early)
    · rw [List.mem_singleton.mp is]
      exact List.not_mem_append (clean last (by simp)) (notMem_of_blank solid blank)

theorem map_trim_splitOn_trim (solid : mark.isBlank = false) (t : Text) :
    (splitOn mark t.trim).map trim = (splitOn mark t).map trim := by
  obtain ⟨front, back, before, after, is⟩ := exists_trim t
  have opened := splitOn_blank_append solid before (t.trim ++ back)
  rw [← List.append_assoc, ← is, splitOn_append_blank solid after] at opened
  exact opened.symm

/-- Cutting at the first mark takes the first piece off. -/
theorem cut?_eq_of_splitOn (mark : Code) (t : Text) :
    cut? [mark] t = match splitOn mark t with
      | [] => none
      | [_] => none
      | first :: more => some (first, join [mark] more) := by
  induction t with
  | nil => rfl
  | cons c rest inductionHypothesis =>
    by_cases marked : c = mark
    · subst marked
      cases pieces : splitOn c rest with
      | nil => exact absurd pieces (splitOn_ne_nil c rest)
      | cons first more =>
        have whole := join_splitOn c rest
        rw [pieces] at whole
        simp [cut?, after?, splitOn, pieces, whole]
    · have noMark : (mark == c) = false := beq_false_of_ne (Ne.symm marked)
      cases pieces : splitOn mark rest with
      | nil => exact absurd pieces (splitOn_ne_nil mark rest)
      | cons first more =>
        rw [pieces] at inductionHypothesis
        cases more <;> simp_all [cut?, after?, splitOn]

theorem cut?_eq_none {t : Text} : cut? [mark] t = none ↔ mark ∉ t := by
  induction t with
  | nil => simp [cut?, after?]
  | cons c rest inductionHypothesis =>
    by_cases marked : mark = c
    · simp [cut?, after?, marked]
    · simp [cut?, after?, marked, inductionHypothesis]

/-- A text is cut where its first mark is. -/
theorem cut?_eq_some {t front rest : Text} :
    cut? [mark] t = some (front, rest) ↔ mark ∉ front ∧ t = front ++ mark :: rest := by
  induction t generalizing front with
  | nil => simp [cut?, after?]
  | cons c more inductionHypothesis =>
    by_cases marked : mark = c
    · subst marked
      cases front with
      | nil => simp [cut?, after?]
      | cons d front =>
        constructor
        · intro impossible
          simp [cut?, after?] at impossible
        · rintro ⟨absent, is⟩
          exact absurd (List.mem_cons.mpr (.inl (List.cons.inj is).1)) absent
    · cases front with
      | nil => simp [cut?, after?, marked, Ne.symm marked]
      | cons d front =>
        simp only [cut?, after?, beq_false_of_ne marked, Bool.false_eq_true, if_false,
          Option.map_eq_some_iff, Prod.mk.injEq, Prod.exists, List.cons_append, List.cons.injEq,
          List.mem_cons, not_or]
        constructor
        · rintro ⟨front', rest', cut, ⟨rfl, rfl⟩, rfl⟩
          obtain ⟨absent, is⟩ := inductionHypothesis.mp cut
          exact ⟨⟨marked, absent⟩, rfl, is⟩
        · rintro ⟨⟨-, absent⟩, rfl, is⟩
          exact ⟨front, rest, inductionHypothesis.mpr ⟨absent, is⟩, ⟨rfl, rfl⟩, rfl⟩

end HaxeBuild.Text
