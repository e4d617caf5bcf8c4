import Mathlib.Data.List.TakeWhile
import HaxeBuild.Text.Blank

namespace HaxeBuild.Text

/-- Every code point of the text is a blank. -/
def AllBlank (t : Text) : Prop := ∀ c ∈ t, c.isBlank = true

/-- No code point of the text is a blank. -/
def NoBlank (t : Text) : Prop := ∀ c ∈ t, c.isBlank = false

instance (t : Text) : Decidable (AllBlank t) := inferInstanceAs (Decidable (∀ c ∈ t, _))

instance (t : Text) : Decidable (NoBlank t) := inferInstanceAs (Decidable (∀ c ∈ t, _))

@[simp] theorem trimStart_nil : trimStart [] = [] := rfl

@[simp] theorem trimEnd_nil : trimEnd [] = [] := rfl

theorem trimStart_cons (c : Code) (rest : Text) :
    trimStart (c :: rest) = if c.isBlank then trimStart rest else c :: rest :=
  List.dropWhile_cons

/-- Nothing is left from the start exactly of blanks. -/
theorem trimStart_eq_nil_iff {t : Text} : trimStart t = [] ↔ AllBlank t :=
  List.dropWhile_eq_nil_iff

/-- Nothing is left from the end exactly of blanks. -/
theorem trimEnd_eq_nil_iff {t : Text} : trimEnd t = [] ↔ AllBlank t := by
  simp only [trimEnd, List.reverse_eq_nil_iff, List.dropWhile_eq_nil_iff, List.mem_reverse]
  rfl

/-- The start of the second text is trimmed only if nothing is left of the first. -/
theorem trimStart_append (t u : Text) :
    trimStart (t ++ u) = if trimStart t = [] then trimStart u else trimStart t ++ u := by
  by_cases empty : t.dropWhile Code.isBlank = [] <;>
    simp [trimStart, List.dropWhile_append, empty]

/-- The end of the first text is trimmed only if nothing is left of the second. -/
theorem trimEnd_append (t u : Text) :
    trimEnd (t ++ u) = if trimEnd u = [] then trimEnd t else t ++ trimEnd u := by
  simp only [trimEnd, List.reverse_append, List.dropWhile_append, List.isEmpty_iff,
    List.reverse_eq_nil_iff]
  split <;> simp

/-- Blanks in front do not count. -/
theorem trimStart_blank_append {front : Text} (blank : AllBlank front) (t : Text) :
    trimStart (front ++ t) = trimStart t := by
  rw [trimStart_append, if_pos (trimStart_eq_nil_iff.mpr blank)]

/-- Blanks behind do not count. -/
theorem trimEnd_append_blank {back : Text} (blank : AllBlank back) (t : Text) :
    trimEnd (t ++ back) = trimEnd t := by
  rw [trimEnd_append, if_pos (trimEnd_eq_nil_iff.mpr blank)]

/-- What is trimmed from the start is blank. -/
theorem exists_trimStart (t : Text) : ∃ front, AllBlank front ∧ t = front ++ trimStart t := by
  refine ⟨t.takeWhile Code.isBlank, ?_, List.takeWhile_append_dropWhile.symm⟩
  intro c among
  exact List.mem_takeWhile_imp among

/-- What is trimmed from the end is blank. -/
theorem exists_trimEnd (t : Text) : ∃ back, AllBlank back ∧ t = trimEnd t ++ back := by
  obtain ⟨front, blank, is⟩ := exists_trimStart t.reverse
  refine ⟨front.reverse, fun c among => blank c (List.mem_reverse.mp among), ?_⟩
  have turned := congrArg List.reverse is
  simpa [trimEnd, trimStart] using turned

/-- Trimming takes blanks off both ends. -/
theorem exists_trim (t : Text) :
    ∃ front back, AllBlank front ∧ AllBlank back ∧ t = front ++ trim t ++ back := by
  obtain ⟨front, before, is⟩ := exists_trimStart t
  obtain ⟨back, after, is'⟩ := exists_trimEnd (trimStart t)
  refine ⟨front, back, before, after, ?_⟩
  rw [trim, List.append_assoc, ← is', ← is]

/-- The trimmed text is a part of the text. -/
theorem isInfix_trim (t : Text) : trim t <:+: t := by
  obtain ⟨front, back, -, -, is⟩ := exists_trim t
  exact ⟨front, back, is.symm⟩

/-- A text that was trimmed begins with a solid character. -/
theorem isBlank_of_trimStart {t rest : Text} {c : Code} (is : trimStart t = c :: rest) :
    c.isBlank = false := by
  have first := List.head?_dropWhile_not Code.isBlank t
  have head : (t.dropWhile Code.isBlank).head? = some c := by
    change (trimStart t).head? = some c
    rw [is]
    rfl
  rw [head] at first
  exact first

/-- A text that begins with a solid character stays as it is. -/
theorem trimStart_of_head {c : Code} {rest : Text} (solid : c.isBlank = false) :
    trimStart (c :: rest) = c :: rest := by
  rw [trimStart_cons, solid]
  rfl

/-- It does not matter which end is trimmed first. -/
theorem trimStart_trimEnd (t : Text) : trimStart (trimEnd t) = trim t := by
  obtain ⟨front, blank, is⟩ := exists_trimStart t
  rw [trim]
  cases same : trimStart t with
  | nil =>
    have empty : trimEnd t = [] := trimEnd_eq_nil_iff.mpr (trimStart_eq_nil_iff.mp same)
    rw [empty]
    rfl
  | cons c rest =>
    have solid := isBlank_of_trimStart same
    rw [same] at is
    have kept : trimEnd (c :: rest) ≠ [] := by
      intro empty
      have blank := trimEnd_eq_nil_iff.mp empty c List.mem_cons_self
      rw [solid] at blank
      cases blank
    rw [is, trimEnd_append, if_neg kept, trimStart_blank_append blank]
    obtain ⟨back, -, split⟩ := exists_trimEnd (c :: rest)
    cases trimmed : trimEnd (c :: rest) with
    | nil => exact absurd trimmed kept
    | cons d more =>
      rw [trimmed] at split
      cases split
      exact trimStart_of_head solid

theorem trim_blank_append {front : Text} (blank : AllBlank front) (t : Text) :
    trim (front ++ t) = trim t := by
  rw [trim, trimStart_blank_append blank, trim]

theorem trim_append_blank {back : Text} (blank : AllBlank back) (t : Text) :
    trim (t ++ back) = trim t := by
  rw [← trimStart_trimEnd, trimEnd_append_blank blank, trimStart_trimEnd]

/-- Nothing is left exactly of blanks. -/
theorem trim_eq_nil_iff {t : Text} : trim t = [] ↔ AllBlank t := by
  rw [trim, trimEnd_eq_nil_iff]
  constructor
  · intro blank
    obtain ⟨front, before, is⟩ := exists_trimStart t
    rw [is]
    intro c among
    rcases List.mem_append.mp among with early | late
    · exact before c early
    · exact blank c late
  · intro blank
    rw [trimStart_eq_nil_iff.mpr blank]
    exact List.forall_mem_nil _

@[simp] theorem trim_trim (t : Text) : trim (trim t) = trim t := by
  have idle (u : Text) : trimStart (trimStart u) = trimStart u := by
    cases is : trimStart u with
    | nil => rfl
    | cons c rest => exact trimStart_of_head (isBlank_of_trimStart is)
  have idle' (u : Text) : trimEnd (trimEnd u) = trimEnd u := by
    have turned := idle u.reverse
    simp only [trimStart] at turned
    simp only [trimEnd, List.reverse_reverse, turned]
  calc
    trim (trim t) = trimEnd (trimStart (trimStart (trimEnd t))) := by
      rw [trim, trimStart_trimEnd t |>.symm]
    _ = trimEnd (trim t) := by rw [idle, trimStart_trimEnd]
    _ = trim t := by rw [trim, idle']

/-- A trimmed text has no blanks in front. -/
theorem trimStart_of_trim {t : Text} (trimmed : trim t = t) : trimStart t = t := by
  obtain ⟨front, -, is⟩ := exists_trimStart t
  obtain ⟨back, -, split⟩ := exists_trimEnd (trimStart t)
  rw [← trim, trimmed] at split
  have lengths := congrArg List.length is
  rw [split, List.length_append, List.length_append] at lengths
  have none : back = [] := List.eq_nil_of_length_eq_zero (by omega)
  rw [split, none, List.append_nil]

/-- A trimmed text has no blanks behind. -/
theorem trimEnd_of_trim {t : Text} (trimmed : trim t = t) : trimEnd t = t := by
  have whole := trimmed
  rw [trim, trimStart_of_trim trimmed] at whole
  exact whole

/-- Between trimmed texts nothing is trimmed. -/
theorem trim_between {t u : Text} (present : t ≠ []) (present' : u ≠ []) (trimmed : trim t = t)
    (trimmed' : trim u = u) (middle : Text) : trim (t ++ middle ++ u) = t ++ middle ++ u := by
  have start := trimStart_of_trim trimmed
  have finish := trimEnd_of_trim trimmed'
  rw [trim, List.append_assoc, trimStart_append, start, if_neg present, ← List.append_assoc,
    trimEnd_append, finish, if_neg present']

/-- A word in front keeps what follows from being trimmed. -/
theorem trimStart_noBlank_append {word : Text} (solid : NoBlank word) (present : word ≠ [])
    (rest : Text) : trimStart (word ++ rest) = word ++ rest := by
  cases word with
  | nil => exact absurd rfl present
  | cons c cs => exact trimStart_of_head (solid c List.mem_cons_self)

/-- A text without blanks is trimmed. -/
theorem trim_of_noBlank {t : Text} (solid : NoBlank t) : trim t = t := by
  obtain ⟨front, back, before, after, is⟩ := exists_trim t
  have none {part : Text} (blank : AllBlank part) (inside : part <:+: t) : part = [] := by
    refine List.eq_nil_iff_forall_not_mem.mpr fun c among => ?_
    have both := blank c among
    rw [solid c (inside.subset among)] at both
    cases both
  have first := none before ⟨[], trim t ++ back, by rw [List.nil_append, ← List.append_assoc, ← is]⟩
  have last := none after ⟨front ++ trim t, [], by rw [List.append_nil, ← is]⟩
  rw [first, last, List.nil_append, List.append_nil] at is
  exact is.symm

/-- A text begins with a word that has no blanks, if it is not blank altogether. -/
theorem firstWord?_eq_some {front word gap : Text} (before : AllBlank front)
    (solid : NoBlank word) (present : word ≠ []) (between : AllBlank gap) (rest : Text)
    (apart : gap = [] → rest = []) :
    firstWord? (front ++ word ++ gap ++ rest) = some (word, trimStart rest) := by
  cases word with
  | nil => exact absurd rfl present
  | cons c cs =>
    have head : trimStart (front ++ (c :: cs) ++ gap ++ rest) = c :: (cs ++ (gap ++ rest)) := by
      simp only [List.append_assoc]
      rw [trimStart_blank_append before, List.cons_append]
      exact trimStart_of_head (solid c List.mem_cons_self)
    have whole : c :: (cs ++ (gap ++ rest)) = (c :: cs) ++ (gap ++ rest) := rfl
    have solid' : ∀ d ∈ c :: cs, (!d.isBlank) = true := fun d among => by rw [solid d among]; rfl
    have stops : (gap ++ rest).takeWhile (!·.isBlank) = [] ∧
        (gap ++ rest).dropWhile (!·.isBlank) = gap ++ rest := by
      cases gap with
      | nil =>
        rw [apart rfl]
        exact ⟨rfl, rfl⟩
      | cons d more =>
        have blank := between d List.mem_cons_self
        simp [blank]
    simp only [firstWord?, head]
    rw [whole, List.takeWhile_append_of_pos solid', List.dropWhile_append_of_pos solid',
      stops.1, stops.2, trimStart_blank_append between, List.append_nil]

/-- How a text is put together from its first word and what follows. -/
theorem exists_firstWord {t word rest : Text} (found : firstWord? t = some (word, rest)) :
    ∃ front gap, AllBlank front ∧ NoBlank word ∧ word ≠ [] ∧ AllBlank gap ∧
      (gap = [] → rest = []) ∧ trimStart rest = rest ∧ t = front ++ word ++ gap ++ rest := by
  obtain ⟨front, before, is⟩ := exists_trimStart t
  simp only [firstWord?] at found
  split at found
  · cases found
  · rename_i c cs start
    cases found
    have solid := isBlank_of_trimStart start
    obtain ⟨gap, between, split⟩ := exists_trimStart ((c :: cs).dropWhile (!·.isBlank))
    refine ⟨front, gap, before, ?_, ?_, between, ?_, ?_, ?_⟩
    · intro d among
      have holds := List.mem_takeWhile_imp among
      simpa using holds
    · simp [solid]
    · rintro rfl
      have first := List.head?_dropWhile_not (fun d : Code => !d.isBlank) (c :: cs)
      cases after : (c :: cs).dropWhile (!·.isBlank) with
      | nil => rfl
      | cons d more =>
        rw [after] at first split
        simp only [List.head?_cons, Bool.not_eq_false'] at first
        rw [List.nil_append] at split
        have solid' := isBlank_of_trimStart split.symm
        rw [first] at solid'
        cases solid'
    · cases after : trimStart ((c :: cs).dropWhile (!·.isBlank)) with
      | nil => rfl
      | cons d more => exact trimStart_of_head (isBlank_of_trimStart after)
    · rw [List.append_assoc, ← split, List.append_assoc, List.takeWhile_append_dropWhile, ← start,
        ← is]

/-- Exactly blanks have no first word. -/
theorem firstWord?_eq_none_iff {t : Text} : firstWord? t = none ↔ AllBlank t := by
  rw [← trimStart_eq_nil_iff, firstWord?]
  split <;> simp_all

/-- The first word of a text does not depend on the blanks around the text. -/
theorem firstWord?_trim (t : Text) :
    firstWord? (trim t) = (firstWord? t).map fun found => (found.1, trimEnd found.2) := by
  cases found : firstWord? t with
  | none =>
    rw [trim_eq_nil_iff.mpr (firstWord?_eq_none_iff.mp found)]
    rfl
  | some pair =>
    obtain ⟨word, rest⟩ := pair
    obtain ⟨front, gap, before, solid, present, between, apart, start, rfl⟩ :=
      exists_firstWord found
    have trimmed : trim (front ++ word ++ gap ++ rest) =
        if rest = [] then word else word ++ gap ++ trimEnd rest := by
      simp only [List.append_assoc]
      rw [trim_blank_append before]
      split
      · rename_i bare
        rw [bare, List.append_nil, trim_append_blank between, trim_of_noBlank solid]
      · rename_i more
        have kept : trimEnd rest ≠ [] := by
          rw [ne_eq, trimEnd_eq_nil_iff, ← trimStart_eq_nil_iff, start]
          exact more
        rw [trim, trimStart_noBlank_append solid present, trimEnd_append, trimEnd_append,
          if_neg kept, if_neg (by simp [kept])]
    rw [trimmed]
    split
    · rename_i bare
      have alone := firstWord?_eq_some (List.forall_mem_nil _) solid present
        (List.forall_mem_nil _) [] fun _ => rfl
      simpa [bare] using alone
    · rename_i more
      have followed := firstWord?_eq_some (List.forall_mem_nil _) solid present between
        (trimEnd rest) fun none => absurd (apart none) more
      rw [trimStart_trimEnd, trim, start] at followed
      simpa using followed

end HaxeBuild.Text
