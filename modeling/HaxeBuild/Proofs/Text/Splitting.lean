import HaxeBuild.Build.Command
import HaxeBuild.Proofs.Text.Trimming

namespace HaxeBuild

namespace Text

theorem lines_eq_nil_iff {t : Text} : lines t = [] ↔ t = [] := by
  fun_cases lines t <;> simp_all

/-- A line feed behind a text ends its last line, or adds an empty one if that has an end. -/
theorem lines_append_newline (t rest : Text) :
    ∃ blanks, (∀ line ∈ blanks, line = []) ∧
      lines (t ++ .char '\n' :: rest) = lines t ++ blanks ++ lines rest := by
  fun_induction lines t with
  | case1 => exact ⟨[[]], by simp, lines_newline rest⟩
  | case2 more inductionHypothesis =>
    obtain ⟨blanks, empty, is⟩ := inductionHypothesis
    exact ⟨blanks, empty, by simp [lines, is]⟩
  | case3 c more noPair ends inductionHypothesis =>
    by_cases half : c = .char '\r' ∧ more = []
    · -- The line feed belongs to the carriage return before it.
      obtain ⟨rfl, rfl⟩ := half
      exact ⟨[], by simp, by simp [lines]⟩
    · obtain ⟨blanks, empty, is⟩ := inductionHypothesis
      refine ⟨blanks, empty, ?_⟩
      rw [List.cons_append, lines_of_endsLine ends, is]
      · simp
      · rintro rfl first
        cases more with
        | nil => exact half ⟨rfl, rfl⟩
        | cons d more =>
          cases first
          exact noPair more rfl rfl
  | case4 c more noPair inner none inductionHypothesis =>
    rw [lines_eq_nil_iff.mp none]
    refine ⟨[], by simp, ?_⟩
    rw [List.cons_append, List.nil_append, lines_of_inner (by simpa using inner), lines_newline]
    rfl
  | case5 c more noPair inner line others is inductionHypothesis =>
    obtain ⟨blanks, empty, split⟩ := inductionHypothesis
    refine ⟨blanks, empty, ?_⟩
    rw [List.cons_append, lines_of_inner (by simpa using inner), split, is]
    simp

theorem inner_of_mem_lines {t line : Text} (among : line ∈ lines t) :
    ∀ c ∈ line, c.endsLine = false := by
  fun_induction lines t generalizing line with
  | case1 => cases among
  | case2 more inductionHypothesis =>
    rcases List.mem_cons.mp among with rfl | later
    · exact List.forall_mem_nil _
    · exact inductionHypothesis later
  | case3 c more noPair ends inductionHypothesis =>
    rcases List.mem_cons.mp among with rfl | later
    · exact List.forall_mem_nil _
    · exact inductionHypothesis later
  | case4 c more noPair inner none inductionHypothesis =>
    rw [List.mem_singleton.mp among]
    exact List.forall_mem_singleton.mpr (by simpa using inner)
  | case5 c more noPair inner first others is inductionHypothesis =>
    rw [is] at inductionHypothesis
    rcases List.mem_cons.mp among with rfl | later
    · exact List.forall_mem_cons.mpr
        ⟨by simpa using inner, inductionHypothesis List.mem_cons_self⟩
    · exact inductionHypothesis (List.mem_cons_of_mem _ later)

/-- A text without line ends is a line. -/
theorem lines_of_noEnds {t : Text} (present : t ≠ []) (inner : ∀ c ∈ t, c.endsLine = false) :
    lines t = [t] := by
  induction t with
  | nil => exact absurd rfl present
  | cons c rest inductionHypothesis =>
    have ⟨first, later⟩ := List.forall_mem_cons.mp inner
    rw [lines_of_inner first]
    cases rest with
    | nil => rfl
    | cons d rest => rw [inductionHypothesis (List.cons_ne_nil _ _) later]

end Text

namespace Command

/-- The trimmed lines that are not blank. -/
def arguments (lines : List Text) : List Text := (lines.map Text.trim).filter (!·.isEmpty)

theorem split_eq (t : Text) : split t = arguments (Text.lines t) := rfl

theorem arguments_append (front back : List Text) :
    arguments (front ++ back) = arguments front ++ arguments back := by
  simp [arguments]

theorem arguments_blank {lines : List Text} (empty : ∀ line ∈ lines, line = []) :
    arguments lines = [] := by
  simp only [arguments, List.filter_eq_nil_iff, List.mem_map]
  rintro _ ⟨line, among, rfl⟩
  rw [empty line among]
  decide

@[simp] theorem split_nil : split [] = [] := rfl

/-- A line feed parts the arguments before it from those behind it. -/
theorem split_append_newline (t rest : Text) :
    split (t ++ .char '\n' :: rest) = split t ++ split rest := by
  obtain ⟨blanks, empty, is⟩ := Text.lines_append_newline t rest
  rw [split_eq, is, arguments_append, arguments_append, arguments_blank empty, List.append_nil]
  rfl

theorem split_newline (rest : Text) : split (.char '\n' :: rest) = split rest :=
  split_append_newline [] rest

/-- Spaces in front of an argument are trimmed. -/
theorem split_blank {c : Code} (blank : c.isBlank = true) (inner : c.endsLine = false)
    (rest : Text) : split (c :: rest) = split rest := by
  have before : Text.AllBlank [c] := by simpa [Text.AllBlank] using blank
  have trimmed (line : Text) : Text.trim (c :: line) = Text.trim line :=
    Text.trim_blank_append before line
  have nothing : Text.trim [] = [] := rfl
  rw [split_eq, split_eq, Text.lines_of_inner inner]
  cases Text.lines rest with
  | nil => simp [arguments, trimmed, nothing]
  | cons line more => simp [arguments, trimmed]

theorem split_spaces (n : Nat) (rest : Text) :
    split (List.replicate n (.char ' ') ++ rest) = split rest := by
  induction n with
  | zero => rfl
  | succ n inductionHypothesis =>
    rw [List.replicate_succ, List.cons_append, split_blank (by decide) (by decide),
      inductionHypothesis]

/-- Texts that end with a line feed are split apart from each other. -/
theorem split_flatMap {α : Type} {text : α → Text} (items : List α)
    (ends : ∀ a ∈ items, ∃ t, text a = t ++ [.char '\n']) :
    split (items.flatMap text) = items.flatMap fun a => split (text a) := by
  induction items with
  | nil => rfl
  | cons a items inductionHypothesis =>
    have ⟨⟨t, is⟩, later⟩ := List.forall_mem_cons.mp ends
    rw [List.flatMap_cons, List.flatMap_cons, is, List.append_assoc, List.singleton_append,
      split_append_newline, split_append_newline, split_nil, List.append_nil,
      inductionHypothesis later]

/-- The text is one argument: it stands on one line, has no blanks around it, and is not empty. -/
structure IsArgument (t : Text) : Prop where
  present : t ≠ []
  trimmed : Text.trim t = t
  inner : ∀ c ∈ t, c.endsLine = false

theorem isArgument_of_mem_split {t argument : Text} (among : argument ∈ split t) :
    IsArgument argument := by
  obtain ⟨trimmed, kept⟩ := List.mem_filter.mp among
  obtain ⟨line, onLine, rfl⟩ := List.mem_map.mp trimmed
  refine ⟨by simpa using kept, Text.trim_trim line, fun c inside => ?_⟩
  exact Text.inner_of_mem_lines onLine c ((Text.isInfix_trim line).subset inside)

/-- Splitting keeps a text as it is exactly if it is one argument. -/
theorem split_eq_self_iff {t : Text} : split t = [t] ↔ IsArgument t := by
  constructor
  · intro kept
    exact isArgument_of_mem_split (by rw [kept]; exact List.mem_singleton_self t)
  · intro is
    rw [split_eq, Text.lines_of_noEnds is.present is.inner]
    simp [arguments, is.trimmed, is.present]

end Command

end HaxeBuild
