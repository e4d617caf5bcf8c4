import Mathlib.Data.List.Basic
import HaxeBuild.Proofs.Text.Splitting

namespace HaxeBuild

namespace Text

theorem trimStart_eq_self_iff {t : Text} :
    trimStart t = t ↔ ∀ c ∈ t.head?, c.isBlank = false := by
  cases t with
  | nil => simp
  | cons c rest =>
      constructor
      · intro kept
        simpa using isBlank_of_trimStart kept
      · intro solid
        exact trimStart_of_head (by simpa using solid)

/-- The end of a text is the beginning of its reverse. -/
theorem trimEnd_eq_self_iff {t : Text} :
    trimEnd t = t ↔ ∀ c ∈ t.getLast?, c.isBlank = false := by
  have turned : trimEnd t = t ↔ trimStart t.reverse = t.reverse := by
    rw [← List.reverse_inj, trimEnd, List.reverse_reverse, trimStart]
  rw [turned, trimStart_eq_self_iff, List.head?_reverse]

/-- Trimming keeps a text as it is exactly if neither end of it is a blank. -/
theorem trim_eq_self_iff {t : Text} :
    trim t = t ↔ (∀ c ∈ t.head?, c.isBlank = false) ∧ ∀ c ∈ t.getLast?, c.isBlank = false := by
  rw [← trimStart_eq_self_iff, ← trimEnd_eq_self_iff]
  constructor
  · intro kept
    exact ⟨trimStart_of_trim kept, trimEnd_of_trim kept⟩
  · intro ⟨start, finish⟩
    rw [trim, start, finish]

end Text

namespace Command

theorem isArgument_iff {t : Text} :
    IsArgument t ↔ t ≠ [] ∧ (∀ c ∈ t.head?, c.isBlank = false) ∧
      (∀ c ∈ t.getLast?, c.isBlank = false) ∧ ∀ c ∈ t, c.endsLine = false := by
  constructor
  · intro is
    obtain ⟨start, finish⟩ := Text.trim_eq_self_iff.mp is.trimmed
    exact ⟨is.present, start, finish, is.inner⟩
  · intro ⟨present, start, finish, inner⟩
    exact ⟨present, Text.trim_eq_self_iff.mpr ⟨start, finish⟩, inner⟩

/-- Texts on lines of their own are split one by one. -/
theorem split_join (ts : List Text) : split (Text.join "\n" ts) = ts.flatMap split := by
  induction ts with
  | nil => rfl
  | cons t ts inductionHypothesis =>
      cases ts with
      | nil => simp
      | cons u ts =>
          have parted := split_append_newline t (Text.join "\n" (u :: ts))
          rw [inductionHypothesis] at parted
          rw [Text.join_cons_cons, List.append_assoc]
          exact parted

/-- Arguments are all that a join gives back. -/
theorem split_join_eq_self_iff {ts : List Text} :
    split (Text.join "\n" ts) = ts ↔ ∀ t ∈ ts, IsArgument t := by
  constructor
  · intro kept t among
    apply isArgument_of_mem_split
    rw [kept]
    exact among
  · intro all
    have alone : ∀ t ∈ ts, split t = [t] := fun t among => split_eq_self_iff.mpr (all t among)
    rw [split_join, List.flatMap_congr alone]
    exact List.flatMap_singleton' ts

/-- Splitting undoes joining with line feeds on lists of arguments and nowhere else, all that it
returns are arguments, and a line feed between two texts parts their arguments. -/
theorem split_undoes_join :
    (∀ t, IsArgument t ↔ t ≠ [] ∧ (∀ c ∈ t.head?, c.isBlank = false) ∧
      (∀ c ∈ t.getLast?, c.isBlank = false) ∧ ∀ c ∈ t, c.endsLine = false) ∧
    (∀ ts, split (Text.join "\n" ts) = ts ↔ ∀ t ∈ ts, IsArgument t) ∧
    (∀ text, ∀ t ∈ split text, IsArgument t) ∧
    (∀ front back : Text, split (front ++ "\n" ++ back) = split front ++ split back) ∧
    ∀ text, split (Text.join "\n" (split text)) = split text := by
  have returned (text : Text) : ∀ t ∈ split text, IsArgument t :=
    fun _ among => isArgument_of_mem_split among
  refine ⟨fun _ => isArgument_iff, fun _ => split_join_eq_self_iff, returned, ?_, ?_⟩
  · intro front back
    rw [List.append_assoc]
    exact split_append_newline front back
  · intro text
    exact split_join_eq_self_iff.mpr (returned text)

/-- Lines with blanks around them; the first one ends with half of a line end. -/
def loose : List Text := [" haxe \r", "\u2028-cp\t"]

def tight : List Text := ["haxe", "-cp"]

/-- The carriage return and the line feed behind it are one line end here, and the blank line that
the separator begins is no argument. -/
theorem split_undoes_join_loose :
    split (Text.join "\n" loose) = tight ∧ (∀ t ∈ tight, IsArgument t) ∧
      split (Text.join "\n" tight) = tight := by
  obtain ⟨-, -, returned, parted, again⟩ := split_undoes_join
  have lines : split (Text.join "\n" loose) = tight := by
    rw [loose, Text.join_cons_cons, Text.join_singleton, parted]
    decide
  rw [← lines]
  exact ⟨rfl, returned _, again _⟩

end Command

end HaxeBuild
