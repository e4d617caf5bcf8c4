import Mathlib.Data.List.Chain
import HaxeBuild.Template.Segment

namespace HaxeBuild.Template

/-- The closing mark of a block tag does not occur in the text. -/
def Unclosed (t : Text) : Prop := t.IsChain fun a b => ¬ (a = .char '%' ∧ b = .char '}')

theorem Unclosed.of_isInfix {t part : Text} (unclosed : Unclosed t) (inside : part <:+: t) :
    Unclosed part :=
  List.IsChain.infix unclosed inside

/-- Text is unclosed exactly if the closing mark is no part of it. -/
theorem unclosed_iff {t : Text} : Unclosed t ↔ ¬ Mark.blockClose <:+: t := by
  have mark : Mark.blockClose = [.char '%', .char '\x7d'] := rfl
  rw [Unclosed, List.isChain_iff_forall_rel_of_append_cons_cons, mark]
  constructor
  · rintro apart ⟨before, after, is⟩
    have split : t = before ++ .char '%' :: .char '\x7d' :: after := by simp [← is]
    exact apart split ⟨rfl, rfl⟩
  · rintro absent c d before after rfl ⟨rfl, rfl⟩
    exact absent ⟨before, after, by simp⟩

theorem unclosed_append {t u : Text} :
    Unclosed (t ++ u) ↔ Unclosed t ∧ Unclosed u ∧
      ¬ (t.getLast? = some (.char '%') ∧ u.head? = some (.char '}')) := by
  simp only [Unclosed, List.isChain_append, Option.mem_def]
  grind

/-- Text without percent signs has no closing mark. -/
theorem unclosed_of_notMem {t : Text} (absent : Code.char '%' ∉ t) : Unclosed t := by
  induction t with
  | nil => exact .nil
  | cons c rest inductionHypothesis =>
    rw [List.mem_cons, not_or] at absent
    refine List.isChain_cons.mpr ⟨?_, inductionHypothesis absent.2⟩
    rintro d - ⟨rfl, -⟩
    exact absent.1 rfl

namespace Segment

theorem cutFrom_close (passed rest : Text) :
    cutFrom (some passed) (Mark.blockClose ++ rest) = tag passed.reverse :: cutFrom none rest := by
  simp [cutFrom, Mark.blockClose, Text.ofString]

/-- A tag ends at its first closing mark. -/
theorem cutFrom_unclosed {inner : Text} (unclosed : Unclosed inner) (passed rest : Text) :
    cutFrom (some passed) (inner ++ (Mark.blockClose ++ rest)) =
      tag (passed.reverse ++ inner) :: cutFrom none rest := by
  induction inner generalizing passed with
  | nil => rw [List.nil_append, List.append_nil, cutFrom_close]
  | cons c inner inductionHypothesis =>
    have ⟨apart, unclosed⟩ := List.isChain_cons.mp unclosed
    have noMark : ∀ more, c = .char '%' →
        inner ++ (Mark.blockClose ++ rest) ≠ .char '}' :: more := by
      rintro more rfl closes
      cases inner with
      | nil => simp [Mark.blockClose, Text.ofString] at closes
      | cons d inner => exact apart d rfl ⟨rfl, (List.cons.inj closes).1⟩
    rw [List.cons_append, cutFrom, inductionHypothesis unclosed]
    · simp
    · exact noMark

/-- A text has a first closing mark or none at all. -/
theorem closes_or_unclosed (t : Text) :
    (∃ inner rest, Unclosed inner ∧ t = inner ++ (Mark.blockClose ++ rest)) ∨ Unclosed t := by
  induction t with
  | nil => exact .inr .nil
  | cons c rest inductionHypothesis =>
    by_cases closes : ∃ more, c :: rest = Mark.blockClose ++ more
    · obtain ⟨more, is⟩ := closes
      exact .inl ⟨[], more, .nil, is⟩
    · have apart : ∀ d ∈ rest.head?, ¬ (c = .char '%' ∧ d = .char '\x7d') := by
        rintro d first ⟨rfl, rfl⟩
        obtain ⟨more, rfl⟩ := List.head?_eq_some_iff.mp first
        exact closes ⟨more, rfl⟩
      rcases inductionHypothesis with ⟨inner, more, unclosed, rfl⟩ | unclosed
      · refine .inl ⟨c :: inner, more, List.isChain_cons.mpr ⟨fun d first => ?_, unclosed⟩, rfl⟩
        exact apart d (by rw [List.head?_append, first]; rfl)
      · exact .inr (List.isChain_cons.mpr ⟨apart, unclosed⟩)

/-- A tag that is never closed is plain text to the end. -/
theorem cutFrom_stays {t : Text} (unclosed : Unclosed t) (passed : Text) :
    cutFrom (some passed) t = [plain (Mark.blockOpen ++ passed.reverse ++ t)] := by
  induction t generalizing passed with
  | nil => simp [cutFrom]
  | cons c rest inductionHypothesis =>
    have ⟨apart, unclosed⟩ := List.isChain_cons.mp unclosed
    rw [cutFrom, inductionHypothesis unclosed]
    · simp
    · rintro more rfl rfl
      exact apart _ rfl ⟨rfl, rfl⟩

theorem cut_open {rest : Text} (unclosed : Unclosed rest) :
    cut (Mark.blockOpen ++ rest) = [plain (Mark.blockOpen ++ rest)] := by
  have opened : cut (Mark.blockOpen ++ rest) = cutFrom (some []) rest := rfl
  rw [opened, cutFrom_stays unclosed]
  simp

theorem cut_block {inner : Text} (unclosed : Unclosed inner) (rest : Text) :
    cut (Mark.block inner ++ rest) = tag inner :: cut rest := by
  have opens : Mark.block inner ++ rest =
      .char '\x7b' :: .char '%' :: (inner ++ (Mark.blockClose ++ rest)) := by
    simp [Mark.block, Mark.blockOpen, Text.ofString]
  rw [cut, opens, cutFrom, cutFrom_unclosed unclosed]
  rfl

theorem cut_cons {c : Code} {rest : Text}
    (apart : ∀ more, c :: rest ≠ Mark.blockOpen ++ more) :
    cut (c :: rest) = prepend c (cut rest) := by
  rw [cut, cutFrom]
  · rfl
  · rintro more rfl rfl
    exact apart more rfl

/-- What holds of all texts: a text begins with a tag, with an opening mark that stays open, or with
a code point that is no part of a tag. -/
theorem cut_induction {motive : Text → Prop} (nil : motive [])
    (block : ∀ inner rest, Unclosed inner → motive rest → motive (Mark.block inner ++ rest))
    (tail : ∀ rest, Unclosed rest → motive (Mark.blockOpen ++ rest))
    (char : ∀ c rest, (∀ more, c :: rest ≠ Mark.blockOpen ++ more) → motive rest →
      motive (c :: rest)) (t : Text) : motive t := by
  induction size : t.length using Nat.strong_induction_on generalizing t with
  | _ n inductionHypothesis =>
    subst size
    cases t with
    | nil => exact nil
    | cons c rest =>
      by_cases opens : ∃ more, c :: rest = Mark.blockOpen ++ more
      · obtain ⟨more, is⟩ := opens
        rw [is] at inductionHypothesis ⊢
        rcases closes_or_unclosed more with ⟨inner, after, unclosed, rfl⟩ | unclosed
        · have shorter := inductionHypothesis after.length
            (by simp [Mark.blockOpen, Mark.blockClose, Text.ofString]; omega) after rfl
          have tagged := block inner after unclosed shorter
          simpa [Mark.block] using tagged
        · exact tail more unclosed
      · have shorter := inductionHypothesis rest.length (by simp) rest rfl
        exact char c rest (fun more is => opens ⟨more, is⟩) shorter

/-- A tag may stand for another tag if they are so related; plain text stands for itself. -/
inductive Replaces (related : Text → Text → Prop) : Segment → Segment → Prop where
  | plain (t : Text) : Replaces related (plain t) (plain t)
  | tag {inner inner' : Text} (is : related inner inner') :
      Replaces related (tag inner) (tag inner')

theorem Replaces.mono {related weaker : Text → Text → Prop}
    (weaken : ∀ inner inner', related inner inner' → weaker inner inner') {s s' : Segment}
    (replaces : Replaces related s s') : Replaces weaker s s' := by
  cases replaces with
  | plain t => exact .plain t
  | tag is => exact .tag (weaken _ _ is)

/-- Tags give way to tags in which no mark closes them early. -/
abbrev Redone : List Segment → List Segment → Prop :=
  List.Forall₂ (Replaces fun _ inner' => Unclosed inner')

theorem Redone.head?_join {segments segments' : List Segment} (redone : Redone segments segments') :
    (join segments').head? = (join segments).head? := by
  induction redone with
  | nil => rfl
  | cons replaces _ inductionHypothesis =>
    cases replaces with
    | plain t => simp [text, List.head?_append, inductionHypothesis]
    | tag => rfl

theorem redone_prepend {c : Code} {segments replaced : List Segment}
    (redone : Redone (prepend c segments) replaced) :
    ∃ segments', Redone segments segments' ∧ replaced = prepend c segments' := by
  match segments, redone with
  | [], .cons (.plain _) .nil => exact ⟨[], .nil, rfl⟩
  | plain t :: rest, .cons (.plain _) more => exact ⟨plain t :: _, .cons (.plain t) more, rfl⟩
  | tag inner :: rest, .cons (.plain _) (.cons (.tag is) more) =>
    exact ⟨_, .cons (.tag is) more, rfl⟩

/-- A template whose tags have been replaced is cut where the first one was. -/
theorem cut_join_of_redone {template : Text} {segments : List Segment}
    (redone : Redone (cut template) segments) : cut (join segments) = segments := by
  induction template using cut_induction generalizing segments with
  | nil =>
    cases redone
    rfl
  | block inner rest unclosed inductionHypothesis =>
    rw [cut_block unclosed] at redone
    cases redone with
    | cons first more =>
      cases first with
      | tag unclosed' =>
        rw [join_cons, text, cut_block unclosed', inductionHypothesis more]
  | tail rest unclosed =>
    rw [cut_open unclosed] at redone
    cases redone with
    | cons first more =>
      cases first
      cases more
      simpa [text] using cut_open unclosed
  | char c rest apart inductionHypothesis =>
    rw [cut_cons apart] at redone
    obtain ⟨segments', later, rfl⟩ := redone_prepend redone
    rw [join_prepend, cut_cons, inductionHypothesis later]
    -- The first code point of the rest is still the same, so no opening mark arises.
    intro more opens
    obtain ⟨same, first⟩ := List.cons.inj opens
    have head := later.head?_join
    rw [join_cut, first] at head
    obtain ⟨rest', rfl⟩ := List.head?_eq_some_iff.mp head.symm
    exact apart rest' (by rw [same]; rfl)

/-- What stands between the marks of a tag does not close it. -/
theorem unclosed_of_mem_cut {template inner : Text} (found : tag inner ∈ cut template) :
    Unclosed inner := by
  induction template using cut_induction with
  | nil => cases found
  | block inner' rest unclosed inductionHypothesis =>
    rw [cut_block unclosed] at found
    rcases List.mem_cons.mp found with is | later
    · cases is
      exact unclosed
    · exact inductionHypothesis later
  | tail rest unclosed =>
    rw [cut_open unclosed] at found
    simp at found
  | char c rest apart inductionHypothesis =>
    rw [cut_cons apart] at found
    apply inductionHypothesis
    revert found
    cases cut rest with
    | nil => simp [prepend]
    | cons s more => cases s <;> simp [prepend]

end Segment

end HaxeBuild.Template
