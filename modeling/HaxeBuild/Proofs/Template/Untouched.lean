import HaxeBuild.Proofs.Template.Delivery

namespace HaxeBuild.Template

open Text

namespace Expansion

/-! ### Expansion goes through text without tags -/

/-- Expands the rest of a template on its line, behind the blocks that are open. -/
def expandFrom (tags : List Tag) (opened : List Block) (line : Nat) (t : Text) :
    Except SyntaxFlaw Text :=
  (segments tags opened line (Segment.cut t)).map Segment.join

section

variable {tags : List Tag} {opened : List Block} {line : Nat}

/-- An expansion starts in the first line with nothing open. -/
theorem expand_eq_expandFrom (tags : List Tag) (t : Text) :
    expand tags t = expandFrom tags [] 1 t := by
  unfold expand expandFrom
  cases segments tags [] 1 (Segment.cut t) <;> rfl

/-- A character before the first segment stays before it. -/
theorem segments_prepend (c : Code) (segs : List Segment) :
    segments tags opened line (Segment.prepend c segs) =
      (segments tags opened (line + countNewlines [c]) segs).map (Segment.prepend c) := by
  match segs with
  | [] => rfl
  | .plain t :: rest =>
    have count : line + countNewlines (c :: t) = line + countNewlines [c] + t.countNewlines := by
      rw [← List.singleton_append, countNewlines_append, Nat.add_assoc]
    simp only [Segment.prepend, segments, count]
    cases segments tags opened (line + countNewlines [c] + t.countNewlines) rest <;> rfl
  | .tag inner :: rest =>
    have alone : Segment.prepend c (.tag inner :: rest) = .plain [c] :: .tag inner :: rest := rfl
    rw [alone, segments]
    cases done : segments tags opened (line + countNewlines [c]) (.tag inner :: rest) with
    | error e => rfl
    | ok segs' =>
      obtain ⟨inner', _, rest', -, -, rfl⟩ := segments_tag_eq_ok_iff.mp done
      rfl

/-- A character that begins no tag is kept. -/
theorem expandFrom_cons {c : Code} {rest : Text}
    (apart : ∀ more, c :: rest ≠ Mark.blockOpen ++ more) :
    expandFrom tags opened line (c :: rest) =
      (expandFrom tags opened (line + countNewlines [c]) rest).map (c :: ·) := by
  rw [expandFrom, Segment.cut_cons apart, segments_prepend, expandFrom]
  cases segments tags opened (line + countNewlines [c]) (Segment.cut rest) with
  | error e => rfl
  | ok segs' => exact congrArg Except.ok (Segment.join_prepend c segs')

/-- A tag is expanded, and the rest goes on with what the tag has left open. -/
theorem expandFrom_block {inner : Text} (unclosed : Unclosed inner) (rest : Text) :
    expandFrom tags opened line (Mark.block inner ++ rest) =
      (tag tags opened line inner).bind fun expanded =>
        (expandFrom tags expanded.2 (line + inner.countNewlines) rest).map
          (Mark.block expanded.1 ++ ·) := by
  rw [expandFrom, Segment.cut_block unclosed, segments]
  cases tag tags opened line inner with
  | error e => rfl
  | ok expanded =>
    unfold expandFrom
    change (do
      let rest' ← segments tags expanded.2 (line + inner.countNewlines) (Segment.cut rest)
      return Segment.tag expanded.1 :: rest').map Segment.join = Except.map _ (Except.map _ _)
    cases segments tags expanded.2 (line + inner.countNewlines) (Segment.cut rest) <;> rfl

/-- An opening mark without a closing one begins no tag. -/
theorem expandFrom_open {rest : Text} (unclosed : Unclosed rest) :
    expandFrom tags opened line (Mark.blockOpen ++ rest) = .ok (Mark.blockOpen ++ rest) := by
  rw [expandFrom, Segment.cut_open unclosed]
  exact congrArg Except.ok (List.append_nil _)

/-- Without percent signs there are no tags. -/
theorem expandFrom_of_notMem {t : Text} (absent : Code.char '%' ∉ t) :
    expandFrom tags opened line t = .ok t := by
  induction t generalizing line with
  | nil => rfl
  | cons c rest inductionHypothesis =>
    rw [List.mem_cons, not_or] at absent
    rw [expandFrom_cons, inductionHypothesis absent.2]
    · rfl
    · rintro more is
      cases is
      exact absent.2 List.mem_cons_self

/-- What stands behind a text stays, if no mark is in it or goes across. -/
theorem expandFrom_append {back : Text} (absent : Code.char '%' ∉ back)
    (apart : back.head? ≠ some (.char '\x7d')) (t : Text) :
    expandFrom tags opened line (t ++ back) =
      (expandFrom tags opened line t).map (· ++ back) := by
  induction t using Segment.cut_induction generalizing opened line with
  | nil => exact expandFrom_of_notMem absent
  | block inner rest unclosed inductionHypothesis =>
    rw [List.append_assoc, expandFrom_block unclosed, expandFrom_block unclosed]
    cases tag tags opened line inner with
    | error e => rfl
    | ok expanded =>
      simp only [Except.bind, inductionHypothesis]
      cases expandFrom tags expanded.2 (line + inner.countNewlines) rest with
      | error e => rfl
      | ok out => exact congrArg Except.ok (List.append_assoc _ out back).symm
  | tail rest unclosed =>
    have unclosed' : Unclosed (rest ++ back) :=
      unclosed_append.mpr ⟨unclosed, unclosed_of_notMem absent, fun both => apart both.2⟩
    rw [List.append_assoc, expandFrom_open unclosed, expandFrom_open unclosed']
    exact congrArg Except.ok (List.append_assoc ..).symm
  | char c rest apart' inductionHypothesis =>
    rw [expandFrom_cons apart', List.cons_append, expandFrom_cons, inductionHypothesis]
    · cases expandFrom tags opened (line + countNewlines [c]) rest <;> rfl
    · intro more is
      cases rest with
      | nil =>
        rw [List.nil_append] at is
        cases is
        exact absent List.mem_cons_self
      | cons d rest =>
        cases is
        exact apart' _ rfl

/-- What stands before a text stays as well; its newlines count. -/
theorem expandFrom_prepend {front : Text} (absent : Code.char '%' ∉ front)
    (apart : front.getLast? ≠ some (.char '\x7b')) (t : Text) :
    expandFrom tags opened line (front ++ t) =
      (expandFrom tags opened (line + front.countNewlines) t).map (front ++ ·) := by
  induction front generalizing line with
  | nil =>
    have none : countNewlines [] = 0 := rfl
    rw [List.nil_append, none, Nat.add_zero]
    cases expandFrom tags opened line t <;> rfl
  | cons c front inductionHypothesis =>
    rw [List.mem_cons, not_or] at absent
    have apart' : front.getLast? ≠ some (.char '\x7b') := by
      intro last
      exact apart (by rw [List.getLast?_cons, last]; rfl)
    have count : line + countNewlines (c :: front) =
        line + countNewlines [c] + countNewlines front := by
      rw [← List.singleton_append, countNewlines_append, Nat.add_assoc]
    rw [List.cons_append, expandFrom_cons, inductionHypothesis absent.2 apart', count]
    · cases expandFrom tags opened (line + countNewlines [c] + countNewlines front) t <;> rfl
    · intro more is
      cases front with
      | nil =>
        cases is
        exact apart rfl
      | cons d front =>
        cases is
        exact absent.2 List.mem_cons_self

end

/-! ### Tags that are rewritten -/

/-- How many code points of the text are no blanks. -/
def countSolid (t : Text) : Nat := t.countP fun c => !c.isBlank

/-- The solid characters of two texts add up. -/
theorem countSolid_append (t u : Text) : countSolid (t ++ u) = countSolid t + countSolid u :=
  List.countP_append

/-- Blanks are not solid. -/
theorem countSolid_blank {t : Text} (blank : AllBlank t) : countSolid t = 0 :=
  List.countP_eq_zero.mpr fun c among => by simp [blank c among]

/-- Trimming takes no solid character away. -/
theorem countSolid_trim (t : Text) : countSolid t.trim = countSolid t := by
  obtain ⟨front, back, before, after, is⟩ := exists_trim t
  have count := congrArg countSolid is
  rw [countSolid_append, countSolid_append, countSolid_blank before, countSolid_blank after] at count
  omega

/-- A custom tag owns what stands between the marks. -/
def Owned (tags : List Tag) (inner : Text) : Prop :=
  firstWord inner ∉ keywords ∧ (owner? tags inner.trim).isSome

instance (tags : List Tag) (inner : Text) : Decidable (Owned tags inner) :=
  inferInstanceAs (Decidable (_ ∧ _))

/-- Ends, loops that have a target and a source, and custom tags are rewritten. -/
def IsRewritten (tags : List Tag) (inner : Text) : Prop :=
  firstWord inner = "end" ∨ (loopParts? inner.trim).isSome ∨ Owned tags inner

instance (tags : List Tag) (inner : Text) : Decidable (IsRewritten tags inner) :=
  inferInstanceAs (Decidable (_ ∨ _))

/-- No tag in the text is rewritten. -/
def Untouched (tags : List Tag) (t : Text) : Prop :=
  ∀ inner, Segment.tag inner ∈ Segment.cut t → ¬ IsRewritten tags inner

section

variable {tags : List Tag} {opened opened' : List Block} {line : Nat} {inner inner' : Text}

/-- A tag that is not rewritten stays as it is. -/
theorem tag_of_not_isRewritten (kept : ¬ IsRewritten tags inner) (opened : List Block)
    (line : Nat) : ∃ opened', tag tags opened line inner = .ok (inner, opened') := by
  obtain ⟨notEnd, noParts, unowned⟩ : firstWord inner ≠ "end" ∧
      loopParts? inner.trim = none ∧ ¬ Owned tags inner := by
    simpa [IsRewritten] using kept
  have expansion := expansion_of_tag tags opened line inner
  generalize tag tags opened line inner = outcome at expansion
  cases expansion with
  | branch word => exact ⟨_, rfl⟩
  | loop word parts => cases noParts.symm.trans parts
  | looseLoop word noParts => exact ⟨_, rfl⟩
  | closer b word => exact ⟨_, rfl⟩
  | ended bare innermost =>
    refine absurd ?_ notEnd
    rw [← firstWord_trim, bare]
    decide
  | stray word stray => exact absurd word notEnd
  | custom word owner => exact absurd ⟨word, by rw [owner]; rfl⟩ unowned
  | other notIf notFor noCloser notEnd free => exact ⟨_, rfl⟩

/-- A loop is rewritten from its target and its source. -/
theorem tag_of_loopParts? {target source : Text}
    (parts : loopParts? inner.trim = some (target, source)) (opened : List Block) (line : Nat) :
    tag tags opened line inner =
      .ok (loopTag target source line inner.countNewlines, .loop :: opened) := by
  have word : (inner.trim.firstWord?.map Prod.fst).getD [] = Block.loop.keyword :=
    (firstWord_trim inner).trans (firstWord_of_loopParts? parts)
  simp only [tag, word, parts]
  rfl

/-- An end becomes the closing tag of a block. -/
theorem closingTag_of_end (word : firstWord inner = "end")
    (expanded : tag tags opened line inner = .ok (inner', opened')) :
    ∃ b, inner' = closingTag b inner.countNewlines := by
  have expansion := expansion_of_tag tags opened line inner
  rw [expanded] at expansion
  cases expansion with
  | ended bare innermost => exact ⟨_, rfl⟩
  | branch word' => exact absurd (word.symm.trans word') (by decide)
  | loop word' parts => exact absurd (word.symm.trans word') (by decide)
  | looseLoop word' noParts => exact absurd (word.symm.trans word') (by decide)
  | closer b word' => exact absurd (word.symm.trans word') (by cases b <;> decide)
  | custom free owner => exact absurd (by rw [word]; decide) free
  | other notIf notFor noCloser notEnd free => exact absurd word notEnd

/-- Wrapping the source of a loop adds code points that are no blanks. -/
theorem loopTag_ne {target source : Text} (parts : loopParts? inner.trim = some (target, source))
    (line lines : Nat) : loopTag target source line lines ≠ inner := by
  rintro rfl
  obtain ⟨c, gap, front, back, first, later, before, between, is⟩ := exists_of_loopParts? parts
  have gaps : AllBlank (c :: gap) := List.forall_mem_cons.mpr ⟨first, later⟩
  have count := congrArg countSolid is
  rw [countSolid_trim, loopTag] at count
  simp only [countSolid_append, countSolid_blank gaps, countSolid_blank before,
    countSolid_blank between] at count
  have fixed : countSolid " in _iterate(" = 11 ∧ countSolid "in" = 2 ∧ countSolid "for" = 3 ∧
    countSolid " for " = 3 := by decide
  omega

/-- A tag that is rewritten does not stay as it was. -/
theorem ne_of_isRewritten (noQuote : Code.char '"' ∉ inner) (rewritten : IsRewritten tags inner)
    (expanded : tag tags opened line inner = .ok (inner', opened')) : inner' ≠ inner := by
  rcases rewritten with word | parts | ⟨free, owned⟩
  · obtain ⟨b, rfl⟩ := closingTag_of_end word expanded
    intro same
    have closer := firstWord_closingTag b inner.countNewlines
    rw [same, word] at closer
    exact absurd closer (by cases b <;> decide)
  · obtain ⟨⟨target, source⟩, parts⟩ := Option.isSome_iff_exists.mp parts
    cases expanded.symm.trans (tag_of_loopParts? parts opened line)
    exact loopTag_ne parts line _
  · obtain ⟨⟨index, name, payload⟩, owner⟩ := Option.isSome_iff_exists.mp owned
    cases expanded.symm.trans (expansion_of_owner free owner opened line)
    rintro same
    apply noQuote
    rw [← same]
    simp [customTag, Text.quoted, ofString]

end

/-- The inside of a tag is a part of the template. -/
theorem isInfix_of_mem_cut {t inner : Text} (found : Segment.tag inner ∈ Segment.cut t) :
    inner <:+: t := by
  obtain ⟨front, back, split⟩ := List.append_of_mem found
  have whole := Segment.join_cut t
  rw [split, Segment.join, List.flatMap_append, List.flatMap_cons] at whole
  rw [← whole]
  refine ⟨front.flatMap Segment.text ++ Mark.blockOpen,
    Mark.blockClose ++ back.flatMap Segment.text, ?_⟩
  simp [Segment.text, Mark.block]

/-- Where no tag is rewritten, nothing changes. -/
theorem segments_of_not_isRewritten {tags : List Tag} {segs : List Segment}
    (kept : ∀ inner, Segment.tag inner ∈ segs → ¬ IsRewritten tags inner) (opened : List Block)
    (line : Nat) : segments tags opened line segs = .ok segs := by
  induction segs generalizing opened line with
  | nil => rfl
  | cons s rest inductionHypothesis =>
    have later := inductionHypothesis fun inner among => kept inner (List.mem_cons_of_mem _ among)
    cases s with
    | plain t => exact segments_plain_eq_ok_iff.mpr ⟨rest, later _ _, rfl⟩
    | tag inner =>
      obtain ⟨opened', same⟩ := tag_of_not_isRewritten (kept inner List.mem_cons_self) opened line
      exact segments_tag_eq_ok_iff.mpr ⟨inner, opened', rest, same, later _ _, rfl⟩

/-- Exactly the templates without a tag that is rewritten stay as they are. -/
theorem expand_eq_self_iff (tags : List Tag) {s : Text} (noQuote : Code.char '"' ∉ s) :
    expand tags s = .ok s ↔ Untouched tags s := by
  rw [expand_eq_ok_iff]
  constructor
  · intro expanded inner among rewritten
    have each := List.forall₂_same.mp (replaces_of_segments expanded)
    cases each _ among with
    | tag expands =>
      obtain ⟨opened, line, opened', same⟩ := expands
      have noQuote' := fun quote => noQuote ((isInfix_of_mem_cut among).subset quote)
      exact ne_of_isRewritten noQuote' rewritten same rfl
  · intro untouched
    exact segments_of_not_isRewritten untouched [] 1

/-! ### What expansion adds -/

/-- Between double quotes the text stands for itself. -/
def Quotable (t : Text) : Prop :=
  ∀ c ∈ t, c ≠ .char '"' ∧ c ≠ .char '\\' ∧ c ≠ .char '\r'

instance (t : Text) : Decidable (Quotable t) := inferInstanceAs (Decidable (∀ c ∈ t, _))

/-- Two texts can be quoted together if each can be. -/
theorem quotable_append {t u : Text} : Quotable (t ++ u) ↔ Quotable t ∧ Quotable u :=
  List.forall_mem_append

theorem Quotable.noQuote {t : Text} (quotable : Quotable t) : Code.char '"' ∉ t :=
  fun among => (quotable _ among).1 rfl

theorem Quotable.noBackslash {t : Text} (quotable : Quotable t) : Code.char '\\' ∉ t :=
  fun among => (quotable _ among).2.1 rfl

theorem Quotable.noReturn {t : Text} (quotable : Quotable t) : Code.char '\r' ∉ t :=
  fun among => (quotable _ among).2.2 rfl

/-- So can a part of what can be quoted. -/
theorem Quotable.of_isInfix {t part : Text} (quotable : Quotable t) (inside : part <:+: t) :
    Quotable part :=
  fun c among => quotable c (inside.subset among)

theorem quotable_ofNat (n : Nat) : Quotable (Text.ofNat n) := by
  intro c among
  have digit := isAsciiDigit_of_mem_ofNat among
  refine ⟨?_, ?_, ?_⟩ <;> rintro rfl <;> cases digit

theorem quotable_newlines (n : Nat) : Quotable (newlines n) := by
  intro c among
  rw [List.eq_of_mem_replicate among]
  decide

/-- A loop can be quoted after it was rewritten, if its parts could. -/
theorem quotable_loopTag {target source : Text} (front : Quotable target) (back : Quotable source)
    (line lines : Nat) : Quotable (loopTag target source line lines) := by
  simp only [loopTag, quotable_append, quotable_ofNat, quotable_newlines, front, back, and_true]
  decide

theorem quotable_closingTag (b : Block) (lines : Nat) : Quotable (closingTag b lines) := by
  simp only [closingTag, quotable_append, quotable_newlines, and_true]
  cases b <;> decide

/-- Marks do not keep a text from being quoted. -/
theorem quotable_block {inner : Text} : Quotable (Mark.block inner) ↔ Quotable inner := by
  have marks : Quotable Mark.blockOpen ∧ Quotable Mark.blockClose := by decide
  simp only [Mark.block, quotable_append, marks, true_and, and_true]

/-- Only custom tags bring quotes in. -/
theorem quotable_of_tag {tags : List Tag} {opened opened' : List Block} {line : Nat}
    {inner inner' : Text} (quotable : Quotable inner) (unowned : ¬ Owned tags inner)
    (expanded : tag tags opened line inner = .ok (inner', opened')) : Quotable inner' := by
  have expansion := expansion_of_tag tags opened line inner
  rw [expanded] at expansion
  have trimmed := quotable.of_isInfix (isInfix_trim inner)
  cases expansion with
  | loop word parts =>
    obtain ⟨front, back⟩ := infix_of_loopParts? parts
    exact quotable_loopTag (trimmed.of_isInfix front) (trimmed.of_isInfix back) _ _
  | ended bare innermost => exact quotable_closingTag _ _
  | custom free owner => exact absurd ⟨free, by rw [owner]; rfl⟩ unowned
  | branch word => exact quotable
  | looseLoop word noParts => exact quotable
  | closer b word => exact quotable
  | other notIf notFor noCloser notEnd free => exact quotable

/-- The first quotes in the text are those around the name that a custom tag was written with. -/
def QuotesName (tags : List Tag) (t : Text) : Prop :=
  ∃ front rest content index name payload, owner? tags content = some (index, name, payload) ∧
    Quotable front ∧ t = front ++ (name.quoted ++ rest)

/-- What can be quoted may stand before a quoted name. -/
theorem QuotesName.prepend {tags : List Tag} {t : Text} (quotes : QuotesName tags t) {front : Text}
    (quotable : Quotable front) : QuotesName tags (front ++ t) := by
  obtain ⟨front', rest, content, index, name, payload, owner, quotable', rfl⟩ := quotes
  exact ⟨front ++ front', rest, content, index, name, payload, owner,
    quotable_append.mpr ⟨quotable, quotable'⟩, by rw [List.append_assoc]⟩

/-- A custom tag quotes its name. -/
theorem quotesName_customTag {tags : List Tag} {content name payload : Text} {index : Nat}
    (owner : owner? tags content = some (index, name, payload)) (lines : Nat) (behind : Text) :
    QuotesName tags (Mark.block (customTag index name payload lines) ++ behind) := by
  refine ⟨Mark.blockOpen ++ (" customtag " ++ Text.ofNat index ++ ", "),
    ", " ++ payload.quoted ++ newlines lines ++ " " ++ Mark.blockClose ++ behind, content, index,
    name, payload, owner, ?_, ?_⟩
  · simp only [quotable_append, quotable_ofNat, and_true]
    decide
  · simp [Mark.block, customTag]

/-- If an expansion brings quotes in, then the first ones are around the name of a custom tag. -/
theorem quotable_or_quotesName {tags : List Tag} {opened : List Block} {line : Nat}
    {segs segs' : List Segment} (quotable : Quotable (Segment.join segs))
    (expanded : segments tags opened line segs = .ok segs') :
    Quotable (Segment.join segs') ∨
      ((∃ inner, Segment.tag inner ∈ segs ∧ Owned tags inner) ∧
        QuotesName tags (Segment.join segs')) := by
  induction segs generalizing opened line segs' with
  | nil =>
    cases expanded
    exact .inl quotable
  | cons s rest inductionHypothesis =>
    obtain ⟨first, later⟩ := quotable_append.mp (Segment.join_cons s rest ▸ quotable)
    -- The quotes are in the rest unless the first segment brings them in.
    have extend {s' : Segment} {opened' : List Block} {line' : Nat} {rest' : List Segment}
        (first' : Quotable s'.text)
        (expanded' : segments tags opened' line' rest = .ok rest') :
        Quotable (Segment.join (s' :: rest')) ∨
          ((∃ inner, Segment.tag inner ∈ s :: rest ∧ Owned tags inner) ∧
            QuotesName tags (Segment.join (s' :: rest'))) := by
      rw [Segment.join_cons]
      rcases inductionHypothesis later expanded' with plain | ⟨⟨inner, among, owned⟩, quotes⟩
      · exact .inl (quotable_append.mpr ⟨first', plain⟩)
      · exact .inr ⟨⟨inner, List.mem_cons_of_mem s among, owned⟩, quotes.prepend first'⟩
    cases s with
    | plain t =>
      obtain ⟨rest', expanded', rfl⟩ := segments_plain_eq_ok_iff.mp expanded
      exact extend first expanded'
    | tag inner =>
      obtain ⟨inner', opened', rest', becomes, expanded', rfl⟩ :=
        segments_tag_eq_ok_iff.mp expanded
      by_cases owned : Owned tags inner
      · obtain ⟨⟨index, name, payload⟩, owner⟩ := Option.isSome_iff_exists.mp owned.2
        cases becomes.symm.trans (expansion_of_owner owned.1 owner opened line)
        exact .inr ⟨⟨inner, List.mem_cons_self, owned⟩, quotesName_customTag owner _ _⟩
      · have plain : Quotable (Segment.tag inner').text :=
          quotable_block.mpr (quotable_of_tag (quotable_block.mp first) owned becomes)
        exact extend plain expanded'

end Expansion

end HaxeBuild.Template
