import Mathlib.Data.List.Forall2
import HaxeBuild.Proofs.Effect
import HaxeBuild.Proofs.Template.Cutting
import HaxeBuild.Proofs.Text.Escaping
import HaxeBuild.Proofs.Text.Trimming

namespace HaxeBuild.Template

open Text

/-- The first word between the marks of a tag, which tells tags apart. -/
def firstWord (inner : Text) : Text := (inner.firstWord?.map Prod.fst).getD []

@[simp] theorem firstWord_trim (inner : Text) : firstWord inner.trim = firstWord inner := by
  rw [firstWord, firstWord?_trim, firstWord]
  cases inner.firstWord? <;> rfl

/-- A word between blanks is the first one. -/
theorem firstWord_of_word {c : Code} (word rest : Text) (blank : c.isBlank = true)
    (solid : NoBlank word) (present : word ≠ []) (apart : ∀ d ∈ rest.head?, d.isBlank = true) :
    firstWord (c :: (word ++ rest)) = word := by
  have before : AllBlank [c] := by simpa [AllBlank] using blank
  cases rest with
  | nil =>
    have found := firstWord?_eq_some before solid present (List.forall_mem_nil _) [] fun _ => rfl
    simp only [List.append_nil, List.cons_append, List.nil_append] at found
    simp [firstWord, found]
  | cons d more =>
    have between : AllBlank [d] := by simpa [AllBlank] using apart d rfl
    have found := firstWord?_eq_some before solid present between more nofun
    simp only [List.append_assoc, List.cons_append, List.nil_append] at found
    simp [firstWord, found]

namespace Expansion

/-- How a tag is expanded, by its first word. -/
inductive TagExpansion (tags : List Tag) (opened : List Block) (line : Nat) (inner : Text) :
    Except SyntaxFlaw (Text × List Block) → Prop where
  | branch (word : firstWord inner = Block.branch.keyword) :
      TagExpansion tags opened line inner (.ok (inner, .branch :: opened))
  | loop {target source : Text} (word : firstWord inner = Block.loop.keyword)
      (parts : loopParts? inner.trim = some (target, source)) :
      TagExpansion tags opened line inner
        (.ok (loopTag target source line inner.countNewlines, .loop :: opened))
  | looseLoop (word : firstWord inner = Block.loop.keyword)
      (noParts : loopParts? inner.trim = none) :
      TagExpansion tags opened line inner (.ok (inner, .loop :: opened))
  | closer (b : Block) (word : firstWord inner = b.closer) :
      TagExpansion tags opened line inner (.ok (inner, opened.drop 1))
  | ended {b : Block} {outer : List Block} (bare : inner.trim = "end")
      (innermost : opened = b :: outer) :
      TagExpansion tags opened line inner (.ok (closingTag b inner.countNewlines, outer))
  | stray (word : firstWord inner = "end") (stray : inner.trim ≠ "end" ∨ opened = []) :
      TagExpansion tags opened line inner (.error ⟨.strayEnd inner.trim, line⟩)
  | custom {index : Nat} {name payload : Text} (word : firstWord inner ∉ keywords)
      (owner : owner? tags inner.trim = some (index, name, payload)) :
      TagExpansion tags opened line inner
        (.ok (customTag index name payload inner.countNewlines, opened))
  | other (notIf : firstWord inner ≠ Block.branch.keyword)
      (notFor : firstWord inner ≠ Block.loop.keyword)
      (noCloser : ∀ b : Block, firstWord inner ≠ b.closer) (notEnd : firstWord inner ≠ "end")
      (free : firstWord inner ∉ keywords → owner? tags inner.trim = none) :
      TagExpansion tags opened line inner (.ok (inner, opened))

/-- Every tag is expanded in one of these ways, or refused. -/
theorem expansion_of_tag (tags : List Tag) (opened : List Block) (line : Nat) (inner : Text) :
    TagExpansion tags opened line inner (tag tags opened line inner) := by
  have word : (inner.trim.firstWord?.map Prod.fst).getD [] = firstWord inner := firstWord_trim inner
  simp only [tag, word]
  split
  · rename_i isIf
    exact .branch (eq_of_beq isIf)
  · rename_i notIf
    split
    · rename_i isFor
      split
      · rename_i parts
        exact .loop (eq_of_beq isFor) parts
      · rename_i noParts
        exact .looseLoop (eq_of_beq isFor) noParts
    · rename_i notFor
      split
      · rename_i closes
        rcases Bool.or_eq_true_iff.mp closes with isIf | isFor
        · exact .closer .branch (eq_of_beq isIf)
        · exact .closer .loop (eq_of_beq isFor)
      · rename_i noCloser
        have noCloser : ∀ b : Block, firstWord inner ≠ b.closer := by
          intro b is
          apply noCloser
          cases b <;> simp [is]
        split
        · rename_i isEnd
          split
          · rename_i block outer
            split
            · rename_i bare
              exact .ended (eq_of_beq bare) rfl
            · rename_i wordy
              exact .stray (eq_of_beq isEnd) (.inl fun bare => wordy (beq_iff_eq.mpr bare))
          · exact .stray (eq_of_beq isEnd) (.inr rfl)
        · rename_i notEnd
          have other : (firstWord inner ∉ keywords → owner? tags inner.trim = none) →
              TagExpansion tags opened line inner (.ok (inner, opened)) :=
            .other (fun is => notIf (beq_iff_eq.mpr is)) (fun is => notFor (beq_iff_eq.mpr is))
              noCloser fun is => notEnd (beq_iff_eq.mpr is)
          split
          · rename_i keyword
            exact other fun free => absurd (List.contains_iff_mem.mp keyword) free
          · rename_i free
            split
            · rename_i index name payload owner
              exact .custom (fun among => free (List.contains_iff_mem.mpr among)) owner
            · rename_i unowned
              exact other fun _ => unowned

/-! ### The parts of a loop tag -/

/-- The source of a loop stands behind the word between blanks. -/
theorem exists_of_afterIn? {t source : Text} (found : afterIn? t = some source) :
    ∃ front back, AllBlank front ∧ AllBlank back ∧ t = front ++ ("in" ++ (back ++ source)) := by
  obtain ⟨front, before, is⟩ := exists_trimStart t
  unfold afterIn? at found
  split at found
  · cases found
  · split at found
    · split at found
      · rename_i d rest after
        obtain ⟨gap, between, is'⟩ := exists_trimStart rest
        split at found
        · rename_i blank start
          cases found
          refine ⟨front, d :: gap, before, List.forall_mem_cons.mpr ⟨blank, between⟩, ?_⟩
          rw [is, eq_append_of_after? after, is', start]
          rfl
        · cases found
      · cases found
    · cases found

/-- Target and source are what is before and behind the word. -/
theorem exists_of_splitIn? {passed rest target source : Text}
    (found : splitIn? passed rest = some (target, source)) :
    ∃ taken behind, target = passed.reverse ++ taken ∧ rest = taken ++ behind ∧
      afterIn? behind = some source := by
  induction rest generalizing passed with
  | nil => cases found
  | cons c cs inductionHypothesis =>
    rw [splitIn?] at found
    split at found
    · rename_i source' after
      cases found
      split at after
      · cases after
      · exact ⟨[], c :: cs, (List.append_nil _).symm, rfl, after⟩
    · obtain ⟨taken, behind, is, split, after⟩ := inductionHypothesis found
      exact ⟨c :: taken, behind, by simp [is], by rw [split]; rfl, after⟩

/-- A loop tag is its target and its source behind two keywords, with blanks between all of them. -/
theorem exists_of_loopParts? {content target source : Text}
    (found : loopParts? content = some (target, source)) :
    ∃ c gap front back, c.isBlank = true ∧ AllBlank gap ∧ AllBlank front ∧ AllBlank back ∧
      content = "for" ++ (c :: gap ++ (target ++ (front ++ ("in" ++ (back ++ source))))) := by
  unfold loopParts? at found
  split at found
  · cases found
  · rename_i rest after
    obtain ⟨skipped, among, found⟩ := List.exists_of_findSome?_eq_some found
    have few : skipped < (rest.takeWhile Code.isBlank).length := by simpa using among
    obtain ⟨taken, behind, rfl, split, after'⟩ := exists_of_splitIn? found
    obtain ⟨front, back, blank, blank', rfl⟩ := exists_of_afterIn? after'
    have skips : AllBlank (rest.take (skipped + 1)) := by
      have inside : rest.take (skipped + 1) <+: rest.takeWhile Code.isBlank :=
        List.prefix_of_prefix_length_le (List.take_prefix _ rest) (List.takeWhile_prefix _) (by
          rw [List.length_take]
          omega)
      exact fun c among => List.mem_takeWhile_imp (inside.subset among)
    have whole := List.take_append_drop (skipped + 1) rest
    rw [split] at whole
    cases rest with
    | nil => simp at few
    | cons c more =>
      rw [List.take_succ_cons] at skips whole
      have ⟨first, later⟩ := List.forall_mem_cons.mp skips
      refine ⟨c, more.take skipped, front, back, first, later, blank, blank', ?_⟩
      rw [eq_append_of_after? after, ← whole]

/-- The target and the source of a loop stand in its tag. -/
theorem infix_of_loopParts? {content target source : Text}
    (found : loopParts? content = some (target, source)) :
    target <:+: content ∧ source <:+: content := by
  obtain ⟨c, gap, front, back, -, -, -, -, rfl⟩ := exists_of_loopParts? found
  constructor
  · exact ⟨"for" ++ (c :: gap), front ++ ("in" ++ (back ++ source)), by simp⟩
  · exact ⟨"for" ++ (c :: gap ++ (target ++ (front ++ ("in" ++ back)))), [], by simp⟩

/-- What has the parts of a loop begins like one. -/
theorem firstWord_of_loopParts? {inner target source : Text}
    (found : loopParts? inner.trim = some (target, source)) :
    firstWord inner = Block.loop.keyword := by
  obtain ⟨c, gap, front, back, first, later, -, -, is⟩ := exists_of_loopParts? found
  have between : AllBlank (c :: gap) := List.forall_mem_cons.mpr ⟨first, later⟩
  have word := firstWord?_eq_some (List.forall_mem_nil _)
    (by decide : NoBlank ("for" : Text)) (by decide) between
    (target ++ (front ++ ("in" ++ (back ++ source)))) nofun
  rw [List.nil_append, List.append_assoc] at word
  rw [← firstWord_trim, firstWord, is, word]
  rfl

/-! ### What an expanded tag contains -/

/-- A number is written in digits. -/
theorem isAsciiDigit_of_mem_ofNat {n : Nat} {c : Code} (among : c ∈ Text.ofNat n) :
    c.isAsciiDigit = true := by
  obtain ⟨d, digit, rfl⟩ := List.mem_map.mp among
  have bounds : 48 ≤ d.toNat ∧ d.toNat ≤ 57 := by
    have isDigit := Nat.isDigit_of_mem_toDigits (by decide) (by decide) digit
    simpa [Char.isDigit, UInt32.le_iff_toNat_le] using isDigit
  exact Bool.and_eq_true_iff.mpr ⟨decide_eq_true bounds.1, decide_eq_true bounds.2⟩

/-- So no other character is in it. -/
theorem notMem_ofNat {c : Code} (noDigit : c.isAsciiDigit = false) (n : Nat) :
    c ∉ Text.ofNat n := by
  intro among
  rw [isAsciiDigit_of_mem_ofNat among] at noDigit
  cases noDigit

theorem notMem_newlines {c : Code} (other : c ≠ .char '\n') (n : Nat) : c ∉ newlines n :=
  fun among => other (List.eq_of_mem_replicate among)

@[simp] theorem countNewlines_newlines (n : Nat) : (newlines n).countNewlines = n :=
  List.count_replicate_self

@[simp] theorem countNewlines_ofNat (n : Nat) : (Text.ofNat n).countNewlines = 0 :=
  List.count_eq_zero.mpr (notMem_ofNat (by decide) n)

@[simp] theorem countNewlines_append (t u : Text) :
    (t ++ u).countNewlines = t.countNewlines + u.countNewlines :=
  List.count_append

@[simp] theorem countNewlines_quoted (t : Text) : t.quoted.countNewlines = 0 :=
  List.count_eq_zero.mpr (notMem_quoted (by decide) t)

/-- A tag that is put together around unclosed text is unclosed. -/
theorem unclosed_between {t back : Text} (front : Text) (absent : Code.char '%' ∉ front)
    (unclosed : Unclosed t) (later : Unclosed back)
    (apart : back.head? ≠ some (.char '\x7d')) : Unclosed (front ++ t ++ back) := by
  rw [List.append_assoc, unclosed_append, unclosed_append]
  refine ⟨unclosed_of_notMem absent, ⟨unclosed, later, fun closes => apart closes.2⟩, ?_⟩
  rintro ⟨last, -⟩
  exact absent (List.mem_of_getLast? last)

/-- Escaping does not bring marks together. -/
theorem unclosed_escaped {t : Text} (unclosed : Unclosed t) :
    Unclosed (t.flatMap Code.quoted) := by
  induction t with
  | nil => exact .nil
  | cons c rest inductionHypothesis =>
    have ⟨apart, later⟩ := List.isChain_cons.mp unclosed
    rw [List.flatMap_cons, unclosed_append]
    refine ⟨?_, inductionHypothesis later, ?_⟩
    · rcases c.quoted_eq_self_or_escape with ⟨is, -⟩ | escape
      · rw [is]
        exact List.isChain_singleton c
      · exact unclosed_of_notMem fun mark => absurd (escape _ mark) (by decide)
    · rintro ⟨last, first⟩
      cases rest with
      | nil => cases first
      | cons d more =>
        have ends := List.mem_of_getLast? last
        have begins : Code.char '\x7d' ∈ d.quoted := by
          cases piece : d.quoted with
          | nil => exact absurd piece d.quoted_ne_nil
          | cons e es =>
            rw [List.flatMap_cons, piece, List.cons_append, List.head?_cons] at first
            cases first
            exact List.mem_cons_self
        refine apart d rfl ⟨?_, ?_⟩
        · exact (Code.eq_of_mem_quoted ends (by decide)).symm
        · exact (Code.eq_of_mem_quoted begins (by decide)).symm

/-- A rewritten loop closes no tag too early. -/
theorem unclosed_loopTag {target source : Text} (front : Unclosed target)
    (back : Unclosed source) (line lines : Nat) : Unclosed (loopTag target source line lines) := by
  have own : Code.char '%' ∉ (", " : Text) ++ Text.ofNat line ++ ")" ++ newlines lines ++ " " := by
    simp [ofString, notMem_ofNat (c := .char '%') rfl, notMem_newlines]
  have inner := unclosed_between " in _iterate(" (by decide) back
    (unclosed_of_notMem own) (by simp [ofString])
  have outer := unclosed_between " for " (by decide) front inner
    (by simp [ofString])
  simpa [loopTag] using outer

/-- Neither does a custom tag. -/
theorem unclosed_customTag {name payload : Text} (front : Unclosed name) (back : Unclosed payload)
    (index lines : Nat) : Unclosed (customTag index name payload lines) := by
  have own : Code.char '%' ∉ (" customtag " : Text) ++ Text.ofNat index ++ ", \"" := by
    simp [ofString, notMem_ofNat (c := .char '%') rfl]
  have ends : Code.char '%' ∉ ("\"" : Text) ++ newlines lines ++ " " := by
    simp [ofString, notMem_newlines]
  have inner := unclosed_between "\", \"" (by decide) (unclosed_escaped back)
    (unclosed_of_notMem ends) (by simp [ofString])
  have outer := unclosed_between _ own (unclosed_escaped front) inner (by simp [ofString])
  simpa [customTag, Text.quoted, ofString] using outer

theorem unclosed_closingTag (b : Block) (lines : Nat) : Unclosed (closingTag b lines) := by
  refine unclosed_of_notMem ?_
  cases b <;> simp [closingTag, Block.closer, Block.keyword, ofString, notMem_newlines]

theorem firstWord_closingTag (b : Block) (lines : Nat) :
    firstWord (closingTag b lines) = b.closer := by
  have solid : NoBlank b.closer ∧ b.closer ≠ [] := by cases b <;> decide
  have apart : ∀ c ∈ (newlines lines ++ (" " : Text)).head?, c.isBlank = true := by
    intro c first
    cases lines <;> cases first <;> rfl
  have word := firstWord_of_word (c := .char ' ') _ _ (by decide) solid.1 solid.2 apart
  simpa [closingTag, ofString] using word

/-- A tag owns a content if it accepts it and no tag before does. -/
theorem owner_go_eq_some_iff {tags : List Tag} {content name payload : Text} {start index : Nat} :
    owner?.go content start tags = some (index, name, payload) ↔
      ∃ front tag back, tags = front ++ tag :: back ∧ index = start + front.length ∧
        (∀ other ∈ front, other.accepts? content = none) ∧
        tag.accepts? content = some (name, payload) := by
  induction tags generalizing start with
  | nil => simp [owner?.go]
  | cons tag rest inductionHypothesis =>
    rw [owner?.go]
    cases accepted : tag.accepts? content with
    | some pair =>
      obtain ⟨name', payload'⟩ := pair
      constructor
      · intro found
        cases found
        exact ⟨[], tag, rest, rfl, rfl, List.forall_mem_nil _, accepted⟩
      · rintro ⟨front, tag', back, split, position, refused, owns⟩
        cases front with
        | nil =>
          cases split
          rw [accepted] at owns
          cases owns
          subst position
          rfl
        | cons other front =>
          cases split
          rw [refused tag List.mem_cons_self] at accepted
          cases accepted
    | none =>
      rw [inductionHypothesis]
      constructor
      · rintro ⟨front, tag', back, rfl, rfl, refused, owns⟩
        refine ⟨tag :: front, tag', back, rfl, ?_, ?_, owns⟩
        · rw [List.length_cons]
          omega
        · exact List.forall_mem_cons.mpr ⟨accepted, refused⟩
      · rintro ⟨front, tag', back, split, position, refused, owns⟩
        cases front with
        | nil =>
          cases split
          rw [accepted] at owns
          cases owns
        | cons other front =>
          cases split
          refine ⟨front, tag', back, rfl, ?_, fun other among =>
            refused other (List.mem_cons_of_mem _ among), owns⟩
          rw [position, List.length_cons]
          omega

/-- The owner is the first tag that accepts the content. -/
theorem owner?_eq_some_iff {tags : List Tag} {content name payload : Text} {index : Nat} :
    owner? tags content = some (index, name, payload) ↔
      ∃ front tag back, tags = front ++ tag :: back ∧ index = front.length ∧
        (∀ other ∈ front, other.accepts? content = none) ∧
        tag.accepts? content = some (name, payload) := by
  rw [owner?, owner_go_eq_some_iff]
  simp only [Nat.zero_add]

/-- A custom tag's name and content are cut out of the tag. -/
theorem infix_of_accepts? {tag : Tag} {content name payload : Text}
    (accepted : tag.accepts? content = some (name, payload)) :
    name <:+: content ∧ payload <:+: content := by
  unfold Tag.accepts? Tag.split? at accepted
  split at accepted
  · rename_i rest after
    cases accepted
    rw [eq_append_of_after? after]
    exact ⟨(List.prefix_append _ _).isInfix,
      (isInfix_trim rest).trans (List.suffix_append _ _).isInfix⟩
  · split at accepted
    · rename_i word rest first
      obtain ⟨front, gap, -, -, -, -, -, -, rfl⟩ := exists_firstWord first
      split at accepted
      · cases accepted
        refine ⟨⟨front, gap ++ rest, by simp⟩, ?_⟩
        exact (isInfix_trim rest).trans (List.suffix_append _ _).isInfix
      · cases accepted
    · cases accepted

/-! ### Whole templates -/

/-- The newlines in the target and the source of a loop tag, which its expansion has twice. -/
def spilled (inner : Text) : Nat :=
  match loopParts? inner.trim with
  | some (target, source) => target.countNewlines + source.countNewlines
  | none => 0

/-- Only loops spill newlines. -/
theorem spilled_of_firstWord {inner : Text} (other : firstWord inner ≠ Block.loop.keyword) :
    spilled inner = 0 := by
  unfold spilled
  split
  · rename_i parts
    exact absurd (firstWord_of_loopParts? parts) other
  · rfl

/-- An expanded tag has no closing mark inside and keeps its newlines; a loop tag repeats those of
its target and its source. -/
theorem expanded_tag {tags : List Tag} {opened opened' : List Block} {line : Nat}
    {inner inner' : Text} (unclosed : Unclosed inner)
    (expanded : tag tags opened line inner = .ok (inner', opened')) :
    Unclosed inner' ∧ inner'.countNewlines = inner.countNewlines + spilled inner := by
  have expansion := expansion_of_tag tags opened line inner
  rw [expanded] at expansion
  have kept (other : firstWord inner ≠ Block.loop.keyword) :
      inner.countNewlines = inner.countNewlines + spilled inner := by
    rw [spilled_of_firstWord other, Nat.add_zero]
  have trimmed := unclosed.of_isInfix (isInfix_trim inner)
  cases expansion with
  | branch word => exact ⟨unclosed, kept (by rw [word]; decide)⟩
  | @loop target source word parts =>
    obtain ⟨front, back⟩ := infix_of_loopParts? parts
    refine ⟨unclosed_loopTag (trimmed.of_isInfix front) (trimmed.of_isInfix back) _ _, ?_⟩
    simp only [spilled, parts, loopTag, countNewlines_append, countNewlines_newlines,
      countNewlines_ofNat]
    have fixed : (" for " : Text).countNewlines = 0 ∧
        (" in _iterate(" : Text).countNewlines = 0 ∧ (", " : Text).countNewlines = 0 ∧
        (")" : Text).countNewlines = 0 ∧ (" " : Text).countNewlines = 0 := by decide
    omega
  | looseLoop word noParts =>
    refine ⟨unclosed, ?_⟩
    simp [spilled, noParts]
  | closer b word => exact ⟨unclosed, kept (by rw [word]; cases b <;> decide)⟩
  | @ended b outer bare innermost =>
    refine ⟨unclosed_closingTag b _, ?_⟩
    have word : firstWord inner = "end" := by
      rw [← firstWord_trim, bare]
      decide
    have fixed : (" " : Text).countNewlines = 0 ∧ b.closer.countNewlines = 0 := by
      cases b <;> decide
    rw [spilled_of_firstWord (by rw [word]; decide)]
    simp only [closingTag, countNewlines_append, countNewlines_newlines]
    omega
  | @custom index name payload word owner =>
    obtain ⟨-, tag, -, -, -, -, accepted⟩ := owner?_eq_some_iff.mp owner
    obtain ⟨front, back⟩ := infix_of_accepts? accepted
    refine ⟨unclosed_customTag (trimmed.of_isInfix front) (trimmed.of_isInfix back) _ _, ?_⟩
    have fixed : (" customtag " : Text).countNewlines = 0 ∧ (", " : Text).countNewlines = 0 ∧
        (" " : Text).countNewlines = 0 := by decide
    have other : firstWord inner ≠ Block.loop.keyword := by
      intro loop
      rw [loop] at word
      exact word (by decide)
    rw [spilled_of_firstWord other]
    simp only [customTag, countNewlines_append, countNewlines_newlines, countNewlines_ofNat,
      countNewlines_quoted]
    omega
  | other notIf notFor noCloser notEnd free => exact ⟨unclosed, kept notFor⟩

/-- Text and the tags of the template language itself, which no custom tag can take. -/
def isNative : Segment → Bool
  | .plain _ => true
  | .tag inner => keywords.contains (firstWord inner)

/-- A native tag is expanded whichever custom tags there are. -/
theorem tag_of_isNative (tags : List Tag) {inner : Text} (native : isNative (.tag inner) = true)
    (opened : List Block) (line : Nat) : tag tags opened line inner = tag [] opened line inner := by
  have word : (inner.trim.firstWord?.map Prod.fst).getD [] = firstWord inner := firstWord_trim inner
  rw [isNative] at native
  simp only [tag, word, native, if_true]

/-- So are native segments. -/
theorem segments_of_isNative (tags : List Tag) {segs : List Segment}
    (native : segs.all isNative = true) (opened : List Block) (line : Nat) :
    segments tags opened line segs = segments [] opened line segs := by
  induction segs generalizing opened line with
  | nil => rfl
  | cons s rest inductionHypothesis =>
    obtain ⟨first, others⟩ : isNative s = true ∧ rest.all isNative = true := by simpa using native
    have later (opened line) := inductionHypothesis others opened line
    cases s with
    | plain t => simp only [segments, later]
    | tag inner => simp only [segments, tag_of_isNative tags first, later]

/-- One tag can give the other when a template is expanded. -/
def Expands (tags : List Tag) (inner inner' : Text) : Prop :=
  ∃ opened line opened', tag tags opened line inner = .ok (inner', opened')

section

variable {tags : List Tag} {opened : List Block} {line : Nat} {rest segs' : List Segment}
  {flaw : SyntaxFlaw}

/-- Plain text is kept, and its lines are counted. -/
theorem segments_plain_eq_ok_iff {t : Text} :
    segments tags opened line (.plain t :: rest) = .ok segs' ↔
      ∃ rest', segments tags opened (line + t.countNewlines) rest = .ok rest' ∧
        segs' = .plain t :: rest' := by
  rw [segments, except_bind_ok]
  exact exists_congr fun rest' => and_congr_right fun _ =>
    ⟨fun is => (Except.ok.inj is).symm, fun is => is ▸ rfl⟩

/-- A tag is replaced, and the rest goes on with what it has left open. -/
theorem segments_tag_eq_ok_iff {inner : Text} :
    segments tags opened line (.tag inner :: rest) = .ok segs' ↔
      ∃ inner' opened' rest', tag tags opened line inner = .ok (inner', opened') ∧
        segments tags opened' (line + inner.countNewlines) rest = .ok rest' ∧
        segs' = .tag inner' :: rest' := by
  rw [segments, except_bind_ok]
  constructor
  · rintro ⟨⟨inner', opened'⟩, first, more⟩
    obtain ⟨rest', later, is⟩ := except_bind_ok.mp more
    cases is
    exact ⟨inner', opened', rest', first, later, rfl⟩
  · rintro ⟨inner', opened', rest', first, later, rfl⟩
    exact ⟨(inner', opened'), first, except_bind_ok.mpr ⟨rest', later, rfl⟩⟩

/-- Plain text is never refused. -/
theorem segments_plain_eq_error_iff {t : Text} :
    segments tags opened line (.plain t :: rest) = .error flaw ↔
      segments tags opened (line + t.countNewlines) rest = .error flaw := by
  rw [segments, except_bind_error]
  refine or_iff_left ?_
  rintro ⟨rest', -, no⟩
  cases no

/-- Behind a tag that is expanded, it is the rest that fails. -/
theorem segments_tag_eq_error_iff {inner inner' : Text} {opened' : List Block}
    (first : tag tags opened line inner = .ok (inner', opened')) :
    segments tags opened line (.tag inner :: rest) = .error flaw ↔
      segments tags opened' (line + inner.countNewlines) rest = .error flaw := by
  rw [segments, first]
  show (segments tags opened' (line + inner.countNewlines) rest >>= fun rest' =>
    .ok (.tag inner' :: rest')) = .error flaw ↔ _
  rw [except_bind_error]
  refine or_iff_left ?_
  rintro ⟨rest', -, no⟩
  cases no

/-- A tag that is refused ends the expansion. -/
theorem segments_tag_of_error {inner : Text} {why : SyntaxFlaw}
    (first : tag tags opened line inner = .error why) :
    segments tags opened line (.tag inner :: rest) = .error why := by
  rw [segments, first]
  rfl

end

/-- Segment by segment, plain text is kept and tags are replaced. -/
theorem replaces_of_segments {tags : List Tag} {opened : List Block} {line : Nat}
    {segs segs' : List Segment} (expanded : segments tags opened line segs = .ok segs') :
    List.Forall₂ (Segment.Replaces (Expands tags)) segs segs' := by
  induction segs generalizing opened line segs' with
  | nil =>
    cases expanded
    exact .nil
  | cons s rest inductionHypothesis =>
    cases s with
    | plain t =>
      obtain ⟨rest', later, rfl⟩ := segments_plain_eq_ok_iff.mp expanded
      exact .cons (.plain t) (inductionHypothesis later)
    | tag inner =>
      obtain ⟨inner', opened', rest', first, later, rfl⟩ := segments_tag_eq_ok_iff.mp expanded
      exact .cons (.tag ⟨opened, line, opened', first⟩) (inductionHypothesis later)

/-- The expanded tags of a template, each without a closing mark inside and with its newlines. -/
theorem expanded_of_segments {tags : List Tag} {template : Text} {opened : List Block} {line : Nat}
    {segs' : List Segment}
    (expanded : segments tags opened line (Segment.cut template) = .ok segs') :
    List.Forall₂ (Segment.Replaces fun inner inner' => Unclosed inner' ∧
      inner'.countNewlines = inner.countNewlines + spilled inner) (Segment.cut template) segs' := by
  have unclosed : ∀ s ∈ Segment.cut template, ∀ inner, s = .tag inner → Unclosed inner := by
    rintro s among inner rfl
    exact Segment.unclosed_of_mem_cut among
  refine ((List.forall₂_and_left _ _).mpr ⟨unclosed, replaces_of_segments expanded⟩).imp ?_
  rintro s s' ⟨unclosed, replaces⟩
  cases replaces with
  | plain t => exact .plain t
  | tag expands =>
    obtain ⟨opened, line, opened', becomes⟩ := expands
    exact .tag (expanded_tag (unclosed _ rfl) becomes)

end Expansion

/-- An expanded template is cut into the expanded tags and the text that stood around them. -/
theorem expand_of_segments {tags : List Tag} {template : Text} {segs' : List Segment}
    (expanded : Expansion.segments tags [] 1 (Segment.cut template) = .ok segs') :
    expand tags template = .ok (Segment.join segs') ∧
      Segment.cut (Segment.join segs') = segs' := by
  have redone := (Expansion.expanded_of_segments expanded).imp fun s s' replaces =>
    replaces.mono fun inner inner' both => both.1
  exact ⟨except_bind_ok.mpr ⟨segs', expanded, rfl⟩, Segment.cut_join_of_redone redone⟩

/-- A template without custom tags is expanded in the same way whichever custom tags there are. -/
theorem expand_of_isNative (tags : List Tag) {template : Text}
    (native : (Segment.cut template).all Expansion.isNative = true) :
    expand tags template = expand [] template := by
  simp only [expand, Expansion.segments_of_isNative tags native]

/-- Expanding a template is expanding its segments. -/
theorem expand_eq_ok_iff {tags : List Tag} {template out : Text} :
    expand tags template = .ok out ↔
      Expansion.segments tags [] 1 (Segment.cut template) = .ok (Segment.cut out) := by
  constructor
  · intro done
    obtain ⟨segs', expanded, joined⟩ := except_bind_ok.mp done
    cases joined
    rw [(expand_of_segments expanded).2, expanded]
  · intro expanded
    rw [(expand_of_segments expanded).1, Segment.join_cut]

end HaxeBuild.Template
