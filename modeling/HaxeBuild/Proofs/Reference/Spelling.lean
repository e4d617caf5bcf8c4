import Mathlib.Data.List.Forall2
import HaxeBuild.Reference.Descriptor
import HaxeBuild.Proofs.Text.Pieces

namespace HaxeBuild

namespace Code

/-- The numbers of all blanks. -/
def blankNumbers : List Nat :=
  List.range' 9 5 ++ List.range' 28 5 ++ [0x85, 0xA0, 0x1680] ++ List.range' 0x2000 11 ++
    [0x2028, 0x2029, 0x202F, 0x205F, 0x3000]

theorem val_mem_blankNumbers {c : Code} (blank : c.isBlank = true) : c.val ∈ blankNumbers := by
  simp only [isBlank, Bool.or_eq_true, Bool.and_eq_true, decide_eq_true_eq, beq_iff_eq] at blank
  simp only [blankNumbers, List.mem_append, List.mem_range'_1, List.mem_cons, List.not_mem_nil]
  omega

theorem upper_of_unmapped {c : Code}
    (unmapped : Text.CaseTable.map? Text.CaseTable.upper Text.CaseTable.upperMany c.val = none) :
    c.upper = [c] := by
  rw [upper, mapped, unmapped]

theorem upper_of_blank {c : Code} (blank : c.isBlank = true) : c.upper = [c] := by
  have unmapped : ∀ n ∈ blankNumbers,
      Text.CaseTable.map? Text.CaseTable.upper Text.CaseTable.upperMany n = none := by
    decide +kernel
  exact upper_of_unmapped (unmapped c.val (val_mem_blankNumbers blank))

end Code

namespace Text

/-- The text with blanks around it. -/
def IsPadded (t padded : Text) : Prop :=
  ∃ front back, AllBlank front ∧ AllBlank back ∧ padded = front ++ t ++ back

theorem isPadded_trim (t : Text) : IsPadded t.trim t := exists_trim t

theorem IsPadded.trim_eq {t padded : Text} (isPadded : IsPadded t padded) :
    padded.trim = t.trim := by
  obtain ⟨front, back, before, after, rfl⟩ := isPadded
  rw [List.append_assoc, trim_blank_append before, trim_append_blank after]

theorem IsPadded.notMem {t padded : Text} (isPadded : IsPadded t padded) {c : Code}
    (solid : c.isBlank = false) (absent : c ∉ t) : c ∉ padded := by
  obtain ⟨front, back, before, after, rfl⟩ := isPadded
  exact List.not_mem_append
    (List.not_mem_append (notMem_of_blank solid before) absent) (notMem_of_blank solid after)

theorem mem_upper_of_blank {t : Text} {c : Code} (blank : c.isBlank = true) (among : c ∈ t) :
    c ∈ t.upper := by
  have itself : c ∈ c.upper := Code.upper_of_blank blank ▸ List.mem_singleton_self c
  exact List.mem_flatMap.mpr ⟨c, among, itself⟩

end Text

namespace ReferenceKind

theorem tokens_solid : ∀ entry ∈ tokens, Text.NoBlank entry.1 ∧ Code.char ':' ∉ entry.1 := by
  decide

theorem lookup_tokens {word : Text} {kind : ReferenceKind} :
    tokens.lookup word = some kind ↔ (word, kind) ∈ tokens := by
  constructor
  · intro found
    obtain ⟨front, back, is, -⟩ := List.lookup_eq_some_iff.mp found
    rw [is]
    exact List.mem_append_right _ List.mem_cons_self
  · have listed : ∀ entry ∈ tokens, tokens.lookup entry.1 = some entry.2 := by decide
    exact listed (word, kind)

/-- A word for a kind has no blanks and no colons. -/
theorem solid_of_known {word : Text} {kind : ReferenceKind}
    (known : (word.upper, kind) ∈ tokens) : Text.NoBlank word ∧ Code.char ':' ∉ word := by
  have ⟨solid, noColon⟩ := tokens_solid _ known
  constructor
  · intro c among
    by_contra blank
    have kept := Text.mem_upper_of_blank (by simpa using blank) among
    exact blank (solid c kept)
  · intro among
    refine noColon (List.mem_flatMap.mpr ⟨_, among, ?_⟩)
    rw [Code.upper_of_unmapped (by decide +kernel)]
    exact List.mem_singleton_self _

end ReferenceKind

namespace ReferenceDescriptor

/-- What may stand as a part: a text that is not empty and has neither colons nor outer blanks. -/
structure IsPart (part : Text) : Prop where
  present : part ≠ []
  noColon : Code.char ':' ∉ part
  trimmed : part.trim = part

/-- A written reference is a word for its kind and as many parts as the kind takes, with colons
between them and any blanks around each. -/
inductive Spells : Text → ReferenceKind → List Text → Prop where
  | intro {kind : ReferenceKind} {word token : Text} {parts padded : List Text}
    (known : (word.upper, kind) ∈ ReferenceKind.tokens) (isWord : word.IsPadded token)
    (counted : parts.length ∈ kind.partCounts) (areParts : ∀ part ∈ parts, IsPart part)
    (arePadded : List.Forall₂ Text.IsPadded parts padded) :
    Spells (Text.join ":" (token :: padded)) kind parts

/-- What a text can be read as: a word for a kind and as many parts as the kind takes, which stand in
the text with colons between them and any blanks around each. -/
structure IsReading (text word : Text) (kind : ReferenceKind) (parts : List Text) : Prop where
  known : (word.upper, kind) ∈ ReferenceKind.tokens
  counted : parts.length ∈ kind.partCounts
  areParts : ∀ part ∈ parts, IsPart part
  written : ∃ padded, List.Forall₂ Text.IsPadded (word :: parts) padded ∧
    text = Text.join ":" padded

/-- The trimmed pieces of a text between its colons. -/
def pieces (text : Text) : List Text := (Text.splitOn (.char ':') text).map Text.trim

/-- Reads a word and parts. -/
def readPieces (text : Text) : List Text → Except MalformedDescriptor ReferenceDescriptor
  | word :: part :: parts =>
    match ReferenceKind.tokens.lookup word.upper with
    | none => .error ⟨text, .unknownKind word⟩
    | some kind =>
      if !kind.partCounts.contains (part :: parts).length then
        .error ⟨text, .wrongCount kind (part :: parts).length⟩
      else if (part :: parts).contains [] then .error ⟨text, .emptyPart⟩
      else .ok (ofPartList kind (part :: parts) text)
  | _ => .error ⟨text, .missingColon⟩

theorem partsOf_eq_pieces (payload : Text) : partsOf payload = pieces payload :=
  Text.map_trim_splitOn_trim (by decide) payload

/-- Only the trimmed pieces of a text matter for what is read. -/
theorem parse_eq_readPieces (text : Text) : parse text = readPieces text.trim (pieces text) := by
  -- The text, its word and its payload are trimmed in turn; trimming the pieces does all of it.
  have trimmed : pieces text.trim = pieces text := Text.map_trim_splitOn_trim (by decide) text
  have cut := Text.cut?_eq_of_splitOn (.char ':') text.trim
  have clean : ∀ piece ∈ Text.splitOn (.char ':') text.trim, Code.char ':' ∉ piece :=
    fun piece => Text.notMem_of_mem_splitOn
  have mark : (":" : Text) = [.char ':'] := rfl
  rw [← trimmed, pieces, parse, mark, cut]
  cases split : Text.splitOn (.char ':') text.trim with
  | nil => rfl
  | cons token padded =>
    cases padded with
    | nil => rfl
    | cons first more =>
      have payload : pieces (Text.join [.char ':'] (first :: more)) =
          (first :: more).map Text.trim := by
        rw [pieces, Text.splitOn_join (List.cons_ne_nil _ _)]
        intro piece among
        exact clean piece (split ▸ List.mem_cons_of_mem _ among)
      dsimp only
      rw [ofParts, partsOf_eq_pieces, payload]
      rfl

theorem pieces_of_padded {parts padded : List Text} (areParts : ∀ part ∈ parts, IsPart part)
    (arePadded : List.Forall₂ Text.IsPadded parts padded) :
    padded.map Text.trim = parts ∧ ∀ piece ∈ padded, Code.char ':' ∉ piece := by
  induction arePadded with
  | nil => exact ⟨rfl, List.forall_mem_nil _⟩
  | cons isPadded _ inductionHypothesis =>
    have ⟨isPart, later⟩ := List.forall_mem_cons.mp areParts
    obtain ⟨trimmed, clean⟩ := inductionHypothesis later
    refine ⟨?_, List.forall_mem_cons.mpr ⟨isPadded.notMem (by decide) isPart.noColon, clean⟩⟩
    rw [List.map_cons, trimmed, isPadded.trim_eq, isPart.trimmed]

/-- A text is read as the word and the parts that it has between its colons, if these are parts for
the word. -/
theorem isReading_iff {text word : Text} {kind : ReferenceKind} {parts : List Text} :
    IsReading text word kind parts ↔ pieces text = word :: parts ∧
      (word.upper, kind) ∈ ReferenceKind.tokens ∧ parts.length ∈ kind.partCounts ∧ [] ∉ parts := by
  constructor
  · rintro ⟨known, counted, areParts, _, written, rfl⟩
    cases written with
    | @cons _ token _ padded isWord arePadded =>
      have ⟨solid, noColon⟩ := ReferenceKind.solid_of_known known
      have ⟨trimmed, clean⟩ := pieces_of_padded areParts arePadded
      have split : Text.splitOn (.char ':') (Text.join ":" (token :: padded)) =
          token :: padded :=
        Text.splitOn_join (List.cons_ne_nil token padded)
          (List.forall_mem_cons.mpr ⟨isWord.notMem (by decide) noColon, clean⟩)
      refine ⟨?_, known, counted, fun empty => (areParts [] empty).present rfl⟩
      change (Text.splitOn _ (Text.join ":" _)).map _ = _
      rw [split, List.map_cons, trimmed, isWord.trim_eq, Text.trim_of_noBlank solid]
  · rintro ⟨is, known, counted, present⟩
    cases split : Text.splitOn (.char ':') text with
    | nil => exact absurd split (Text.splitOn_ne_nil _ text)
    | cons token padded =>
      rw [pieces, split] at is
      cases is
      have areParts : ∀ part ∈ padded.map Text.trim, IsPart part := by
        intro part isPart
        obtain ⟨piece, among, rfl⟩ := List.mem_map.mp isPart
        have noColon := Text.notMem_of_mem_splitOn (split ▸ List.mem_cons_of_mem token among)
        exact ⟨fun empty => present (empty ▸ isPart),
          fun colon => noColon ((Text.isInfix_trim piece).subset colon), Text.trim_trim piece⟩
      have arePadded : List.Forall₂ Text.IsPadded (padded.map Text.trim) padded :=
        List.forall₂_map_left_iff.mpr
          (List.forall₂_same.mpr fun piece _ => Text.isPadded_trim piece)
      have whole := Text.join_splitOn (.char ':') text
      rw [split] at whole
      exact ⟨known, counted, areParts, ⟨_, .cons (Text.isPadded_trim token) arePadded, whole.symm⟩⟩

theorem spells_iff_exists_isReading {text : Text} {kind : ReferenceKind} {parts : List Text} :
    Spells text kind parts ↔ ∃ word, IsReading text word kind parts := by
  constructor
  · rintro ⟨known, isWord, counted, areParts, arePadded⟩
    exact ⟨_, known, counted, areParts, _, .cons isWord arePadded, rfl⟩
  · rintro ⟨word, known, counted, areParts, _, written, rfl⟩
    cases written with
    | cons isWord arePadded => exact .intro known isWord counted areParts arePadded

/-- A text spells the parts that it has between its colons, if these are parts for its word. -/
theorem spells_iff {text : Text} {kind : ReferenceKind} {parts : List Text} :
    Spells text kind parts ↔ ∃ word, pieces text = word :: parts ∧
      (word.upper, kind) ∈ ReferenceKind.tokens ∧ parts.length ∈ kind.partCounts ∧ [] ∉ parts := by
  simp only [spells_iff_exists_isReading, isReading_iff]

/-- A further part may be written behind a colon if the kind takes it. -/
theorem Spells.append {text : Text} {kind : ReferenceKind} {parts : List Text}
    (spells : Spells text kind parts) {part : Text} (isPart : IsPart part)
    (counted : parts.length + 1 ∈ kind.partCounts) :
    Spells (text ++ ":" ++ part) kind (parts ++ [part]) := by
  obtain ⟨word, is, known, -, present⟩ := spells_iff.mp spells
  refine spells_iff.mpr ⟨word, ?_, known, by simpa using counted, ?_⟩
  · have split := Text.splitOn_append_mark (.char ':') text part
    rw [pieces, List.append_assoc]
    change (Text.splitOn _ (text ++ .char ':' :: part)).map _ = _
    rw [split, List.map_append, Text.splitOn_of_notMem isPart.noColon, List.map_singleton,
      isPart.trimmed, ← pieces, is, List.cons_append]
  · rw [List.mem_append, List.mem_singleton, not_or]
    exact ⟨present, fun empty => isPart.present empty.symm⟩

theorem parse_of_spells {text : Text} {kind : ReferenceKind} {parts : List Text}
    (spells : Spells text kind parts) : parse text = .ok (ofPartList kind parts text.trim) := by
  obtain ⟨word, is, known, counted, present⟩ := spells_iff.mp spells
  cases parts with
  | nil => cases kind <;> simp [ReferenceKind.partCounts] at counted
  | cons part parts =>
    rw [parse_eq_readPieces, is]
    simp only [readPieces, ReferenceKind.lookup_tokens.mpr known]
    rw [if_neg (by simpa using counted), if_neg (by simpa using present)]

end ReferenceDescriptor

end HaxeBuild
