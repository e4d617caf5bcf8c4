import HaxeBuild.Proofs.Reference.Spelling

namespace HaxeBuild

open ReferenceKind

theorem ReferenceKind.lookup_tokens_eq_none {word : Text} :
    tokens.lookup word = none ↔ ∀ kind, (word, kind) ∉ tokens := by
  simp only [Option.eq_none_iff_forall_ne_some, ne_eq, lookup_tokens]

namespace ReferenceDescriptor

/-! ### What a descriptor is written with -/

/-- The parts that a descriptor is written with. The member of a constructor is not written. -/
def parts (d : ReferenceDescriptor) : List Text :=
  match d.kind with
  | .constructor => d.owner :: d.signature.toList
  | _ => d.owner :: (d.member.toList ++ d.signature.toList)

/-- Nothing has a signature without being a member, and all constructors have one name. -/
structure IsFormed (d : ReferenceDescriptor) : Prop where
  signature : d.member = none → d.signature = none
  constructor : d.kind = .constructor → d.member = some constructorName

section

variable {kind : ReferenceKind} {ps : List Text}

/-- References have at most three parts. -/
theorem exists_of_counted (counted : ps.length ∈ kind.partCounts) :
    (∃ owner, ps = [owner]) ∨ (∃ owner second, ps = [owner, second]) ∨
      ∃ owner second third, ps = [owner, second, third] := by
  have few : ps.length = 1 ∨ ps.length = 2 ∨ ps.length = 3 := by
    cases kind <;> simp [partCounts] at counted <;> omega
  simpa only [List.length_eq_one_iff, List.length_eq_two, List.length_eq_three] using few

theorem parts_ofPartList (counted : ps.length ∈ kind.partCounts) (text : Text) :
    (ofPartList kind ps text).parts = ps := by
  rcases exists_of_counted counted with ⟨owner, rfl⟩ | ⟨owner, second, rfl⟩ |
    ⟨owner, second, third, rfl⟩ <;> cases kind <;>
      simp_all [ofPartList, parts, partCounts]

theorem isFormed_ofPartList (counted : ps.length ∈ kind.partCounts) (text : Text) :
    (ofPartList kind ps text).IsFormed := by
  rcases exists_of_counted counted with ⟨owner, rfl⟩ | ⟨owner, second, rfl⟩ |
    ⟨owner, second, third, rfl⟩ <;> cases kind <;> constructor <;> simp [ofPartList]

@[simp] theorem kind_ofPartList (kind : ReferenceKind) (ps : List Text) (text : Text) :
    (ofPartList kind ps text).kind = kind := by
  cases kind <;> rfl

@[simp] theorem text_ofPartList (kind : ReferenceKind) (ps : List Text) (text : Text) :
    (ofPartList kind ps text).text = text := by
  cases kind <;> rfl

end

/-- A descriptor is put together again from its parts. -/
theorem ofPartList_parts {d : ReferenceDescriptor} (formed : d.IsFormed)
    (counted : d.parts.length ∈ d.kind.partCounts) (text : Text) :
    ofPartList d.kind d.parts text = { d with text := text } := by
  obtain ⟨kind, owner, member, signature, _⟩ := d
  obtain ⟨unsigned, named⟩ := formed
  cases kind <;> cases member <;> cases signature <;>
    simp_all [ofPartList, parts, partCounts]

/-! ### What can be wrong with a text -/

/-- The text is made of the pieces, with colons between them and none inside. -/
structure ConsistsOf (text : Text) (ps : List Text) : Prop where
  joined : text = Text.join ":" ps
  clean : ∀ piece ∈ ps, Code.char ':' ∉ piece

theorem consistsOf_splitOn (text : Text) : ConsistsOf text (Text.splitOn (.char ':') text) :=
  ⟨(Text.join_splitOn _ text).symm, fun _ => Text.notMem_of_mem_splitOn⟩

theorem ConsistsOf.pieces_eq {text first : Text} {more : List Text}
    (consists : ConsistsOf text (first :: more)) :
    pieces text = first.trim :: more.map Text.trim := by
  have split : Text.splitOn (.char ':') text = first :: more := by
    rw [consists.joined]
    exact Text.splitOn_join (List.cons_ne_nil first more) consists.clean
  rw [pieces, split, List.map_cons]

/-- What is wrong with a text, the first thing that applies: it has no colon; what is before the
first colon is no word for a kind; the kind does not take as many parts; a part is blank. -/
inductive Flawed (text : Text) : DescriptorFlaw → Prop where
  | missingColon (absent : Code.char ':' ∉ text) : Flawed text .missingColon
  | unknownKind {token first : Text} {more : List Text}
    (consists : ConsistsOf text (token :: first :: more))
    (unknown : ∀ kind, (token.trim.upper, kind) ∉ tokens) : Flawed text (.unknownKind token.trim)
  | wrongCount {token first : Text} {more : List Text} {kind : ReferenceKind}
    (consists : ConsistsOf text (token :: first :: more))
    (known : (token.trim.upper, kind) ∈ tokens)
    (miscounted : (first :: more).length ∉ kind.partCounts) :
    Flawed text (.wrongCount kind (first :: more).length)
  | emptyPart {token first : Text} {more : List Text} {kind : ReferenceKind}
    (consists : ConsistsOf text (token :: first :: more))
    (known : (token.trim.upper, kind) ∈ tokens)
    (counted : (first :: more).length ∈ kind.partCounts)
    (blank : ∃ part ∈ first :: more, part.AllBlank) : Flawed text .emptyPart

theorem nil_mem_map_trim {ps : List Text} :
    [] ∈ ps.map Text.trim ↔ ∃ part ∈ ps, part.AllBlank := by
  simp only [List.mem_map, Text.trim_eq_nil_iff]

/-- Every text can be read or has a flaw. -/
theorem isReading_or_flawed (text : Text) :
    (∃ word kind ps, IsReading text word kind ps) ∨ ∃ flaw, Flawed text flaw := by
  have consists := consistsOf_splitOn text
  match split : Text.splitOn (.char ':') text with
  | [] => exact absurd split (Text.splitOn_ne_nil _ text)
  | [whole] =>
    rw [split] at consists
    refine .inr ⟨_, .missingColon ?_⟩
    rw [consists.joined, Text.join_singleton]
    exact consists.clean whole List.mem_cons_self
  | token :: first :: more =>
    rw [split] at consists
    by_cases known : ∃ kind, (token.trim.upper, kind) ∈ tokens
    · obtain ⟨kind, known⟩ := known
      by_cases counted : (first :: more).length ∈ kind.partCounts
      · by_cases blank : ∃ part ∈ first :: more, part.AllBlank
        · exact .inr ⟨_, .emptyPart consists known counted blank⟩
        · refine .inl ⟨token.trim, kind, _, isReading_iff.mpr ⟨consists.pieces_eq, known, ?_, ?_⟩⟩
          · simpa using counted
          · exact mt nil_mem_map_trim.mp blank
      · exact .inr ⟨_, .wrongCount consists known counted⟩
    · exact .inr ⟨_, .unknownKind consists (not_exists.mp known)⟩

/-- A text with a flaw is refused for it. -/
theorem parse_of_flawed {text : Text} {flaw : DescriptorFlaw} (flawed : Flawed text flaw) :
    parse text = .error ⟨text.trim, flaw⟩ := by
  rw [parse_eq_readPieces]
  cases flawed with
  | missingColon absent =>
    rw [pieces, Text.splitOn_of_notMem absent]
    rfl
  | unknownKind consists unknown =>
    rw [consists.pieces_eq, List.map_cons, readPieces, lookup_tokens_eq_none.mpr unknown]
  | wrongCount consists known miscounted =>
    rw [consists.pieces_eq, List.map_cons, readPieces, lookup_tokens.mpr known]
    dsimp only
    rw [← List.map_cons, List.length_map, if_pos (by simpa using miscounted)]
  | emptyPart consists known counted blank =>
    rw [consists.pieces_eq, List.map_cons, readPieces, lookup_tokens.mpr known]
    dsimp only
    rw [← List.map_cons, List.length_map, if_neg (by simpa using counted),
      if_pos (by simpa using nil_mem_map_trim.mpr blank)]

/-- A text that spells no reference is refused, and the error has the trimmed text. -/
theorem parse_of_not_spells {text : Text} (none : ∀ kind parts, ¬ Spells text kind parts) :
    ∃ flaw, parse text = .error ⟨text.trim, flaw⟩ := by
  rcases isReading_or_flawed text with ⟨word, kind, ps, reading⟩ | ⟨flaw, flawed⟩
  · exact absurd (spells_iff_exists_isReading.mpr ⟨word, reading⟩) (none kind ps)
  · exact ⟨flaw, parse_of_flawed flawed⟩

/-! ### What a text is read as -/

theorem IsReading.parse_eq {text word : Text} {kind : ReferenceKind} {ps : List Text}
    (reading : IsReading text word kind ps) : parse text = .ok (ofPartList kind ps text.trim) :=
  parse_of_spells (spells_iff_exists_isReading.mpr ⟨word, reading⟩)

/-- A text can be read in one way only. -/
theorem IsReading.unique {text word word' : Text} {kind kind' : ReferenceKind}
    {ps ps' : List Text} (reading : IsReading text word kind ps)
    (other : IsReading text word' kind' ps') : word' = word ∧ kind' = kind ∧ ps' = ps := by
  obtain ⟨is, known, -⟩ := isReading_iff.mp reading
  obtain ⟨is', known', -⟩ := isReading_iff.mp other
  rw [is] at is'
  obtain ⟨rfl, rfl⟩ := List.cons.inj is'
  have same := (lookup_tokens.mpr known').symm.trans (lookup_tokens.mpr known)
  exact ⟨rfl, Option.some.inj same, rfl⟩

/-- A text is read as the descriptor that is written with its parts. -/
theorem parse_eq_ok_iff {text : Text} {d : ReferenceDescriptor} :
    parse text = .ok d ↔
      (∃ word, IsReading text word d.kind d.parts) ∧ d.IsFormed ∧ d.text = text.trim := by
  constructor
  · intro read
    rcases isReading_or_flawed text with ⟨word, kind, ps, reading⟩ | ⟨flaw, flawed⟩
    · rw [reading.parse_eq] at read
      cases read
      rw [kind_ofPartList, parts_ofPartList reading.counted]
      exact ⟨⟨word, reading⟩, isFormed_ofPartList reading.counted _, text_ofPartList ..⟩
    · rw [parse_of_flawed flawed] at read
      cases read
  · rintro ⟨⟨word, reading⟩, formed, is⟩
    rw [reading.parse_eq, ofPartList_parts formed reading.counted, ← is]

theorem parse_eq_error_iff {text : Text} {m : MalformedDescriptor} :
    parse text = .error m ↔ m.text = text.trim ∧ Flawed text m.flaw := by
  constructor
  · intro refused
    rcases isReading_or_flawed text with ⟨word, kind, ps, reading⟩ | ⟨flaw, flawed⟩
    · rw [reading.parse_eq] at refused
      cases refused
    · rw [parse_of_flawed flawed] at refused
      cases refused
      exact ⟨rfl, flawed⟩
  · rintro ⟨is, flawed⟩
    rw [parse_of_flawed flawed, ← is]

/-- The parts of a descriptor behind any word for its kind are read as the same descriptor. -/
theorem parse_join {text : Text} {d : ReferenceDescriptor} (read : parse text = .ok d)
    {word : Text} (known : (word.upper, d.kind) ∈ tokens) :
    parse (Text.join ":" (word :: d.parts)) =
      .ok { d with text := (Text.join ":" (word :: d.parts)).trim } := by
  obtain ⟨⟨_, reading⟩, formed, -⟩ := parse_eq_ok_iff.mp read
  have bare (t : Text) : t.IsPadded t := ⟨[], [], by simp [Text.AllBlank]⟩
  have again : IsReading (Text.join ":" (word :: d.parts)) word d.kind d.parts :=
    ⟨known, reading.counted, reading.areParts, _, List.forall₂_same.mpr fun t _ => bare t, rfl⟩
  rw [again.parse_eq, ofPartList_parts formed reading.counted]

/-- Exactly the written references are read, each in the one way in which it can be; the parts of
what was read can be written behind any word for its kind. Every other text is refused with the
first of its flaws. -/
theorem parse_exact (text : Text) :
    ((∃ d, parse text = .ok d) ↔ ∃ word kind ps, IsReading text word kind ps) ∧
    (∀ word kind ps word' kind' ps', IsReading text word kind ps →
      IsReading text word' kind' ps' → word' = word ∧ kind' = kind ∧ ps' = ps) ∧
    (∀ d, parse text = .ok d ↔
      (∃ word, IsReading text word d.kind d.parts) ∧ d.IsFormed ∧ d.text = text.trim) ∧
    (∀ d, parse text = .ok d → ∀ word, (word.upper, d.kind) ∈ tokens →
      parse (Text.join ":" (word :: d.parts)) =
        .ok { d with text := (Text.join ":" (word :: d.parts)).trim }) ∧
    ∀ m, parse text = .error m ↔ m.text = text.trim ∧ Flawed text m.flaw := by
  refine ⟨?_, fun _ _ _ _ _ _ => IsReading.unique, fun d => parse_eq_ok_iff,
    fun d read word => parse_join read, fun m => parse_eq_error_iff⟩
  constructor
  · rintro ⟨d, read⟩
    obtain ⟨⟨word, reading⟩, -⟩ := parse_eq_ok_iff.mp read
    exact ⟨word, _, _, reading⟩
  · rintro ⟨word, kind, ps, reading⟩
    exact ⟨_, reading.parse_eq⟩

/-- A reference with blanks everywhere, and a text with too many parts, one of them blank. -/
theorem parse_exact_padded :
    let padded : Text := "\tMethod : app.Main:add :\n(II)I "
    let d : ReferenceDescriptor := ⟨.instanceMethod, "app.Main", some "add", some "(II)I",
      "Method : app.Main:add :\n(II)I"⟩
    let written : Text := "instanceMethod:app.Main:add:(II)I"
    (parse padded = .ok d ∧ IsReading padded "Method" .instanceMethod ["app.Main", "add", "(II)I"]) ∧
      parse written = .ok { d with text := written } ∧
      parse " CLASS: :x" = .error ⟨"CLASS: :x", .wrongCount .classRef 2⟩ := by
  intro padded d written
  obtain ⟨-, -, exactly, again, -⟩ := parse_exact padded
  obtain ⟨-, -, -, -, refused⟩ := parse_exact " CLASS: :x"
  have reading : IsReading padded "Method" .instanceMethod ["app.Main", "add", "(II)I"] :=
    isReading_iff.mpr (by decide +kernel)
  have read : parse padded = .ok d :=
    (exactly d).mpr ⟨⟨_, reading⟩, ⟨nofun, nofun⟩, by decide⟩
  have consists : ConsistsOf " CLASS: :x" [" CLASS", " ", "x"] := ⟨by decide, by decide⟩
  refine ⟨⟨read, reading⟩, again d read "instanceMethod" (by decide +kernel), ?_⟩
  exact (refused _).mpr ⟨by decide, .wrongCount consists (by decide +kernel) (by decide)⟩

end ReferenceDescriptor

end HaxeBuild
