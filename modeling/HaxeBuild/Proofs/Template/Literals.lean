import HaxeBuild.Proofs.Template.Untouched

namespace HaxeBuild.Template

open Text Effect Render

open Expansion hiding tag

/-- An interpolation of a string literal. -/
def literal (s : Text) : Text := Mark.value (" \"" ++ s ++ "\" ")

/-- Only what stands in a literal is expanded. -/
theorem expand_literal (tags : List Tag) (s : Text) :
    expand tags (literal s) = (expand tags s).map literal := by
  let front : Text := "\x7b\x7b \""
  let back : Text := "\" \x7d\x7d"
  have spelled (t : Text) : literal t = front ++ (t ++ back) := by
    simp [front, back, literal, Mark.value, Mark.valueOpen, Mark.valueClose, ofString]
  have before : expandFrom tags [] 1 (front ++ (s ++ back)) =
      (expandFrom tags [] 1 (s ++ back)).map (front ++ ·) :=
    expandFrom_prepend (by decide) (by decide) _
  have behind : expandFrom tags [] 1 (s ++ back) = (expandFrom tags [] 1 s).map (· ++ back) :=
    expandFrom_append (by decide) (by decide) s
  rw [expand_eq_expandFrom, expand_eq_expandFrom, spelled, before, behind]
  cases expandFrom tags [] 1 s with
  | error e => rfl
  | ok out => exact congrArg Except.ok (spelled out).symm

/-! ### Tokens -/

namespace Lexer

theorem unescape_escapedBody {t : Text} (noBackslash : Code.char '\\' ∉ t) :
    Text.unescape (escapedBody t) = .ok t := by
  rw [Text.unescape]
  induction t with
  | nil => rfl
  | cons c t inductionHypothesis =>
    rw [List.mem_cons, not_or] at noBackslash
    have later := inductionHypothesis noBackslash.2
    rw [escapedBody, List.flatMap_cons]
    split
    · have plain : (c == .char '\\') = false := beq_false_of_ne (Ne.symm noBackslash.1)
      rw [escapedBody] at later
      rw [List.singleton_append, unescapeFrom, plain, later]
      rfl
    · exact unescapeFrom_numericEscape c later

theorem tagEnd?_variable {c : Code} (noBrace : c ≠ .char '\x7d') (noDash : c ≠ .char '-')
    (rest : Text) : tagEnd? .variable (c :: rest) = none := by
  simp [tagEnd?, close?, Mark.valueClose, ofString, startsWith, noBrace.symm, noDash.symm]

theorem piece_quotable {t : Text} (quotable : Quotable t) (afterDot : Bool) (offset : Nat)
    (rest : Text) :
    piece afterDot offset (.char '"' :: (t ++ [.char '"']) ++ rest) =
      .token (.char '"' :: (t ++ [.char '"'])) (.string t) := by
  have body : stringBody? (.char '"') (t ++ .char '"' :: rest) = some t := by
    rw [stringBody?_solid fun c among => ⟨(quotable c among).1, (quotable c among).2.1⟩,
      stringBody?_close (by decide), Option.map_some, List.append_nil]
  have resolved := unescape_escapedBody quotable.noBackslash
  have string := piece_of_string body resolved afterDot offset
  have split : .char '"' :: (t ++ [.char '"']) ++ rest = .char '"' :: (t ++ .char '"' :: rest) := by
    simp
  have size : (.char '"' :: (t ++ [.char '"'])).length = t.length + 2 := by simp
  rw [split, string, ← split, List.take_left' size]

/-- An interpolation that begins with a string. -/
theorem read_interpolation {t : Text} (quotable : Quotable t) (steps : Nat) (rest : Text) :
    read (steps + 3) .text
        ⟨("\x7b\x7b " : Text) ++ (.char '"' :: (t ++ [.char '"']) ++ rest), 0, 1⟩ =
      ((read steps (.inside .variable [] false)
        ⟨rest, t.length + 5, 1 + t.countNewlines⟩).prepend ⟨1, .string t⟩).prepend
          ⟨1, .variableBegin⟩ := by
  let string : Text := .char '"' :: (t ++ [.char '"'])
  have opening (more : Text) : read (steps + 3) .text ⟨("\x7b\x7b " : Text) ++ more, 0, 1⟩ =
      (read (steps + 2) (.inside .variable [] false) ⟨[.char ' '] ++ more, 2, 1⟩).prepend
        ⟨1, .variableBegin⟩ := rfl
  have blank : read (steps + 2) (.inside .variable [] false)
        ⟨[.char ' '] ++ (string ++ rest), 2, 1⟩ =
      read (steps + 1) (.inside .variable [] false) ⟨string ++ rest, 3, 1⟩ :=
    read_blank [.char ' '] (steps + 1) 1 (tagEnd?_variable (by decide) (by decide) _) (by decide)
      (piece_blank (by decide) (by decide) (by rintro c ⟨⟩; rfl) _ _)
  have noEnd : tagEnd? .variable (string ++ rest) = none :=
    tagEnd?_variable (c := .char '"') (by decide) (by decide) _
  have token := read_token steps 1 noEnd (by simp [string]) (piece_quotable quotable false 3 rest)
    nofun
  have size : 3 + string.length = t.length + 5 := by
    simp [string]
    omega
  have count : string.countNewlines = t.countNewlines := by
    have quote : countNewlines [Code.char '"'] = 0 := rfl
    change countNewlines ([.char '"'] ++ (t ++ [.char '"'])) = _
    rw [countNewlines_append, countNewlines_append, quote, Nat.zero_add, Nat.add_zero]
  rw [size, count] at token
  rw [opening, blank, token]

/-- What is read behind the first string of an interpolation, with enough steps for it. -/
theorem exists_tokens_interpolation {t : Text} (quotable : Quotable t) (rest : Text) :
    ∃ steps, 2 * rest.unifyLineEnds.length + 2 ≤ steps ∧
      tokens (("\x7b\x7b " : Text) ++ (.char '"' :: (t ++ [.char '"']) ++ rest)) =
        ((read steps (.inside .variable [] false)
          ⟨rest.unifyLineEnds, t.length + 5, 1 + t.countNewlines⟩).prepend ⟨1, .string t⟩).prepend
            ⟨1, .variableBegin⟩ := by
  let front : Text := ("\x7b\x7b " : Text) ++ (.char '"' :: (t ++ [.char '"']))
  have noReturn : Code.char '\r' ∉ front := by simp [front, ofString, quotable.noReturn]
  have last : front.getLast? = some (.char '"') := by
    have split : front = (("\x7b\x7b \"" : Text) ++ t) ++ [.char '"'] := by simp [front, ofString]
    rw [split, List.getLast?_concat]
  have unified : Text.unifyLineEnds (front ++ rest) = front ++ rest.unifyLineEnds := by
    rw [unifyLineEnds_append, unifyLineEnds_eq_self_iff.mpr noReturn]
    rintro ⟨is, -⟩
    rw [last] at is
    cases is
  have size : front.length = t.length + 5 := by simp [front, ofString]
  refine ⟨2 * (t.length + rest.unifyLineEnds.length) + 9, by omega, ?_⟩
  have steps : 2 * (front ++ rest.unifyLineEnds).length + 2 =
      2 * (t.length + rest.unifyLineEnds.length) + 9 + 3 := by
    rw [List.length_append, size]
    omega
  rw [← List.append_assoc, tokens, unified, steps, ← read_interpolation quotable,
    ← List.append_assoc]

theorem tokens_literal {t : Text} (quotable : Quotable t) :
    tokens (literal t) =
      ⟨[⟨1, .variableBegin⟩, ⟨1, .string t⟩, ⟨1 + t.countNewlines, .variableEnd⟩], none⟩ := by
  have spelled : literal t =
      ("\x7b\x7b " : Text) ++ (.char '"' :: (t ++ [.char '"']) ++ (" \x7d\x7d" : Text)) := by
    simp [literal, Mark.value, Mark.valueOpen, Mark.valueClose, ofString]
  have unified : Text.unifyLineEnds " \x7d\x7d" = " \x7d\x7d" := by decide
  obtain ⟨steps, enough, is⟩ := exists_tokens_interpolation quotable " \x7d\x7d"
  obtain ⟨more, rfl⟩ := Nat.exists_eq_add_of_le' enough
  rw [spelled, is, unified]
  rfl

/-- The token with which the name of a reference tag begins when it is read as code. -/
def nameStart (name : Text) : Lexeme :=
  if name = Tag.Reference.sigil then .symbol .colon else .name name

theorem read_nameStart {name : Text} (known : name ∈ Tag.Reference.sigil :: Tag.Reference.aliases)
    (steps offset line : Nat) (rest : Text) :
    ∃ later : Tokens, read (steps + 1) (.inside .variable [] false)
      ⟨name ++ .char '"' :: rest, offset, line⟩ = later.prepend ⟨line, nameStart name⟩ := by
  rcases List.mem_cons.mp known with rfl | isAlias
  · exact ⟨_, rfl⟩
  · simp only [Tag.Reference.aliases, List.mem_cons, List.not_mem_nil, or_false] at isAlias
    rcases isAlias with rfl | rfl | rfl | rfl | rfl | rfl | rfl <;> exact ⟨_, rfl⟩

/-- A string that is broken off is followed by the name that broke it. -/
theorem exists_tokens_broken {front name : Text} (quotable : Quotable front)
    (known : name ∈ Tag.Reference.sigil :: Tag.Reference.aliases) (rest : Text) :
    ∃ line more flaw, tokens (literal (front ++ (name.quoted ++ rest))) =
      ⟨⟨1, .variableBegin⟩ :: ⟨1, .string front⟩ :: ⟨line, nameStart name⟩ :: more, flaw⟩ := by
  have plain : ∀ name ∈ Tag.Reference.sigil :: Tag.Reference.aliases,
      name.quoted = .char '"' :: (name ++ [.char '"']) ∧
        Code.char '\r' ∉ name ++ [.char '"'] := by decide
  obtain ⟨quoted, noReturn⟩ := plain name known
  let behind : Text := rest ++ ("\" \x7d\x7d" : Text)
  have spelled : literal (front ++ (name.quoted ++ rest)) = ("\x7b\x7b " : Text) ++
      (.char '"' :: (front ++ [.char '"']) ++ (name ++ [.char '"'] ++ behind)) := by
    simp [literal, Mark.value, Mark.valueOpen, Mark.valueClose, ofString, quoted, behind]
  have unified : Text.unifyLineEnds (name ++ [.char '"'] ++ behind) =
      name ++ .char '"' :: behind.unifyLineEnds := by
    rw [unifyLineEnds_append, unifyLineEnds_eq_self_iff.mpr noReturn, List.append_assoc]
    · rfl
    · rintro ⟨last, -⟩
      rw [List.getLast?_concat] at last
      cases last
  obtain ⟨steps, enough, is⟩ :=
    exists_tokens_interpolation quotable (name ++ [.char '"'] ++ behind)
  obtain ⟨more, rfl⟩ : ∃ n, steps = n + 1 := ⟨steps - 1, by omega⟩
  obtain ⟨later, read⟩ := read_nameStart known more (front.length + 5) (1 + front.countNewlines)
    behind.unifyLineEnds
  rw [spelled, is, unified, read]
  exact ⟨_, _, _, rfl⟩

end Lexer

/-! ### What is rendered -/

theorem parse_literal {t : Text} (quotable : Quotable t) :
    Node.parse (literal t) = .ok [.print (.const (.text t))] := by
  rw [Node.parse, Lexer.tokens_literal quotable]
  rfl

theorem exists_parse_broken {front name : Text} (quotable : Quotable front)
    (known : name ∈ Tag.Reference.sigil :: Tag.Reference.aliases) (rest : Text) :
    ∃ flaw, Node.parse (literal (front ++ (name.quoted ++ rest))) = .error flaw := by
  obtain ⟨line, more, flaw, is⟩ := Lexer.exists_tokens_broken quotable known rest
  rw [Node.parse, is]
  rcases List.mem_cons.mp known with rfl | isAlias
  · exact ⟨_, rfl⟩
  · simp only [Tag.Reference.aliases, List.mem_cons, List.not_mem_nil, or_false] at isAlias
    rcases isAlias with rfl | rfl | rfl | rfl | rfl | rfl | rfl <;> exact ⟨_, rfl⟩

theorem render_of_compile_error {c : Context} {template : Text} {flaw : SyntaxFlaw}
    (failed : compile c.tags template = .error flaw) (o : Objects) :
    render c o template = ⟨.error (.malformedTemplate flaw), [], o⟩ := by
  simp only [render, failed]

section

variable {c : Context} {o : Objects} {s out : Text}

theorem expand_literal_eq_ok {tags : List Tag} (expanded : expand tags s = .ok out) :
    expand tags (literal s) = .ok (literal out) := by
  rw [expand_literal, expanded]
  rfl

/-- A literal is rendered to what it is expanded to, if that still fits between the quotes. -/
theorem render_of_quotable (expanded : expand c.tags s = .ok out) (quotable : Quotable out) :
    render c o (literal s) = ⟨.ok out, [], o⟩ := by
  have expanded' := expand_literal_eq_ok expanded
  have compiled : compile c.tags (literal s) = .ok ⟨[.print (.const (.text out))]⟩ :=
    except_bind_ok.mpr ⟨_, expanded', except_bind_ok.mpr ⟨_, parse_literal quotable, rfl⟩⟩
  have writes : WritesAll c
      ⟨[entered c [] (Symbols.ofTemplate [.print (.const (.text out))]) []], [], o⟩
      [.print (.const (.text out))] (Value.toText (.text out) ++ []) :=
    .cons (.print ⟨.text out, rfl, rfl⟩) .nil
  rw [List.append_nil, Value.toText_text] at writes
  exact render_of_writesAll compiled writes

theorem render_of_expand_error {flaw : SyntaxFlaw} (failed : expand c.tags s = .error flaw) :
    render c o (literal s) = ⟨.error (.malformedTemplate flaw), [], o⟩ := by
  refine render_of_compile_error (except_bind_error.mpr (.inl ?_)) o
  rw [expand_literal, failed]
  rfl

/-- The name of a custom tag is the one that its owner is registered with. -/
theorem mem_of_accepts? {tag : Tag} {content name payload : Text}
    (accepted : tag.accepts? content = some (name, payload)) : name ∈ tag.sigil :: tag.aliases := by
  unfold Tag.accepts? Tag.split? at accepted
  split at accepted
  · cases accepted
    exact List.mem_cons_self
  · split at accepted
    · split at accepted
      · rename_i among
        cases accepted
        exact List.mem_cons_of_mem _ (List.contains_iff_mem.mp among)
      · cases accepted
    · cases accepted

theorem exists_render_broken
    (names : ∀ tag ∈ c.tags,
      tag.sigil :: tag.aliases ⊆ Tag.Reference.sigil :: Tag.Reference.aliases)
    (expanded : expand c.tags s = .ok out) (quotes : QuotesName c.tags out) :
    ∃ flaw, render c o (literal s) = ⟨.error (.malformedTemplate flaw), [], o⟩ := by
  obtain ⟨front, rest, content, index, name, payload, owner, quotable, rfl⟩ := quotes
  obtain ⟨before, tag, after, split, -, -, accepted⟩ := owner?_eq_some_iff.mp owner
  have among : tag ∈ c.tags := split ▸ List.mem_append_right _ List.mem_cons_self
  obtain ⟨flaw, failed⟩ :=
    exists_parse_broken quotable (names tag among (mem_of_accepts? accepted)) rest
  have expanded' := expand_literal_eq_ok expanded
  refine ⟨flaw, render_of_compile_error (except_bind_error.mpr (.inr ⟨_, expanded', ?_⟩)) o⟩
  exact except_bind_error.mpr (.inl failed)

end

theorem literal_injective : Function.Injective literal := by
  intro s t same
  simpa [literal, Mark.value] using same

/-- A string literal in an interpolation stays as it is through expansion exactly if no tag in it is
rewritten, and then it is rendered to the text between its quotes. If there are no custom tags in
it, it is rendered to what this text is expanded to. If the custom tags are those of program
references, only untouched literals are rendered to their texts. -/
theorem render_literal (c : Context) (o : Objects) {s : Text} (quotable : Quotable s) :
    (expand c.tags (literal s) = .ok (literal s) ↔ Untouched c.tags s) ∧
    (Untouched c.tags s → render c o (literal s) = ⟨.ok s, [], o⟩) ∧
    ((∀ inner, Segment.tag inner ∈ Segment.cut s → ¬ Owned c.tags inner) →
      render c o (literal s) = ⟨(expand c.tags s).mapError .malformedTemplate, [], o⟩) ∧
    ((∀ tag ∈ c.tags, tag.sigil :: tag.aliases ⊆ Tag.Reference.sigil :: Tag.Reference.aliases) →
      ((render c o (literal s)).result = .ok s ↔ Untouched c.tags s)) := by
  have self := expand_eq_self_iff c.tags quotable.noQuote
  have kept (untouched : Untouched c.tags s) : render c o (literal s) = ⟨.ok s, [], o⟩ :=
    render_of_quotable (self.mpr untouched) quotable
  have outcome {out : Text} (expanded : expand c.tags s = .ok out) :=
    quotable_or_quotesName ((Segment.join_cut s).symm ▸ quotable)
      (expand_eq_ok_iff.mp expanded)
  refine ⟨?_, kept, ?_, ?_⟩
  · rw [← self, expand_literal]
    cases expand c.tags s with
    | error e => simp [Except.map]
    | ok out => simp [Except.map, literal_injective.eq_iff]
  · intro unowned
    cases expanded : expand c.tags s with
    | error flaw => exact render_of_expand_error expanded
    | ok out =>
      rcases outcome expanded with quotable' | ⟨⟨inner, among, owned⟩, -⟩
      · rw [Segment.join_cut] at quotable'
        exact render_of_quotable expanded quotable'
      · exact absurd owned (unowned inner among)
  · intro names
    refine ⟨fun same => self.mp ?_, fun untouched => by rw [kept untouched]⟩
    cases expanded : expand c.tags s with
    | error flaw =>
      rw [render_of_expand_error expanded] at same
      cases same
    | ok out =>
      rcases outcome expanded with quotable' | ⟨-, quotes⟩
      · rw [Segment.join_cut] at quotable'
        rw [render_of_quotable expanded quotable'] at same
        exact congrArg Except.ok (Except.ok.inj same)
      · rw [Segment.join_cut] at quotes
        obtain ⟨flaw, failed⟩ := exists_render_broken (o := o) names expanded quotes
        rw [failed] at same
        cases same

/-- Tags that are not rewritten can stand in a literal, such as a condition that is never closed. -/
theorem render_literal_condition :
    let c : Context := ⟨[Tag.reference (resolverOf "app.Main")], [], fun _ => .ok []⟩
    let s : Text := "\x7b% if x %\x7d 100% \x7b% CLASSES %\x7d"
    render c ⟨0, []⟩ (literal s) = ⟨.ok s, [], ⟨0, []⟩⟩ ∧ expand c.tags (literal s) = .ok (literal s) := by
  intro c s
  have cut : Segment.cut s = [.tag " if x ", .plain " 100% ", .tag " CLASSES "] := by decide
  have untouched : Untouched c.tags s := by
    intro inner among
    simp only [cut, List.mem_cons, Segment.tag.injEq, reduceCtorEq, List.not_mem_nil, or_false,
      false_or] at among
    rcases among with rfl | rfl <;> decide +kernel
  have ⟨expanded, kept, _, _⟩ := render_literal c ⟨0, []⟩ (by decide : Quotable s)
  exact ⟨kept untouched, expanded.mpr untouched⟩

/-- An `end` in a literal is refused, and a loop in a literal is changed. -/
theorem render_literal_end :
    let c : Context := ⟨[Tag.reference (resolverOf "app.Main")], [], fun _ => .ok []⟩
    let ending : Text := "\x7b% end %\x7d"
    let loop : Text := "\x7b% for x in xs %\x7d"
    (∀ d ∈ ending ++ loop, d ∉ ("\"'\\\n\r" : Text)) ∧
      render c ⟨0, []⟩ (literal ending) =
        ⟨.error (.malformedTemplate ⟨.strayEnd "end", 1⟩), [], ⟨0, []⟩⟩ ∧
      render c ⟨0, []⟩ (literal loop) =
        ⟨.ok "\x7b% for x in _iterate(xs, 1) %\x7d", [], ⟨0, []⟩⟩ := by
  intro c ending loop
  refine ⟨by decide, render_of_expand_error (by decide +kernel), ?_⟩
  exact render_of_quotable (by decide +kernel) (by decide)

end HaxeBuild.Template
