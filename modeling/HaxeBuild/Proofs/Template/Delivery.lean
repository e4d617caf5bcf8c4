import HaxeBuild.Proofs.Template.Lexing
import HaxeBuild.Proofs.Template.Rendering
import HaxeBuild.Proofs.Text.LineEnds

namespace HaxeBuild.Template

open Text Expansion Render Effect

namespace Lexer

/-- The tokens of a custom tag that owner number `index` gets the two texts from. -/
def customTokens (index : Nat) (name payload : Text) (last : Nat) : List Token :=
  [⟨1, .blockBegin⟩, ⟨1, .name "customtag"⟩, ⟨1, .integer index⟩, ⟨1, .symbol .comma⟩,
    ⟨1, .string name⟩, ⟨1, .symbol .comma⟩, ⟨1, .string payload⟩, ⟨last, .blockEnd⟩]

/-- A generated statement opens a tag that keeps the blanks before it. -/
theorem opening?_customTag (rest : Text) :
    opening? (("\x7b% customtag" : Text) ++ rest) = some (.block, Mark.blockOpen, .keep) := rfl

/-- Its opening mark becomes a token. -/
theorem read_opening (steps : Nat) (rest : Text) :
    read (steps + 1) .text ⟨("\x7b% customtag" : Text) ++ rest, 0, 1⟩ =
      (read steps (.inside .block [] false)
        ⟨(" customtag" : Text) ++ rest, 2, 1⟩).prepend ⟨1, .blockBegin⟩ := by
  have found : search opening? (("\x7b% customtag" : Text) ++ rest) =
      some ([], .block, Mark.blockOpen, .keep) := by
    have opens := opening?_customTag rest
    have starts : ("\x7b% customtag" : Text) ++ rest =
        .char '\x7b' :: (("% customtag" : Text) ++ rest) := rfl
    rw [starts] at opens ⊢
    rw [search, opens]
  rw [read, found]
  rfl

/-- Its closing mark is the last token. -/
theorem read_closing (steps offset line : Nat) :
    read (steps + 2) (.inside .block [] false) ⟨Mark.blockClose, offset, line⟩ =
      ⟨[⟨line, .blockEnd⟩], none⟩ := by
  rfl

/-- A quoted text between a comma and a further piece is read as a string. -/
theorem read_literal (steps : Nat) (t rest : Text) (offset line : Nat) :
    read (steps + 3) (.inside .block [] false)
        ⟨.char ',' :: .char ' ' :: (t.quoted ++ rest), offset, line⟩ =
      ((read steps (.inside .block [] false)
        ⟨rest, offset + 2 + t.quoted.length, line⟩).prepend ⟨line, .string t.halved⟩).prepend
          ⟨line, .symbol .comma⟩ := by
  have blank : read (steps + 2) (.inside .block [] false)
        ⟨.char ' ' :: (t.quoted ++ rest), offset + 1, line⟩ =
      read (steps + 1) (.inside .block [] false) ⟨t.quoted ++ rest, offset + 2, line⟩ :=
    read_blank [.char ' '] (steps + 1) line
      (tagEnd?_of_head (by decide) (by decide) (by decide) _) (by decide)
      (piece_blank (by decide) (by decide) (by rintro c ⟨⟩; rfl) _ _)
  have noEnd : tagEnd? .block (t.quoted ++ rest) = none := by
    exact tagEnd?_of_head (c := .char '"') (by decide) (by decide) (by decide) _
  have string := read_token steps line noEnd (by simp [Text.quoted, ofString])
    (piece_quoted t false (offset + 2) rest) nofun
  simp only [countNewlines_quoted, Nat.add_zero] at string
  rw [read_comma, blank, string]

/-- The index of the tag becomes a token. -/
theorem read_number (steps index offset line : Nat) (rest : Text) :
    read (steps + 2) (.inside .block [] false)
        ⟨.char ' ' :: (Text.ofNat index ++ .char ',' :: rest), offset, line⟩ =
      (read steps (.inside .block [] false)
        ⟨.char ',' :: rest, offset + 1 + (Text.ofNat index).length, line⟩).prepend
          ⟨line, .integer index⟩ := by
  obtain ⟨c, more, is, isDigit, -⟩ := exists_ofNat index
  have solid : c.isBlank = false := isBlank_of_isAsciiDigit isDigit
  have blank : read (steps + 2) (.inside .block [] false)
        ⟨.char ' ' :: (Text.ofNat index ++ .char ',' :: rest), offset, line⟩ =
      read (steps + 1) (.inside .block [] false)
        ⟨Text.ofNat index ++ .char ',' :: rest, offset + 1, line⟩ := by
    refine read_blank [.char ' '] (steps + 1) line
      (tagEnd?_of_head (by decide) (by decide) (by decide) _) (by decide)
      (piece_blank (by decide) (by decide) ?_ _ _)
    rw [is]
    rintro d ⟨⟩
    exact solid
  have noEnd : tagEnd? .block (Text.ofNat index ++ .char ',' :: rest) = none := by
    rw [is]
    refine tagEnd?_of_head ?_ ?_ ?_ _ <;> rintro rfl <;> cases isDigit
  have number := read_token steps line noEnd (by simp [is])
    (piece_ofNat index false (offset + 1) rest) nofun
  simp only [countNewlines_ofNat, Nat.add_zero] at number
  rw [blank, number]

/-- The word of the statement becomes a token. -/
theorem read_word (steps offset line : Nat) (rest : Text) :
    read (steps + 2) (.inside .block [] false)
        ⟨(" customtag" : Text) ++ .char ' ' :: rest, offset, line⟩ =
      (read steps (.inside .block [] false) ⟨.char ' ' :: rest, offset + 10, line⟩).prepend
        ⟨line, .name "customtag"⟩ := by
  have spelled : (" customtag" : Text) ++ .char ' ' :: rest =
      [.char ' '] ++ (("customtag" : Text) ++ .char ' ' :: rest) := rfl
  have blank : read (steps + 2) (.inside .block [] false)
        ⟨[.char ' '] ++ (("customtag" : Text) ++ .char ' ' :: rest), offset, line⟩ =
      read (steps + 1) (.inside .block [] false)
        ⟨("customtag" : Text) ++ .char ' ' :: rest, offset + 1, line⟩ := by
    refine read_blank [.char ' '] (steps + 1) line
      (tagEnd?_of_head (by decide) (by decide) (by decide) _) (by decide)
      (piece_blank (by decide) (by decide) ?_ _ _)
    rintro d ⟨⟩
    decide
  have noEnd : tagEnd? .block (("customtag" : Text) ++ .char ' ' :: rest) = none :=
    tagEnd?_of_head (c := .char 'c') (by decide) (by decide) (by decide) _
  have word := read_token steps line noEnd (by decide)
    (piece_name (.char 'c') "ustomtag" (by decide) (by decide) (by decide)
      (by decide) (by rintro d ⟨⟩; decide) false (offset + 1)) nofun
  rw [spelled, blank]
  exact word

/-- The newlines that were held back move the closing mark to its line. -/
theorem read_last (steps lines offset line : Nat) :
    read (steps + 3) (.inside .block [] false)
        ⟨newlines lines ++ [.char ' '] ++ Mark.blockClose, offset, line⟩ =
      ⟨[⟨line + lines, .blockEnd⟩], none⟩ := by
  have blanks : AllBlank (newlines lines ++ [.char ' ']) := by
    intro c among
    rcases List.mem_append.mp among with newline | space
    · rw [List.eq_of_mem_replicate newline]
      decide
    · rw [List.mem_singleton.mp space]
      decide
  have noEnd : tagEnd? .block (newlines lines ++ [.char ' '] ++ Mark.blockClose) = none := by
    cases lines with
    | zero => exact tagEnd?_of_head (c := .char ' ') (by decide) (by decide) (by decide) _
    | succ n => exact tagEnd?_of_head (c := .char '\n') (by decide) (by decide) (by decide) _
  have blank := read_blank _ (steps + 2) line noEnd (by simp)
    (piece_blank blanks (by simp) (by rintro d ⟨⟩; decide) false offset)
  have counted : (newlines lines ++ [Code.char ' ']).countNewlines = lines := by
    rw [countNewlines_append, countNewlines_newlines]
    rfl
  rw [blank, read_closing, counted]

/-- The tokens of a generated statement, with its texts split into halves. -/
theorem tokens_customTag (index : Nat) (name payload : Text) (lines : Nat) :
    tokens (Mark.block (customTag index name payload lines)) =
      ⟨customTokens index name.halved payload.halved (1 + lines), none⟩ := by
  have spelled : Mark.block (customTag index name payload lines) =
      ("\x7b% customtag" : Text) ++ .char ' ' :: (Text.ofNat index ++ .char ',' :: .char ' ' ::
        (name.quoted ++ .char ',' :: .char ' ' :: (payload.quoted ++
          (newlines lines ++ [.char ' '] ++ Mark.blockClose)))) := by
    simp [Mark.block, Mark.blockOpen, customTag, ofString]
  have noReturn : Code.char '\r' ∉ Mark.block (customTag index name payload lines) := by
    rw [spelled]
    simp [ofString, Mark.blockClose, notMem_ofNat (c := .char '\r') rfl, notMem_newlines,
      notMem_quoted (d := .char '\r') (by decide)]
  have enough : 14 ≤ 2 * (Mark.block (customTag index name payload lines)).length + 2 := by
    rw [spelled]
    simp [ofString]
    omega
  obtain ⟨steps, is⟩ := Nat.exists_eq_add_of_le' enough
  rw [tokens, unifyLineEnds_eq_self_iff.mpr noReturn, is, spelled, read_opening, read_word, read_number,
    read_literal, read_literal, read_last]
  rfl

end Lexer

/-! ### Nodes -/

/-- The node of a custom tag. -/
def customNode (index : Nat) (name payload : Text) : Node :=
  .custom [.const (.int index), .const (.text name), .const (.text payload)]

/-- A generated statement is parsed into one node that carries its texts. -/
theorem parse_customTag (index : Nat) (name payload : Text) (lines : Nat) :
    Node.parse (Mark.block (customTag index name payload lines)) =
      .ok [customNode index name.halved payload.halved] := by
  rw [Node.parse, Lexer.tokens_customTag]
  rfl

/-- What a rendering leaves behind of the answer of a tag, which changes no object. -/
def shown (o : Objects) : Outcome (Text × Log) → Rendering
  | .ok (t, entries) => ⟨.ok t, entries, o⟩
  | .error e => ⟨.error e, [], o⟩

/-- Counting from the front finds what the list holds there. -/
theorem nth?_natCast {α : Type} (items : List α) (n : Nat) :
    Value.nth? items (n : Int) = items[n]? := by
  have noSign : ¬ (n : Int) < 0 := by omega
  simp only [Value.nth?, noSign, if_false, Int.toNat_natCast]

/-- The tag at the index renders what the statement carries. -/
theorem dispatch_of_found {c : Context} {index : Nat} {owner : Tag} (name payload : Text)
    (found : c.tags[index]? = some owner) (p : Progress) :
    Effect.perform (dispatch c [.int index, .text name, .text payload]) p =
      match owner.render (.text name) (.text payload) with
      | .ok (t, entries) => (.ok (some t), { p with log := p.log ++ entries })
      | .error e => (.error e, p) := by
  have isInt : (Value.int (index : Int)).integer? = some (index : Int) := rfl
  simp only [dispatch, isInt, nth?_natCast, found]
  cases answer : owner.render (.text name) (.text payload) with
  | ok pair => rfl
  | error e => rfl

/-- A custom tag renders to what its dispatch writes. -/
theorem perform_customNode {c : Context} {index : Nat} (name payload : Text) (p : Progress) :
    Effect.perform (Node.render c (customNode index name payload)) p =
      Effect.perform (dispatch c [.int index, .text name, .text payload]) p := by
  rfl

/-- A template of one custom tag renders to what its owner answers. -/
theorem render_of_customTag {c : Context} {template name payload : Text} {index lines : Nat}
    {owner : Tag} (found : c.tags[index]? = some owner)
    (expanded : expand c.tags template = .ok (Mark.block (customTag index name payload lines)))
    (o : Objects) :
    render c o template = shown o (owner.render (.text name.halved) (.text payload.halved)) := by
  have compiled :
      compile c.tags template = .ok ⟨[customNode index name.halved payload.halved]⟩ := by
    unfold compile
    exact except_bind_ok.mpr ⟨_, expanded, except_bind_ok.mpr ⟨_, parse_customTag _ _ _ _, rfl⟩⟩
  have dispatched := dispatch_of_found name.halved payload.halved found
  rw [render_of_compiled compiled]
  simp only [Compiled.run, within, perform_bind, perform_modify, Node.renderAll,
    perform_customNode, dispatched]
  cases answer : owner.render (.text name.halved) (.text payload.halved) with
  | ok pair =>
    have whole : append (some pair.1) (some []) = some pair.1 := congrArg some (List.append_nil _)
    simp only [perform_pure, whole]
    rfl
  | error e => rfl

/-! ### Delivery -/

/-- A tag hands `name'` and `payload'` to its owner, which is number `index` of the tags, when it is
written with `name` and `payload`: it is expanded to those two as literals, the literals are read as
`name'` and `payload'`, and the owner writes what it writes for these. -/
structure Delivers (tags : List Tag) (inner : Text) (index : Nat) (owner : Tag)
    (name payload name' payload' : Text) : Prop where
  expanded : ∀ opened line, Expansion.tag tags opened line inner =
    .ok (customTag index name payload inner.countNewlines, opened)
  nameRead : ∀ afterDot offset rest, Lexer.piece afterDot offset (name.quoted ++ rest) =
    .token name.quoted (.string name')
  payloadRead : ∀ afterDot offset rest, Lexer.piece afterDot offset (payload.quoted ++ rest) =
    .token payload.quoted (.string payload')
  rendered : ∀ parameters command o, render ⟨tags, parameters, command⟩ o (Mark.block inner) =
    shown o (owner.render (.text name') (.text payload'))

/-- A tag that is no statement of its own goes to the first tag that accepts it. -/
theorem expansion_of_owner {tags : List Tag} {inner name payload : Text} {index : Nat}
    (free : firstWord inner ∉ keywords)
    (owned : owner? tags inner.trim = some (index, name, payload)) (opened : List Block)
    (line : Nat) :
    Expansion.tag tags opened line inner =
      .ok (customTag index name payload inner.countNewlines, opened) := by
  have expansion := expansion_of_tag tags opened line inner
  generalize Expansion.tag tags opened line inner = outcome at expansion
  cases expansion with
  | branch word => exact absurd (by rw [word]; decide) free
  | loop word parts => exact absurd (by rw [word]; decide) free
  | looseLoop word noParts => exact absurd (by rw [word]; decide) free
  | closer b word => exact absurd (by rw [word]; cases b <;> decide) free
  | ended bare innermost => exact absurd (by rw [← firstWord_trim, bare]; decide) free
  | stray word stray => exact absurd (by rw [word]; decide) free
  | custom word owned' =>
    rw [owned] at owned'
    cases owned'
    rfl
  | other notIf notFor noCloser notEnd unowned =>
    rw [unowned free] at owned
    cases owned

/-- The owner is handed the name and the content, both split into halves. -/
theorem delivers_halved {front : List Tag} {owner : Tag} {inner name payload : Text}
    (back : List Tag)
    (unclosed : Unclosed inner) (free : firstWord inner ∉ keywords)
    (refused : ∀ other ∈ front, other.accepts? inner.trim = none)
    (accepted : owner.accepts? inner.trim = some (name, payload)) :
    Delivers (front ++ owner :: back) inner front.length owner name payload name.halved
      payload.halved where
  expanded := expansion_of_owner free
    (owner?_eq_some_iff.mpr ⟨front, owner, back, rfl, rfl, refused, accepted⟩)
  nameRead := Lexer.piece_quoted name
  payloadRead := Lexer.piece_quoted payload
  rendered parameters command o := by
    have cut : Segment.cut (Mark.block inner) = [.tag inner] := by
      have alone := Segment.cut_block unclosed []
      rwa [List.append_nil] at alone
    have owned := owner?_eq_some_iff.mpr ⟨front, owner, back, rfl, rfl, refused, accepted⟩
    have expanded : Expansion.segments (front ++ owner :: back) [] 1
        (Segment.cut (Mark.block inner)) =
          .ok [.tag (customTag front.length name payload inner.countNewlines)] := by
      rw [cut, segments_tag_eq_ok_iff]
      exact ⟨_, [], [], expansion_of_owner free owned [] 1, rfl, rfl⟩
    have found : (front ++ owner :: back)[front.length]? = some owner := by simp
    have block : expand (front ++ owner :: back) (Mark.block inner) =
        .ok (Mark.block (customTag front.length name payload inner.countNewlines)) := by
      simpa [Segment.text] using (expand_of_segments expanded).1
    exact render_of_customTag (c := ⟨front ++ owner :: back, parameters, command⟩) found block o

/-- Only texts of the basic plane are delivered as they were written. -/
theorem delivers_iff {front back : List Tag} {owner : Tag} {inner name payload : Text}
    (unclosed : Unclosed inner) (free : firstWord inner ∉ keywords)
    (refused : ∀ other ∈ front, other.accepts? inner.trim = none)
    (accepted : owner.accepts? inner.trim = some (name, payload)) :
    Delivers (front ++ owner :: back) inner front.length owner name payload name payload ↔
      name.IsBasic ∧ payload.IsBasic := by
  have delivers := delivers_halved back unclosed free refused accepted
  constructor
  · intro verbatim
    have name' := (delivers.nameRead false 0 []).symm.trans (verbatim.nameRead false 0 [])
    have payload' := (delivers.payloadRead false 0 []).symm.trans (verbatim.payloadRead false 0 [])
    injection name' with _ name'
    injection payload' with _ payload'
    exact ⟨halved_eq_self_iff.mp (Lexeme.string.inj name'),
      halved_eq_self_iff.mp (Lexeme.string.inj payload')⟩
  · rintro ⟨basic, basic'⟩
    rwa [halved_eq_self_iff.mpr basic, halved_eq_self_iff.mpr basic'] at delivers

/-! ### References -/

namespace Tag

/-- Behind the sigil stands a whole descriptor. -/
theorem descriptor_sigil (content : Text) :
    Reference.descriptor (.text Reference.sigil) (.text content) =
      Resolver.descriptor (ReferenceDescriptor.parse content) := by
  have same : ((Value.text Reference.sigil).text? == some Reference.sigil) = true :=
    beq_self_eq_true (some Reference.sigil)
  rw [Reference.descriptor, if_pos same]
  rfl

/-- A reference tag hands its whole content to the resolver. -/
theorem result_render_reference (r : Resolver) (content : Text) (o : Objects) :
    (shown o ((Tag.reference r).render (.text Reference.sigil) (.text content))).result =
      r.resolveText content := by
  simp only [Tag.reference, Reference.render, descriptor_sigil, Resolver.resolveText]
  cases Resolver.descriptor (ReferenceDescriptor.parse content) with
  | error e => rfl
  | ok ref =>
    change (shown o (do return ((← r.resolve ref), _))).result = r.resolve ref
    cases r.resolve ref <;> rfl

/-- A reference accepts every content after its sigil. -/
theorem accepts?_reference (r : Resolver) (t : Text) :
    (Tag.reference r).accepts? ((" :programref:" : Text) ++ t ++ " ").trim =
      some (Reference.sigil, t.trim) := by
  have trimmed : ((" :programref:" : Text) ++ t ++ " ").trim = Reference.sigil ++ t.trimEnd := by
    have spelled : (" :programref:" : Text) ++ t ++ " " =
        ([.char ' '] : Text) ++ (Reference.sigil ++ t) ++ (" " : Text) := rfl
    rw [spelled, trim_append_blank (by decide), trim_blank_append (by decide), trim,
      trimStart_noBlank_append (by decide) (by decide), trimEnd_append]
    split
    · rename_i blank
      rw [blank, List.append_nil]
      decide
    · rfl
  obtain ⟨back, blank, split⟩ := exists_trimEnd t
  have same : t.trimEnd.trim = t.trim := by
    conv_rhs => rw [split, trim_append_blank blank]
  rw [trimmed, Tag.accepts?, Tag.split?]
  simp only [Tag.reference, after?_append, same]

end Tag

/-- The sigil of a reference is no keyword. -/
theorem firstWord_of_sigil (t : Text) :
    firstWord ((" :programref:" : Text) ++ t ++ " ") ∉ keywords := by
  have begins : (firstWord ((" :programref:" : Text) ++ t ++ " ")).head? = some (.char ':') := by
    rfl
  intro keyword
  have none : ∀ word ∈ keywords, word.head? ≠ some (.char ':') := by decide
  exact none _ keyword begins

/-- What the resolver gets from a reference tag is the text with its code points in units. -/
theorem render_reference {t : Text} (unclosed : Unclosed t) (r : Resolver)
    (parameters : List (Text × Value)) (command : Objects → Outcome Text) (o : Objects) :
    (render ⟨[Tag.reference r], parameters, command⟩ o
      (Mark.block ((" :programref:" : Text) ++ t ++ " "))).result =
        r.resolveText t.trim.halved := by
  have closed : Unclosed ((" :programref:" : Text) ++ t ++ " ") :=
    unclosed_between " :programref:" (by decide) unclosed (unclosed_of_notMem (by decide))
      (by decide)
  have delivers := delivers_halved [] closed (firstWord_of_sigil t)
    (List.forall_mem_nil _) (Tag.accepts?_reference r t)
  have sigil : Tag.Reference.sigil.halved = Tag.Reference.sigil :=
    halved_eq_self_iff.mpr (by decide)
  have rendered := delivers.rendered parameters command o
  rw [sigil] at rendered
  rw [← Tag.result_render_reference r _ o, ← rendered]
  rfl

/-- Trimming keeps a text of the basic plane in it. -/
theorem isBasic_trim {t : Text} (basic : t.IsBasic) : t.trim.IsBasic :=
  fun c among => basic c ((isInfix_trim t).subset among)

/-- A descriptor is resolved without regard to the blanks around it. -/
theorem resolveText_trim (r : Resolver) (t : Text) : r.resolveText t.trim = r.resolveText t := by
  rw [Resolver.resolveText, Resolver.resolveText, ReferenceDescriptor.parse, trim_trim]
  rfl

/-- A custom tag hands its name and its content to the first tag that accepts it, in sixteen-bit
units; so they arrive as they are written exactly if both are in the basic plane. In particular a
reference tag is rendered as its content is resolved. -/
theorem customTags_delivered (front back : List Tag) (owner : Tag) (inner name payload : Text)
    (r : Resolver) (t : Text) (parameters : List (Text × Value))
    (command : Objects → Outcome Text) (o : Objects) :
    (Unclosed inner → firstWord inner ∉ keywords →
      (∀ other ∈ front, other.accepts? inner.trim = none) →
      owner.accepts? inner.trim = some (name, payload) →
      Delivers (front ++ owner :: back) inner front.length owner name payload name.halved
          payload.halved ∧
        (Delivers (front ++ owner :: back) inner front.length owner name payload name payload ↔
          name.IsBasic ∧ payload.IsBasic)) ∧
    (Unclosed t →
      (render ⟨[Tag.reference r], parameters, command⟩ o
          (Mark.block ((" :programref:" : Text) ++ t ++ " "))).result =
            r.resolveText t.trim.halved ∧
        (t.IsBasic → (render ⟨[Tag.reference r], parameters, command⟩ o
          (Mark.block ((" :programref:" : Text) ++ t ++ " "))).result = r.resolveText t)) := by
  constructor
  · intro unclosed free refused accepted
    exact ⟨delivers_halved back unclosed free refused accepted,
      delivers_iff unclosed free refused accepted⟩
  · intro unclosed
    have resolved := render_reference unclosed r parameters command o
    refine ⟨resolved, fun basic => ?_⟩
    rw [resolved, halved_eq_self_iff.mpr (isBasic_trim basic), resolveText_trim]

/-- A program with a single class and full names. -/
def resolverOf (className : Text) : Resolver :=
  ⟨⟨[⟨className, [], [], []⟩], [], none⟩, ⟨[], []⟩⟩

/-- A tag that writes down what it is handed. -/
def noteTag (sigil : Text) : Tag := ⟨sigil, [], fun _ content => .ok (content.print, [])⟩

/-- A note between blanks and a reference are delivered as they are written. -/
theorem customTags_delivered_note :
    Delivers [noteTag ":aside:", noteTag ":note:"] " :note:\n \"é\\ " 1 (noteTag ":note:") ":note:"
        "\"é\\" ":note:" "\"é\\" ∧
      (render ⟨[Tag.reference (resolverOf "app.Main")], [], fun _ => .ok []⟩ ⟨0, []⟩
        (Mark.block ((" :programref:" : Text) ++ "CLASS:app.Main" ++ " "))).result =
          .ok "app.Main" := by
  have ⟨delivered, resolved⟩ := customTags_delivered [noteTag ":aside:"] [] (noteTag ":note:")
    " :note:\n \"é\\ " ":note:" "\"é\\" (resolverOf "app.Main") "CLASS:app.Main" []
    (fun _ => .ok []) ⟨0, []⟩
  constructor
  · have both := delivered (unclosed_of_notMem (by decide)) (by decide +kernel) (by decide +kernel)
      (by decide +kernel)
    exact both.2.mpr (by decide)
  · have both := resolved (unclosed_of_notMem (by decide))
    rw [both.2 (by decide)]
    rfl

/-- A class whose name leaves the basic plane is resolved, but not through a tag. -/
theorem reference_astral_lost :
    (resolverOf "app.𝒳").resolveText "CLASS:app.𝒳" = .ok "app._" ∧
      (render ⟨[Tag.reference (resolverOf "app.𝒳")], [], fun _ => .ok []⟩ ⟨0, []⟩
        (Mark.block ((" :programref:" : Text) ++ "CLASS:app.𝒳" ++ " "))).result ≠
          (resolverOf "app.𝒳").resolveText "CLASS:app.𝒳" := by
  refine ⟨rfl, ?_⟩
  rw [render_reference (unclosed_of_notMem (by decide))]
  intro same
  exact absurd (congrArg Except.toOption same) (by decide +kernel)

end HaxeBuild.Template
