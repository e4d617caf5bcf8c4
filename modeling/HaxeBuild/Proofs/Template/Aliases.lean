import HaxeBuild.Proofs.Reference.Spelling
import HaxeBuild.Proofs.Template.Delivery

namespace HaxeBuild

namespace ReferenceDescriptor

variable {word payload : Text}

theorem trim_joined (solid : Text.NoBlank word) (present : word ≠ [])
    (trimmed : payload.trim = payload) :
    (word ++ ":" ++ payload).trim = word ++ ":" ++ payload := by
  by_cases empty : payload = []
  · rw [empty, List.append_nil]
    refine Text.trim_of_noBlank fun c among => ?_
    rcases List.mem_append.mp among with inside | colon
    · exact solid c inside
    · rw [List.mem_singleton.mp colon]
      rfl
  · exact Text.trim_between present empty (Text.trim_of_noBlank solid) trimmed ":"

/-- A payload behind a word and a colon is read as if the two were given apart. -/
theorem parse_joined (solid : Text.NoBlank word) (present : word ≠ [])
    (noColon : Code.char ':' ∉ word) (trimmed : payload.trim = payload) :
    parse (word ++ ":" ++ payload) = ofParts word payload (word ++ ":" ++ payload) := by
  have pieces := Text.splitOn_append_mark (.char ':') word payload
  rw [Text.splitOn_of_notMem noColon, List.singleton_append] at pieces
  have cut : Text.cut? ":" (word ++ ":" ++ payload) = some (word, payload) := by
    have mark : (":" : Text) = [.char ':'] := rfl
    have spelled : word ++ [.char ':'] ++ payload = word ++ .char ':' :: payload := by simp
    rw [mark, Text.cut?_eq_of_splitOn, spelled, pieces]
    cases more : Text.splitOn (.char ':') payload with
    | nil => exact absurd more (Text.splitOn_ne_nil _ payload)
    | cons first more' =>
      dsimp only
      rw [← more, Text.join_splitOn]
  simp only [parse, trim_joined solid present trimmed, cut]

end ReferenceDescriptor

namespace Template

open Text Expansion

namespace Tag.Reference

/-- What stands between the marks of a tag if the kind is behind the sigil. -/
def bySigil (word payload : Text) : Text := " :programref:" ++ (word ++ ":" ++ payload) ++ " "

/-- What stands between the marks of a tag if the kind is its alias. -/
def byAlias (word payload : Text) : Text := " " ++ word ++ " " ++ payload ++ " "

/-- A word that is no other tag of the template language and that can be told from what stands
around it. -/
structure IsPlain (word : Text) : Prop where
  solid : NoBlank word
  present : word ≠ []
  noColon : Code.char ':' ∉ word
  noPercent : Code.char '%' ∉ word
  basic : word.IsBasic
  free : word ∉ keywords

theorem isPlain_of_mem_aliases {word : Text} (known : word ∈ aliases) : IsPlain word := by
  have all : ∀ word ∈ aliases, NoBlank word ∧ word ≠ [] ∧ Code.char ':' ∉ word ∧
      Code.char '%' ∉ word ∧ word.IsBasic ∧ word ∉ keywords := by
    decide +kernel
  obtain ⟨solid, present, noColon, noPercent, basic, free⟩ := all word known
  exact ⟨solid, present, noColon, noPercent, basic, free⟩

theorem sigil_notMem_aliases : sigil ∉ aliases := by decide

/-- A descriptor that is put together from an alias is the one that is read behind the sigil. -/
theorem descriptor_alias {word content : Text} (known : word ∈ aliases)
    (trimmed : content.trim = content) :
    descriptor (.text word) (.text content) =
      descriptor (.text sigil) (.text (word ++ ":" ++ content)) := by
  have other : ((Value.text word).text? == some sigil) = false := by
    refine beq_false_of_ne fun same => sigil_notMem_aliases ?_
    rwa [← Option.some.inj same]
  have plain := isPlain_of_mem_aliases known
  have parsed :=
    ReferenceDescriptor.parse_joined plain.solid plain.present plain.noColon trimmed
  rw [Tag.descriptor_sigil, parsed, descriptor, other]
  rfl

theorem exists_trim_byAlias {word : Text} (plain : IsPlain word) (payload : Text) :
    ∃ rest, (byAlias word payload).trim = word ++ rest := by
  have spelled : byAlias word payload = (" " : Text) ++ (word ++ (" " ++ payload ++ " ")) := by
    simp [byAlias]
  rw [spelled, trim_blank_append (by decide), trim, trimStart_noBlank_append plain.solid plain.present,
    trimEnd_append]
  split
  · exact ⟨[], by rw [trimEnd_of_trim (trim_of_noBlank plain.solid), List.append_nil]⟩
  · exact ⟨_, rfl⟩

theorem firstWord?_byAlias {word payload : Text} (plain : IsPlain word)
    (trimmed : payload.trim = payload) :
    (byAlias word payload).trim.firstWord? = some (word, payload) := by
  have blank : AllBlank (" " : Text) := by decide
  have found := firstWord?_eq_some blank plain.solid plain.present blank (payload ++ " ") nofun
  have spelled : byAlias word payload = " " ++ word ++ " " ++ (payload ++ " ") := by
    simp [byAlias]
  rw [firstWord?_trim, spelled, found, Option.map_some, ← trim, trim_append_blank blank, trimmed]

theorem accepts?_alias (r : Resolver) {word payload : Text} (known : word ∈ aliases)
    (trimmed : payload.trim = payload) :
    (Tag.reference r).accepts? (byAlias word payload).trim = some (word, payload) := by
  have plain := isPlain_of_mem_aliases known
  have noSigil : after? sigil (byAlias word payload).trim = none := by
    obtain ⟨rest, is⟩ := exists_trim_byAlias plain payload
    refine Option.eq_none_iff_forall_not_mem.mpr fun more begins => plain.noColon ?_
    have same := (eq_append_of_after? begins).symm.trans is
    cases word with
    | nil => exact absurd rfl plain.present
    | cons c cs =>
      have first : Code.char ':' = c := (List.cons.inj same).1
      rw [first]
      exact List.mem_cons_self
  have among : aliases.contains word = true := List.contains_iff_mem.mpr known
  simp only [Tag.accepts?, Tag.split?, Tag.reference, noSigil,
    firstWord?_byAlias plain trimmed, among, if_true, trimmed]

theorem unclosed_byAlias {word payload : Text} (known : word ∈ aliases)
    (unclosed : Unclosed payload) : Unclosed (byAlias word payload) := by
  have plain := isPlain_of_mem_aliases known
  exact unclosed_between (" " ++ word ++ " ") (by simpa [ofString] using plain.noPercent) unclosed
    (unclosed_of_notMem (by decide)) (by decide)

theorem unclosed_bySigil {word payload : Text} (known : word ∈ aliases)
    (unclosed : Unclosed payload) : Unclosed (bySigil word payload) := by
  have plain := isPlain_of_mem_aliases known
  have blank : Unclosed (" " : Text) := unclosed_of_notMem (by decide)
  have closed := unclosed_between (" :programref:" ++ word ++ ":")
    (by simpa [ofString] using plain.noPercent) unclosed blank (by decide)
  simpa [bySigil] using closed

theorem firstWord_byAlias {word : Text} (known : word ∈ aliases) (payload : Text) :
    firstWord (byAlias word payload) ∉ keywords := by
  have plain := isPlain_of_mem_aliases known
  have spelled : byAlias word payload =
      .char ' ' :: (word ++ .char ' ' :: (payload ++ [.char ' '])) := by
    simp [byAlias, ofString]
  have apart : ∀ d ∈ (Code.char ' ' :: (payload ++ [.char ' '])).head?, d.isBlank = true := by
    rintro d ⟨⟩
    rfl
  rw [spelled, firstWord_of_word word _ rfl plain.solid plain.present apart]
  exact plain.free

end Tag.Reference

open Tag.Reference hiding render

section

variable {front : List Tag} (back : List Tag) {r : Resolver} {word payload : Text}
  (parameters : List (Text × Value)) (command : Objects → Outcome Text) (o : Objects)

theorem render_of_byAlias (known : word ∈ aliases) (trimmed : payload.trim = payload)
    (unclosed : Unclosed payload)
    (refused : ∀ other ∈ front, other.accepts? (byAlias word payload).trim = none) :
    render ⟨front ++ Tag.reference r :: back, parameters, command⟩ o
        (Mark.block (byAlias word payload)) =
      shown o ((Tag.reference r).render (.text word) (.text payload.halved)) := by
  have plain := isPlain_of_mem_aliases known
  have delivers := delivers_halved back (unclosed_byAlias known unclosed)
    (firstWord_byAlias known payload) refused (accepts?_alias r known trimmed)
  rw [delivers.rendered parameters command o, halved_eq_self_iff.mpr plain.basic]

theorem render_of_bySigil (known : word ∈ aliases) (trimmed : payload.trim = payload)
    (unclosed : Unclosed payload)
    (refused : ∀ other ∈ front, other.accepts? (bySigil word payload).trim = none) :
    render ⟨front ++ Tag.reference r :: back, parameters, command⟩ o
        (Mark.block (bySigil word payload)) =
      shown o
        ((Tag.reference r).render (.text sigil) (.text (word ++ ":" ++ payload.halved))) := by
  have plain := isPlain_of_mem_aliases known
  have accepted := Tag.accepts?_reference r (word ++ ":" ++ payload)
  rw [ReferenceDescriptor.trim_joined plain.solid plain.present trimmed] at accepted
  have delivers := delivers_halved back (unclosed_bySigil known unclosed)
    (firstWord_of_sigil (word ++ ":" ++ payload)) refused accepted
  have halves : (word ++ ":" ++ payload).halved = word ++ ":" ++ payload.halved := by
    rw [halved_append, halved_append, halved_eq_self_iff.mpr plain.basic]
    rfl
  have sigil' : sigil.halved = sigil := halved_eq_self_iff.mpr (by decide)
  rw [delivers.rendered parameters command o, halves, sigil']

end

/-- A program with one static method. -/
def addingResolver : Resolver :=
  ⟨⟨[⟨"app.Main", [⟨"add", "(II)I", true, []⟩], [], []⟩], [], none⟩, ⟨[], []⟩⟩

/-- A reference is rendered alike with the kind as an alias and with the kind behind the sigil: the
text and the log are the same, and so are the errors with all that is in them. -/
theorem render_byAlias {front : List Tag} (back : List Tag) (r : Resolver) {word payload : Text}
    (known : word ∈ aliases) (trimmed : payload.trim = payload)
    (unclosed : ¬ Mark.blockClose <:+: payload)
    (refused : ∀ other ∈ front, ∀ inner ∈ [byAlias word payload, bySigil word payload],
      other.accepts? inner.trim = none)
    (parameters : List (Text × Value)) (command : Objects → Outcome Text) (o : Objects) :
    let c : Context := ⟨front ++ Tag.reference r :: back, parameters, command⟩
    render c o (Mark.block (byAlias word payload)) =
        render c o (Mark.block (bySigil word payload)) ∧
      (render c o (Mark.block (byAlias word payload))).result =
        r.resolveText (word ++ ":" ++ payload.halved) := by
  intro c
  have unclosed' := unclosed_iff.mpr unclosed
  have byAlias' : render c o _ = _ := render_of_byAlias back parameters command o known trimmed
    unclosed' fun other among => refused other among _ (by simp)
  have bySigil' : render c o _ = _ := render_of_bySigil back parameters command o known trimmed
    unclosed' fun other among => refused other among _ (by simp)
  have trimmed' : payload.halved.trim = payload.halved := by rw [trim_halved, trimmed]
  have same : (Tag.reference r).render (.text word) (.text payload.halved) =
      (Tag.reference r).render (.text sigil) (.text (word ++ ":" ++ payload.halved)) := by
    simp only [Tag.reference, Tag.Reference.render, descriptor_alias known trimmed']
  rw [← same] at bySigil'
  refine ⟨byAlias'.trans bySigil'.symm, ?_⟩
  rw [byAlias', same, Tag.result_render_reference]

/-- An empty payload gives the same error in both forms, with the text of the whole descriptor. A
payload with blanks and colons inside it names the same member in both. -/
theorem render_byAlias_payloads :
    let c : Context :=
      ⟨[noteTag ":note:", Tag.reference addingResolver], [], fun _ => .ok []⟩
    (render c ⟨0, []⟩ "\x7b% CONSTRUCTOR  %\x7d" =
        render c ⟨0, []⟩ "\x7b% :programref:CONSTRUCTOR: %\x7d" ∧
      (render c ⟨0, []⟩ "\x7b% CONSTRUCTOR  %\x7d").result =
        .error (.malformedDescriptor ⟨"CONSTRUCTOR:", .wrongCount .constructor 1⟩)) ∧
    render c ⟨0, []⟩ "\x7b% SMETHOD app.Main : add :(II)I %\x7d" =
        render c ⟨0, []⟩ "\x7b% :programref:SMETHOD:app.Main : add :(II)I %\x7d" ∧
      (render c ⟨0, []⟩ "\x7b% SMETHOD app.Main : add :(II)I %\x7d").result =
        .ok "app.Main.add__II_I" := by
  intro c
  have refused (word payload : Text)
      (apart : (noteTag ":note:").accepts? (byAlias word payload).trim = none ∧
        (noteTag ":note:").accepts? (bySigil word payload).trim = none) :
      ∀ other ∈ [noteTag ":note:"], ∀ inner ∈ [byAlias word payload, bySigil word payload],
        other.accepts? inner.trim = none := by
    simpa using apart
  constructor
  · have known : Text.ofString "CONSTRUCTOR" ∈ aliases := by decide
    have ⟨alike, resolved⟩ := render_byAlias [] addingResolver known rfl
      (by decide) (refused _ [] (by decide +kernel)) [] (fun _ => .ok []) ⟨0, []⟩
    have written : ("\x7b% CONSTRUCTOR  %\x7d" : Text) = Mark.block (byAlias "CONSTRUCTOR" []) :=
      rfl
    exact ⟨alike, (congrArg (fun t => (render c ⟨0, []⟩ t).result) written).trans resolved⟩
  · have known : Text.ofString "SMETHOD" ∈ aliases := by decide
    have trimmed : Text.trim "app.Main : add :(II)I" = "app.Main : add :(II)I" := by decide +kernel
    have ⟨alike, resolved⟩ := render_byAlias [] addingResolver known trimmed
      (unclosed_iff.mp (unclosed_of_notMem (by decide)))
      (refused _ _ (by decide +kernel)) [] (fun _ => .ok []) ⟨0, []⟩
    refine ⟨alike, ?_⟩
    have written : ("\x7b% SMETHOD app.Main : add :(II)I %\x7d" : Text) =
        Mark.block (byAlias "SMETHOD" "app.Main : add :(II)I") := rfl
    exact (congrArg (fun t => (render c ⟨0, []⟩ t).result) written).trans
      (resolved.trans (eq_ok_of_toOption (by decide +kernel)))

end Template

end HaxeBuild
