import HaxeBuild.Proofs.Template.Expansion

namespace HaxeBuild.Template

open Segment Expansion

/-- What the first word of a tag says about blocks. An `end` is bare if it has no other words. -/
inductive Role where
  | opens (b : Block)
  | closes (b : Block)
  | ends (bare : Bool)
  deriving DecidableEq

def role? (inner : Text) : Option Role :=
  let word := firstWord inner
  if word = Block.branch.keyword then some (.opens .branch)
  else if word = Block.loop.keyword then some (.opens .loop)
  else if word = Block.branch.closer then some (.closes .branch)
  else if word = Block.loop.closer then some (.closes .loop)
  else if word = "end" then some (.ends (inner.trim = "end"))
  else none

/-- The roles of the tags, in order. -/
def roles (segments : List Segment) : List Role :=
  segments.filterMap fun
    | .tag inner => role? inner
    | .plain _ => none

/-- The block tags of a template. -/
def blockTags (template : Text) : List Role := roles (cut template)

/-- Reads block tags with a stack of open blocks, which must be empty in the end. A closer closes
the innermost block only if it is of its type, a bare `end` whatever it is. The answer has the
closers in place of the `end`s. -/
def resolve? : (opened : List Block) → List Role → Option (List Role)
  | [], [] => some []
  | opened, .opens b :: rest => (resolve? (b :: opened) rest).map (.opens b :: ·)
  | b :: outer, .closes b' :: rest =>
    if b' = b then (resolve? outer rest).map (.closes b :: ·) else none
  | b :: outer, .ends true :: rest => (resolve? outer rest).map (.closes b :: ·)
  | _, _ => none

/-- Reading the block tags of the template never fails and ends with no block open. -/
def WellNested (template : Text) : Prop := (resolve? [] (blockTags template)).isSome

instance (template : Text) : Decidable (WellNested template) :=
  inferInstanceAs (Decidable (_ = true))

/-- How many blocks are open behind the segments if every closer closes one of any type. -/
def openAfter : (opened : Nat) → List Segment → Nat
  | opened, [] => opened
  | opened, .plain _ :: rest => openAfter opened rest
  | opened, .tag inner :: rest =>
    match role? inner with
    | some (.opens _) => openAfter (opened + 1) rest
    | some (.closes _) => openAfter (opened - 1) rest
    | some (.ends _) => openAfter (opened - 1) rest
    | none => openAfter opened rest

/-- A tag behind the segments is an `end` that has other words or finds no open block. -/
def IsStray (opened : Nat) (before : List Segment) (inner : Text) : Prop :=
  role? inner = some (.ends false) ∨ role? inner = some (.ends true) ∧ openAfter opened before = 0

/-- The first stray `end` among the segments stands behind `before`. -/
structure FirstStray (opened : Nat) (segments before : List Segment) (inner : Text) : Prop where
  among : ∃ after, segments = before ++ .tag inner :: after
  stray : IsStray opened before inner
  first : ∀ before' inner' after', before = before' ++ .tag inner' :: after' →
    ¬ IsStray opened before' inner'

theorem roles_tag {inner : Text} {role : Role} (is : role? inner = some role)
    (rest : List Segment) : roles (.tag inner :: rest) = role :: roles rest :=
  List.filterMap_cons_some is

theorem roles_tag_none {inner : Text} (is : role? inner = none) (rest : List Segment) :
    roles (.tag inner :: rest) = roles rest :=
  List.filterMap_cons_none is

/-! ### Roles by first words -/

theorem role?_of_keyword {inner : Text} {b : Block} (word : firstWord inner = b.keyword) :
    role? inner = some (.opens b) := by
  cases b <;> rw [role?, word] <;> rfl

theorem role?_of_closer {inner : Text} {b : Block} (word : firstWord inner = b.closer) :
    role? inner = some (.closes b) := by
  cases b <;> rw [role?, word] <;> rfl

theorem role?_of_end {inner : Text} (word : firstWord inner = "end") :
    role? inner = some (.ends (inner.trim = "end")) := by
  rw [role?, word]
  rfl

theorem role?_eq_none {inner : Text} (noOpener : ∀ b : Block, firstWord inner ≠ b.keyword)
    (noCloser : ∀ b : Block, firstWord inner ≠ b.closer) (noEnd : firstWord inner ≠ "end") :
    role? inner = none := by
  simp only [role?, noOpener, noCloser, noEnd, if_false]

theorem role?_of_bare {inner : Text} (bare : inner.trim = "end") :
    role? inner = some (.ends true) := by
  have word : firstWord inner = "end" := by
    rw [← firstWord_trim, bare]
    decide
  rw [role?_of_end word, decide_eq_true bare]

theorem role?_loopTag (target source : Text) (line lines : Nat) :
    role? (loopTag target source line lines) = some (.opens .loop) := by
  refine role?_of_keyword ?_
  have word := firstWord_of_word (c := .char ' ') "for"
    (.char ' ' :: (target ++ " in _iterate(" ++ source ++ ", " ++ Text.ofNat line ++ ")" ++
      newlines lines ++ " ")) (by decide) (by decide) (by decide) (by simp; decide)
  simpa [loopTag, Text.ofString, Block.keyword] using word

theorem role?_closingTag (b : Block) (lines : Nat) :
    role? (closingTag b lines) = some (.closes b) :=
  role?_of_closer (firstWord_closingTag b lines)

theorem role?_customTag (index : Nat) (name payload : Text) (lines : Nat) :
    role? (customTag index name payload lines) = none := by
  have word : firstWord (customTag index name payload lines) = "customtag" := by
    have word := firstWord_of_word (c := .char ' ') "customtag"
      (.char ' ' :: (Text.ofNat index ++ ", " ++ name.quoted ++ ", " ++ payload.quoted ++
        newlines lines ++ " ")) (by decide) (by decide) (by decide) (by simp; decide)
    simpa [customTag, Text.ofString] using word
  refine role?_eq_none ?_ ?_ ?_
  · rintro (_ | _) <;> rw [word] <;> decide
  · rintro (_ | _) <;> rw [word] <;> decide
  · rw [word]
    decide

/-- What expansion does with a tag, by the role of the tag. -/
inductive RoleExpansion (opened : List Block) (line : Nat) (inner : Text) :
    Except SyntaxFlaw (Text × List Block) → Prop where
  | opens {b : Block} {inner' : Text} (role : role? inner = some (.opens b))
      (role' : role? inner' = some (.opens b)) :
      RoleExpansion opened line inner (.ok (inner', b :: opened))
  | closes {b : Block} (role : role? inner = some (.closes b)) :
      RoleExpansion opened line inner (.ok (inner, opened.drop 1))
  | ends {b : Block} {outer : List Block} {inner' : Text} (role : role? inner = some (.ends true))
      (innermost : opened = b :: outer) (role' : role? inner' = some (.closes b)) :
      RoleExpansion opened line inner (.ok (inner', outer))
  | stray {bare : Bool} (role : role? inner = some (.ends bare))
      (stray : bare = false ∨ opened = []) :
      RoleExpansion opened line inner (.error ⟨.strayEnd inner.trim, line⟩)
  | other {inner' : Text} (role : role? inner = none) (role' : role? inner' = none) :
      RoleExpansion opened line inner (.ok (inner', opened))

theorem roleExpansion_of_tag (tags : List Tag) (opened : List Block) (line : Nat) (inner : Text) :
    RoleExpansion opened line inner (Expansion.tag tags opened line inner) := by
  have expansion := expansion_of_tag tags opened line inner
  generalize Expansion.tag tags opened line inner = outcome at expansion
  cases expansion with
  | branch word => exact .opens (role?_of_keyword word) (role?_of_keyword word)
  | loop word parts => exact .opens (role?_of_keyword word) (role?_loopTag _ _ _ _)
  | looseLoop word noParts => exact .opens (role?_of_keyword word) (role?_of_keyword word)
  | closer b word => exact .closes (role?_of_closer word)
  | ended bare innermost => exact .ends (role?_of_bare bare) innermost (role?_closingTag _ _)
  | stray word stray =>
    refine .stray (role?_of_end word) (stray.imp_left fun wordy => ?_)
    exact decide_eq_false wordy
  | custom word owner =>
    refine .other (role?_eq_none ?_ ?_ ?_) (role?_customTag _ _ _ _)
    · rintro (_ | _) is <;> exact word (is ▸ by decide)
    · rintro (_ | _) is <;> exact word (is ▸ by decide)
    · intro is
      exact word (is ▸ by decide)
  | other notIf notFor noCloser notEnd free =>
    have role := role?_eq_none (fun b => by cases b <;> assumption) noCloser notEnd
    exact .other role role

theorem tag_of_role?_none {inner : Text} (role : role? inner = none) (tags : List Tag)
    (opened : List Block) (line : Nat) :
    ∃ inner', Expansion.tag tags opened line inner = .ok (inner', opened) ∧
      role? inner' = none := by
  have expansion := roleExpansion_of_tag tags opened line inner
  generalize Expansion.tag tags opened line inner = outcome at expansion ⊢
  cases expansion with
  | opens is => cases role.symm.trans is
  | closes is => cases role.symm.trans is
  | ends is => cases role.symm.trans is
  | stray is => cases role.symm.trans is
  | other _ role' => exact ⟨_, rfl, role'⟩

theorem role?_eq_none_of_tag {tags : List Tag} {opened opened' : List Block} {line : Nat}
    {inner inner' : Text} (done : Expansion.tag tags opened line inner = .ok (inner', opened'))
    (role' : role? inner' = none) : role? inner = none ∧ opened' = opened := by
  have expansion := roleExpansion_of_tag tags opened line inner
  rw [done] at expansion
  cases expansion with
  | opens _ is => cases role'.symm.trans is
  | closes is => cases role'.symm.trans is
  | ends _ _ is => cases role'.symm.trans is
  | other role => exact ⟨role, rfl⟩

/-! ### Well-nested templates -/

/-- What one block tag is resolved to, and which blocks are open behind it. -/
inductive Reads : List Block → Role → Role → List Block → Prop where
  | opens {opened : List Block} {b : Block} : Reads opened (.opens b) (.opens b) (b :: opened)
  | closes {outer : List Block} {b : Block} : Reads (b :: outer) (.closes b) (.closes b) outer
  | ends {outer : List Block} {b : Block} : Reads (b :: outer) (.ends true) (.closes b) outer

section Reads

variable {tags : List Tag} {opened opened' opened'' : List Block} {line : Nat}
  {role role' role'' : Role} {inner inner' : Text}

/-- The block tags are resolved one after the other. -/
theorem resolve?_cons_iff {rest resolved : List Role} :
    resolve? opened (role :: rest) = some resolved ↔
      ∃ role' opened' later, Reads opened role role' opened' ∧
        resolve? opened' rest = some later ∧ resolved = role' :: later := by
  constructor
  · intro nested
    cases role with
    | opens b =>
      rw [resolve?] at nested
      obtain ⟨later, below, rfl⟩ := Option.map_eq_some_iff.mp nested
      exact ⟨_, _, later, .opens, below, rfl⟩
    | closes b' =>
      cases opened with
      | nil => cases nested
      | cons b outer =>
        rw [resolve?] at nested
        split at nested
        · rename_i same
          obtain ⟨later, below, rfl⟩ := Option.map_eq_some_iff.mp nested
          exact ⟨_, _, later, same ▸ .closes, below, rfl⟩
        · cases nested
    | ends bare =>
      cases opened with
      | nil => cases bare <;> cases nested
      | cons b outer =>
        cases bare with
        | false => cases nested
        | true =>
          rw [resolve?] at nested
          obtain ⟨later, below, rfl⟩ := Option.map_eq_some_iff.mp nested
          exact ⟨_, _, later, .ends, below, rfl⟩
  · rintro ⟨role', opened', later, reads, below, rfl⟩
    cases reads with
    | opens => rw [resolve?, below, Option.map_some]
    | closes => rw [resolve?, if_pos rfl, below, Option.map_some]
    | ends => rw [resolve?, below, Option.map_some]

/-- What a block tag is resolved to is resolved to itself. -/
theorem Reads.again (reads : Reads opened role role' opened') :
    Reads opened role' role' opened' := by
  cases reads with
  | opens => exact .opens
  | closes => exact .closes
  | ends => exact .closes

theorem Reads.ne_ends (reads : Reads opened role role' opened') (bare : Bool) :
    .ends bare ≠ role' := by
  cases reads <;> nofun

/-- A tag that can be resolved is expanded to one with the resolved role. -/
theorem Reads.tag (reads : Reads opened role role' opened') (is : role? inner = some role)
    (tags : List Tag) (line : Nat) :
    ∃ inner', Expansion.tag tags opened line inner = .ok (inner', opened') ∧
      role? inner' = some role' := by
  have expansion := roleExpansion_of_tag tags opened line inner
  generalize Expansion.tag tags opened line inner = outcome at expansion ⊢
  cases expansion with
  | opens same is' =>
    cases is.symm.trans same
    cases reads
    exact ⟨_, rfl, is'⟩
  | closes same =>
    cases is.symm.trans same
    cases reads
    exact ⟨_, rfl, same⟩
  | ends same innermost is' =>
    cases is.symm.trans same
    cases reads
    cases innermost
    exact ⟨_, rfl, is'⟩
  | stray same stray =>
    cases is.symm.trans same
    cases reads
    rcases stray with no | no <;> cases no
  | other same => cases is.symm.trans same

/-- If the expanded tag can be resolved, so can the tag that it comes from, to the same role. -/
theorem Reads.of_tag (done : Expansion.tag tags opened line inner = .ok (inner', opened'))
    (is' : role? inner' = some role') (reads : Reads opened role' role'' opened'') :
    ∃ role, role? inner = some role ∧ Reads opened role role'' opened' ∧ opened'' = opened' := by
  have expansion := roleExpansion_of_tag tags opened line inner
  rw [done] at expansion
  cases expansion with
  | opens is same =>
    cases is'.symm.trans same
    cases reads
    exact ⟨_, is, .opens, rfl⟩
  | closes is =>
    cases is'.symm.trans is
    cases reads
    exact ⟨_, is, .closes, rfl⟩
  | ends is innermost same =>
    cases is'.symm.trans same
    cases reads
    cases innermost
    exact ⟨_, is, .ends, rfl⟩
  | other _ none => cases is'.symm.trans none

end Reads

/-- Resolved block tags have no `end`, and resolving them again changes nothing. -/
theorem resolved_of_resolve? {opened : List Block} {tags resolved : List Role}
    (nested : resolve? opened tags = some resolved) :
    resolve? opened resolved = some resolved ∧ ∀ bare, .ends bare ∉ resolved := by
  induction tags generalizing opened resolved with
  | nil =>
    cases opened with
    | nil =>
      cases nested
      exact ⟨rfl, fun bare => List.not_mem_nil⟩
    | cons b outer => cases nested
  | cons role rest inductionHypothesis =>
    obtain ⟨role', opened', later, reads, below, rfl⟩ := resolve?_cons_iff.mp nested
    obtain ⟨again, noEnd⟩ := inductionHypothesis below
    refine ⟨resolve?_cons_iff.mpr ⟨role', opened', later, reads.again, again, rfl⟩, fun bare => ?_⟩
    exact List.not_mem_cons_of_ne_of_not_mem (reads.ne_ends bare) (noEnd bare)

/-- A template whose block tags can be resolved is expanded, and they become the resolved ones. -/
theorem segments_of_nested {tags : List Tag} {opened : List Block} {segments : List Segment}
    {resolved : List Role} (nested : resolve? opened (roles segments) = some resolved)
    (line : Nat) :
    ∃ segments', Expansion.segments tags opened line segments = .ok segments' ∧
      roles segments' = resolved := by
  induction segments generalizing opened line resolved with
  | nil =>
    cases opened with
    | nil =>
      cases nested
      exact ⟨[], rfl, rfl⟩
    | cons b outer => cases nested
  | cons s rest inductionHypothesis =>
    cases s with
    | plain t =>
      obtain ⟨rest', expanded, is⟩ := inductionHypothesis nested (line + t.countNewlines)
      exact ⟨.plain t :: rest', segments_plain_eq_ok_iff.mpr ⟨rest', expanded, rfl⟩, is⟩
    | tag inner =>
      cases is : role? inner with
      | none =>
        rw [roles_tag_none is] at nested
        obtain ⟨inner', first, is'⟩ := tag_of_role?_none is tags opened line
        obtain ⟨rest', expanded, rfl⟩ := inductionHypothesis nested (line + inner.countNewlines)
        exact ⟨.tag inner' :: rest', segments_tag_eq_ok_iff.mpr ⟨_, _, _, first, expanded, rfl⟩,
          roles_tag_none is' rest'⟩
      | some role =>
        rw [roles_tag is] at nested
        obtain ⟨role', opened', later, reads, below, rfl⟩ := resolve?_cons_iff.mp nested
        obtain ⟨inner', first, is'⟩ := reads.tag is tags line
        obtain ⟨rest', expanded, rfl⟩ := inductionHypothesis below (line + inner.countNewlines)
        exact ⟨.tag inner' :: rest', segments_tag_eq_ok_iff.mpr ⟨_, _, _, first, expanded, rfl⟩,
          roles_tag is' rest'⟩

/-- If the expanded block tags can be resolved, so can the ones they come from. -/
theorem nested_of_segments {tags : List Tag} {opened : List Block} {line : Nat}
    {segments segments' : List Segment} {resolved : List Role}
    (expanded : Expansion.segments tags opened line segments = .ok segments')
    (nested : resolve? opened (roles segments') = some resolved) :
    resolve? opened (roles segments) = some resolved := by
  induction segments generalizing opened line segments' resolved with
  | nil =>
    cases expanded
    exact nested
  | cons s rest inductionHypothesis =>
    cases s with
    | plain t =>
      obtain ⟨rest', later, rfl⟩ := segments_plain_eq_ok_iff.mp expanded
      exact inductionHypothesis later nested
    | tag inner =>
      obtain ⟨inner', opened', rest', first, later, rfl⟩ := segments_tag_eq_ok_iff.mp expanded
      cases is' : role? inner' with
      | none =>
        obtain ⟨is, rfl⟩ := role?_eq_none_of_tag first is'
        rw [roles_tag_none is'] at nested
        rw [roles_tag_none is]
        exact inductionHypothesis later nested
      | some role' =>
        rw [roles_tag is'] at nested
        obtain ⟨role'', opened'', after, reads, below, rfl⟩ := resolve?_cons_iff.mp nested
        obtain ⟨role, is, reads, rfl⟩ := reads.of_tag first is'
        rw [roles_tag is]
        exact resolve?_cons_iff.mpr ⟨_, _, _, reads, inductionHypothesis later below, rfl⟩

/-! ### Stray ends -/

/-- A tag that is expanded opens and closes as many blocks as it does for the expansion, and it is
no stray `end`. -/
theorem openAfter_of_tag {tags : List Tag} {opened opened' : List Block} {line : Nat}
    {inner inner' : Text} (done : Expansion.tag tags opened line inner = .ok (inner', opened')) :
    (∀ rest, openAfter opened.length (.tag inner :: rest) = openAfter opened'.length rest) ∧
      ¬ IsStray opened.length [] inner := by
  have expansion := roleExpansion_of_tag tags opened line inner
  rw [done] at expansion
  cases expansion with
  | opens role => exact ⟨fun rest => by rw [openAfter, role]; rfl, by simp [IsStray, role]⟩
  | closes role =>
    refine ⟨fun rest => ?_, by simp [IsStray, role]⟩
    rw [openAfter, role, List.length_drop]
  | ends role innermost =>
    subst innermost
    exact ⟨fun rest => by rw [openAfter, role]; rfl, by simp [IsStray, role, openAfter]⟩
  | other role => exact ⟨fun rest => by rw [openAfter, role], by simp [IsStray, role]⟩

theorem stray_of_tag {tags : List Tag} {opened : List Block} {line : Nat} {inner : Text}
    {flaw : SyntaxFlaw} (fails : Expansion.tag tags opened line inner = .error flaw) :
    IsStray opened.length [] inner ∧ flaw = ⟨.strayEnd inner.trim, line⟩ := by
  have expansion := roleExpansion_of_tag tags opened line inner
  rw [fails] at expansion
  cases expansion with
  | @stray bare role stray =>
    refine ⟨?_, rfl⟩
    cases bare with
    | false => exact .inl role
    | true => exact .inr ⟨role, by simpa [openAfter] using stray⟩

/-- The first stray `end` of the rest is the first of all if the segment in front is not one. -/
theorem firstStray_cons_iff {opened opened' : Nat} {s : Segment} {rest before : List Segment}
    {inner : Text} (steps : ∀ more, openAfter opened (s :: more) = openAfter opened' more)
    (fine : ∀ inner, s = .tag inner → ¬ IsStray opened [] inner) :
    FirstStray opened (s :: rest) before inner ↔
      ∃ before', before = s :: before' ∧ FirstStray opened' rest before' inner := by
  have same (before : List Segment) (inner : Text) :
      IsStray opened (s :: before) inner ↔ IsStray opened' before inner := by
    rw [IsStray, steps, IsStray]
  constructor
  · rintro ⟨⟨after, split⟩, stray, first⟩
    cases before with
    | nil =>
      cases split
      exact absurd stray (fine inner rfl)
    | cons s' before' =>
      cases split
      refine ⟨before', rfl, ⟨after, rfl⟩, (same before' inner).mp stray, ?_⟩
      rintro before₁ inner₁ after₁ rfl stray₁
      exact first (s :: before₁) inner₁ after₁ rfl ((same before₁ inner₁).mpr stray₁)
  · rintro ⟨before', rfl, ⟨after, rfl⟩, stray, first⟩
    refine ⟨⟨after, rfl⟩, (same before' inner).mpr stray, ?_⟩
    rintro before₁ inner₁ after₁ split stray₁
    cases before₁ with
    | nil =>
      cases split
      exact fine inner₁ rfl stray₁
    | cons s' before₁ =>
      cases split
      exact first before₁ inner₁ after₁ rfl ((same before₁ inner₁).mp stray₁)

theorem firstStray_here_iff {opened : Nat} {inner inner' : Text} {rest before : List Segment}
    (stray : IsStray opened [] inner) :
    FirstStray opened (.tag inner :: rest) before inner' ↔ before = [] ∧ inner' = inner := by
  constructor
  · rintro ⟨⟨after, split⟩, -, first⟩
    cases before with
    | nil =>
      cases split
      exact ⟨rfl, rfl⟩
    | cons s before' =>
      cases split
      exact absurd stray (first [] inner before' rfl)
  · rintro ⟨rfl, rfl⟩
    exact ⟨⟨rest, rfl⟩, stray, fun before' inner' after' split => by simp at split⟩

/-- Where there is a stray `end`, there is a first one. -/
theorem exists_firstStray {opened : Nat} {segments before after : List Segment} {inner : Text}
    (among : segments = before ++ .tag inner :: after) (stray : IsStray opened before inner) :
    ∃ before' inner', FirstStray opened segments before' inner' := by
  induction size : before.length using Nat.strong_induction_on generalizing before inner after with
  | _ n inductionHypothesis =>
    subst size
    by_cases earlier : ∃ before' inner' after', before = before' ++ .tag inner' :: after' ∧
        IsStray opened before' inner'
    · obtain ⟨before', inner', after', rfl, stray'⟩ := earlier
      have among' : segments = before' ++ .tag inner' :: (after' ++ .tag inner :: after) := by
        rw [among, List.append_assoc, List.cons_append]
      exact inductionHypothesis before'.length (by simp) among' stray' rfl
    · refine ⟨before, inner, ⟨after, among⟩, stray, fun before' inner' after' split stray' => ?_⟩
      exact earlier ⟨before', inner', after', split, stray'⟩

theorem countNewlines_block (inner : Text) : (Mark.block inner).countNewlines =
    inner.countNewlines := by
  have marks : Mark.blockOpen.countNewlines = 0 ∧ Mark.blockClose.countNewlines = 0 := by decide
  rw [Mark.block, countNewlines_append, countNewlines_append, marks.1, marks.2]
  omega

/-- Behind a segment that is no stray `end` the lines are counted on. -/
theorem firstStray_behind_iff {opened opened' line : Nat} {s : Segment} {rest : List Segment}
    {flaw : SyntaxFlaw} (steps : ∀ more, openAfter opened (s :: more) = openAfter opened' more)
    (fine : ∀ inner, s = .tag inner → ¬ IsStray opened [] inner) :
    (∃ before inner, FirstStray opened (s :: rest) before inner ∧
        flaw = ⟨.strayEnd inner.trim, line + (join before).countNewlines⟩) ↔
      ∃ before inner, FirstStray opened' rest before inner ∧
        flaw = ⟨.strayEnd inner.trim, line + s.text.countNewlines + (join before).countNewlines⟩ := by
  constructor
  · rintro ⟨before, inner, first, rfl⟩
    obtain ⟨before', rfl, first'⟩ := (firstStray_cons_iff steps fine).mp first
    refine ⟨before', inner, first', ?_⟩
    rw [join_cons, countNewlines_append, Nat.add_assoc]
  · rintro ⟨before, inner, first, rfl⟩
    refine ⟨s :: before, inner, (firstStray_cons_iff steps fine).mpr ⟨before, rfl, first⟩, ?_⟩
    rw [join_cons, countNewlines_append, Nat.add_assoc]

/-- Expansion fails at the first stray `end`, on its line, and for no other reason. -/
theorem segments_eq_error_iff {tags : List Tag} {opened : List Block} {line : Nat}
    {segments : List Segment} {flaw : SyntaxFlaw} :
    Expansion.segments tags opened line segments = .error flaw ↔
      ∃ before inner, FirstStray opened.length segments before inner ∧
        flaw = ⟨.strayEnd inner.trim, line + (join before).countNewlines⟩ := by
  induction segments generalizing opened line with
  | nil =>
    refine iff_of_false nofun ?_
    rintro ⟨before, inner, ⟨⟨after, split⟩, -, -⟩, -⟩
    simp at split
  | cons s rest inductionHypothesis =>
    cases s with
    | plain t =>
      rw [segments_plain_eq_error_iff, inductionHypothesis]
      have steps (more : List Segment) :
          openAfter opened.length (.plain t :: more) = openAfter opened.length more := by
        rw [openAfter]
      exact (firstStray_behind_iff steps fun _ is => by cases is).symm
    | tag inner =>
      rcases first : Expansion.tag tags opened line inner with why | ⟨inner', opened'⟩
      · obtain ⟨strays, rfl⟩ := stray_of_tag first
        rw [segments_tag_of_error first]
        simp only [firstStray_here_iff strays]
        constructor
        · intro is
          exact ⟨[], inner, ⟨rfl, rfl⟩, (Except.error.inj is).symm⟩
        · rintro ⟨_, _, ⟨rfl, rfl⟩, rfl⟩
          rfl
      · obtain ⟨steps, fine⟩ := openAfter_of_tag first
        rw [segments_tag_eq_error_iff first, inductionHypothesis, ← countNewlines_block]
        exact (firstStray_behind_iff steps fun _ is => Segment.tag.inj is ▸ fine).symm

/-- Expansion fails where it does not succeed. -/
theorem expand_eq_error_iff {tags : List Tag} {template : Text} {flaw : SyntaxFlaw} :
    expand tags template = .error flaw ↔
      ∃ before inner, FirstStray 0 (cut template) before inner ∧
        flaw = ⟨.strayEnd inner.trim, 1 + (join before).countNewlines⟩ := by
  rw [expand, except_bind_error, segments_eq_error_iff]
  refine or_iff_left ?_
  rintro ⟨segments', -, no⟩
  cases no

/-- Expansion takes well-nested templates to well-nested ones without an `end`, in which every
`end` has become the closer of the block that it closed, and it takes no other template to a
well-nested one. It fails exactly if there is a stray `end`, and names the line of the first. -/
theorem nesting_of_expand (tags : List Tag) (template : Text) :
    (∀ resolved, resolve? [] (blockTags template) = some resolved →
      ∃ out, expand tags template = .ok out ∧ blockTags out = resolved ∧ WellNested out ∧
        ∀ bare, .ends bare ∉ blockTags out) ∧
    (∀ out, expand tags template = .ok out → WellNested out → WellNested template) ∧
    ((∃ flaw, expand tags template = .error flaw) ↔
      ∃ before inner after, cut template = before ++ .tag inner :: after ∧
        IsStray 0 before inner) ∧
    ∀ flaw, expand tags template = .error flaw ↔
      ∃ before inner, FirstStray 0 (cut template) before inner ∧
        flaw = ⟨.strayEnd inner.trim, 1 + (join before).countNewlines⟩ := by
  refine ⟨?_, ?_, ?_, fun flaw => expand_eq_error_iff⟩
  · intro resolved nested
    obtain ⟨segments', expanded, rfl⟩ := segments_of_nested nested 1
    obtain ⟨done, same⟩ := expand_of_segments expanded
    obtain ⟨again, noEnd⟩ := resolved_of_resolve? nested
    have is : blockTags (join segments') = roles segments' := by rw [blockTags, same]
    refine ⟨join segments', done, is, ?_, fun bare => is ▸ noEnd bare⟩
    rw [WellNested, is, again]
    rfl
  · intro out expanded nested
    obtain ⟨resolved, is⟩ := Option.isSome_iff_exists.mp nested
    rw [WellNested, blockTags, nested_of_segments (expand_eq_ok_iff.mp expanded) is]
    rfl
  · constructor
    · rintro ⟨flaw, fails⟩
      obtain ⟨before, inner, ⟨⟨after, split⟩, stray, -⟩, -⟩ := expand_eq_error_iff.mp fails
      exact ⟨before, inner, after, split, stray⟩
    · rintro ⟨before, inner, after, split, stray⟩
      obtain ⟨before', inner', first⟩ := exists_firstStray split stray
      exact ⟨_, expand_eq_error_iff.mpr ⟨before', inner', first, rfl⟩⟩

/-- A nested loop is resolved. Behind a closer of the wrong type an `end` is stray. -/
theorem nesting_of_expand_mixed :
    (∃ out,
      expand [] "\x7b% if a %\x7d\x7b% for b in c %\x7d\x7b% end %\x7d\x7b% endif %\x7d" = .ok out ∧
      blockTags out = [.opens .branch, .opens .loop, .closes .loop, .closes .branch]) ∧
    ∃ flaw, expand [] "\x7b% if a %\x7d\x7b% endfor %\x7d\n\x7b% end %\x7d" = .error flaw := by
  constructor
  · have nested := nesting_of_expand []
      "\x7b% if a %\x7d\x7b% for b in c %\x7d\x7b% end %\x7d\x7b% endif %\x7d"
    obtain ⟨out, done, is, -, -⟩ :=
      nested.1 [.opens .branch, .opens .loop, .closes .loop, .closes .branch] (by decide +kernel)
    exact ⟨out, done, is⟩
  · have stray := nesting_of_expand [] "\x7b% if a %\x7d\x7b% endfor %\x7d\n\x7b% end %\x7d"
    exact stray.2.2.1.mpr ⟨[.tag " if a ", .tag " endfor ", .plain "\n"], " end ", [],
      by decide +kernel, .inr (by decide +kernel)⟩

end HaxeBuild.Template
