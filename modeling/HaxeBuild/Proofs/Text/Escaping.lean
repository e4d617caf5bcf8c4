import HaxeBuild.Proofs.Text.Trimming
import HaxeBuild.Text.Literal
import HaxeBuild.Text.Quoted
import Mathlib.Algebra.Group.Nat.Defs

namespace HaxeBuild

namespace Code

/-- The sixteen-bit units of a code point, each read as a code point of its own. -/
def halves (c : Code) : Text := c.units16.filterMap ofNat?

/-- The code point takes one sixteen-bit unit. -/
def IsBasic (c : Code) : Prop := c.val < 0x10000

instance (c : Code) : Decidable c.IsBasic := inferInstanceAs (Decidable (_ < _))

/-- A character is found again from its number. -/
@[simp] theorem ofNat?_val (c : Code) : ofNat? c.val = some c := by
  cases c with
  | char c =>
    have valid : c.toNat < 0xD800 ∨ 0xDFFF < c.toNat ∧ c.toNat < 0x110000 := c.valid
    have surrogate : ¬ (0xD800 ≤ c.toNat ∧ c.toNat < 0xE000) := by omega
    have inRange : c.toNat < 0x110000 := by omega
    simp only [ofNat?, val, surrogate, dite_false, inRange, if_true, Char.ofNat_toNat]
  | half offset =>
    have small := offset.isLt
    have surrogate : 0xD800 ≤ 0xD800 + offset.val ∧ 0xD800 + offset.val < 0xE000 := by omega
    rw [ofNat?, val, dif_pos surrogate]
    exact congrArg (some ∘ half) (Fin.ext (Nat.add_sub_cancel_left 0xD800 offset.val))

/-- The numbers of characters end with the last plane. -/
theorem val_lt (c : Code) : c.val < 0x110000 := by
  cases c with
  | char c =>
    have valid : c.toNat < 0xD800 ∨ 0xDFFF < c.toNat ∧ c.toNat < 0x110000 := c.valid
    simp only [val]
    omega
  | half offset =>
    have small := offset.isLt
    simp only [val]
    omega

/-- A character of the basic plane is one unit. -/
theorem units16_of_basic {c : Code} (basic : c.IsBasic) : c.units16 = [c.val] := by
  rw [units16]
  exact if_pos basic

/-- A character of the basic plane stays whole. -/
theorem halves_of_basic {c : Code} (basic : c.IsBasic) : c.halves = [c] := by
  simp [halves, units16_of_basic basic]

/-- Every unit of a code point is one half of a pair, or the code point itself. -/
theorem exists_of_mem_units16 {c : Code} {unit : Nat} (among : unit ∈ c.units16) :
    ∃ d : Code, d.IsBasic ∧ unit = d.val := by
  have bound := c.val_lt
  by_cases basic : c.IsBasic
  · rw [units16_of_basic basic, List.mem_singleton] at among
    exact ⟨c, basic, among⟩
  · have astral : ¬ c.val < 0x10000 := basic
    simp only [units16, astral, if_false, List.mem_cons, List.not_mem_nil, or_false] at among
    have isHalf : 0xD800 ≤ unit ∧ unit < 0xE000 := by omega
    refine ⟨.half ⟨unit - 0xD800, by omega⟩, ?_, ?_⟩
    · simp only [IsBasic, val]
      omega
    · simp only [val]
      omega

/-- A character of another plane has two halves. -/
theorem length_halves_of_not_basic {c : Code} (astral : ¬ c.IsBasic) : c.halves.length = 2 := by
  have units : c.units16.length = 2 := by
    have beyond : ¬ c.val < 0x10000 := astral
    simp [units16, beyond]
  have read : ∀ unit ∈ c.units16, (ofNat? unit).isSome = true := by
    intro unit among
    obtain ⟨d, -, rfl⟩ := exists_of_mem_units16 among
    rw [ofNat?_val]
    rfl
  rw [halves, ← units]
  generalize c.units16 = units at read
  induction units with
  | nil => rfl
  | cons unit units inductionHypothesis =>
    have ⟨first, later⟩ := List.forall_mem_cons.mp read
    obtain ⟨d, is⟩ := Option.isSome_iff_exists.mp first
    rw [List.filterMap_cons_some is, List.length_cons, inductionHypothesis later, List.length_cons]

/-- What can stand in an escape. -/
def escapeCodes : Text := "\\\"nrtbfu0123456789abcdef"

/-- A code point is quoted as itself, as a backslash and a letter that stands for it, or as numbered
units. -/
theorem quoted_cases (c : Code) :
    (c.quoted = [c] ∧ 32 ≤ c.val ∧ c.val ≤ 126 ∧ c ≠ .char '"' ∧ c ≠ .char '\\') ∨
      (∃ s ∈ ("\"\\nrtbf" : Text), c.quoted = [.char '\\', s] ∧ Text.simpleEscape s = [c]) ∨
      c.quoted = c.units16.flatMap fun unit => ("\\u" : Text) ++ Text.hex 4 unit := by
  unfold quoted
  split
  · exact .inr (.inl ⟨.char '"', by decide, rfl, rfl⟩)
  · exact .inr (.inl ⟨.char '\\', by decide, rfl, rfl⟩)
  · exact .inr (.inl ⟨.char 'n', by decide, rfl, rfl⟩)
  · exact .inr (.inl ⟨.char 'r', by decide, rfl, rfl⟩)
  · exact .inr (.inl ⟨.char 't', by decide, rfl, rfl⟩)
  · exact .inr (.inl ⟨.char 'b', by decide, rfl, rfl⟩)
  · exact .inr (.inl ⟨.char 'f', by decide, rfl, rfl⟩)
  · rename_i noQuote noBackslash _ _ _ _ _
    split
    · rename_i printable
      simp only [Bool.and_eq_true, decide_eq_true_eq] at printable
      exact .inl ⟨rfl, printable.1, printable.2, noQuote, noBackslash⟩
    · exact .inr (.inr rfl)

/-- The digits below sixteen. -/
theorem digitChar_mem (n : Nat) (small : n < 16) :
    Code.char (Nat.digitChar n) ∈ ("0123456789abcdef" : Text) := by
  revert n
  decide

/-- A hexadecimal number consists of such digits. -/
theorem mem_hex {digits n : Nat} {d : Code} (among : d ∈ Text.hex digits n) :
    d ∈ ("0123456789abcdef" : Text) := by
  induction digits generalizing n with
  | zero => cases among
  | succ digits inductionHypothesis =>
    rw [Text.hex, List.mem_append, List.mem_singleton] at among
    rcases among with early | rfl
    · exact inductionHypothesis early
    · exact digitChar_mem _ (Nat.mod_lt _ (by decide))

/-- A code point that is not quoted as itself is quoted with the characters of escapes only. -/
theorem quoted_eq_self_or_escape (c : Code) :
    (c.quoted = [c] ∧ 32 ≤ c.val ∧ c.val ≤ 126) ∨ ∀ d ∈ c.quoted, d ∈ escapeCodes := by
  rcases c.quoted_cases with ⟨is, low, high, -, -⟩ | ⟨s, short, is, -⟩ | is
  · exact .inl ⟨is, low, high⟩
  · right
    have letters : ∀ s ∈ ("\"\\nrtbf" : Text), ∀ d ∈ [.char '\\', s], d ∈ escapeCodes := by decide
    rw [is]
    exact letters s short
  · right
    have marks : ∀ d ∈ ("\\u" : Text), d ∈ escapeCodes := by decide
    have digits : ∀ d ∈ ("0123456789abcdef" : Text), d ∈ escapeCodes := by decide
    rw [is]
    intro d among
    obtain ⟨unit, -, inside⟩ := List.mem_flatMap.mp among
    rcases List.mem_append.mp inside with mark | digit
    · exact marks d mark
    · exact digits d (mem_hex digit)

/-- No character vanishes when it is quoted. -/
theorem quoted_ne_nil (c : Code) : c.quoted ≠ [] := by
  rcases c.quoted_cases with ⟨is, -⟩ | ⟨s, -, is, -⟩ | is
  · simp [is]
  · simp [is]
  · rw [is, units16]
    split <;> simp [Text.ofString]

/-- A code point that no escape uses comes from itself. -/
theorem eq_of_mem_quoted {c d : Code} (among : d ∈ c.quoted) (free : d ∉ escapeCodes) : d = c := by
  rcases c.quoted_eq_self_or_escape with ⟨is, -⟩ | escape
  · rw [is] at among
    exact List.mem_singleton.mp among
  · exact absurd (escape d among) free

end Code

namespace Text

/-- The text with every code point as its sixteen-bit units. -/
def halved (t : Text) : Text := t.flatMap Code.halves

/-- Every code point of the text takes one sixteen-bit unit. -/
def IsBasic (t : Text) : Prop := ∀ c ∈ t, c.IsBasic

instance (t : Text) : Decidable t.IsBasic := inferInstanceAs (Decidable (∀ c ∈ t, _))

/-- A text is halved character by character. -/
@[simp] theorem halved_cons (c : Code) (rest : Text) :
    halved (c :: rest) = c.halves ++ halved rest := rfl

/-- Quoted texts are printable ASCII. -/
theorem printable_of_mem_quoted {d : Code} {t : Text} (among : d ∈ t.quoted) :
    32 ≤ d.val ∧ d.val ≤ 126 := by
  have escapes : ∀ c ∈ Code.escapeCodes, 32 ≤ c.val ∧ c.val ≤ 126 := by decide
  have mark : ∀ c ∈ ("\"" : Text), 32 ≤ c.val ∧ c.val ≤ 126 := by decide
  simp only [Text.quoted, List.mem_append] at among
  rcases among with (opens | inside) | closes
  · exact mark d opens
  · obtain ⟨c, -, piece⟩ := List.mem_flatMap.mp inside
    rcases c.quoted_eq_self_or_escape with ⟨is, printable⟩ | escape
    · rw [is, List.mem_singleton] at piece
      rw [piece]
      exact printable
    · exact escapes d (escape d piece)
  · exact mark d closes

/-- A quoted text holds no control character. -/
theorem notMem_quoted {d : Code} (control : d.val < 32) (t : Text) : d ∉ t.quoted := by
  intro among
  have printable := printable_of_mem_quoted among
  omega

/-- Halving shortens no text. -/
theorem length_le_halved (t : Text) : t.length ≤ (halved t).length := by
  induction t with
  | nil => exact Nat.le_refl 0
  | cons c rest inductionHypothesis =>
    rw [halved_cons, List.length_append, List.length_cons]
    by_cases basic : c.IsBasic
    · rw [Code.halves_of_basic basic, List.length_singleton]
      omega
    · rw [Code.length_halves_of_not_basic basic]
      omega

/-- Only texts of the basic plane stay the same. -/
theorem halved_eq_self_iff {t : Text} : halved t = t ↔ t.IsBasic := by
  induction t with
  | nil => exact ⟨fun _ => List.forall_mem_nil _, fun _ => rfl⟩
  | cons c rest inductionHypothesis =>
    rw [halved_cons, IsBasic, List.forall_mem_cons]
    by_cases basic : c.IsBasic
    · rw [Code.halves_of_basic basic]
      simp only [List.singleton_append, List.cons.injEq, true_and, basic]
      exact inductionHypothesis
    · constructor
      · intro same
        have lengths := congrArg List.length same
        rw [List.length_append, Code.length_halves_of_not_basic basic, List.length_cons] at lengths
        have longer := length_le_halved rest
        omega
      · rintro ⟨is, -⟩
        exact absurd is basic

/-- A digit is read back. -/
theorem hexDigit?_digitChar (n : Nat) (small : n < 16) :
    hexDigit? (.char (Nat.digitChar n)) = some n := by
  revert n
  decide

/-- All digits but the last are added up. -/
theorem unescapeFrom_digits (form : Text) (more : Nat) {digits n : Nat} (inside : n < 16 ^ digits)
    (value : Nat) (rest : Text) :
    unescapeFrom (.hexadecimal form (digits + (more + 1)) value) (hex digits n ++ rest) =
      unescapeFrom (.hexadecimal form (more + 1) (value * 16 ^ digits + n)) rest := by
  induction digits generalizing n more rest with
  | zero =>
    have none : n = 0 := by omega
    simp [hex, none]
  | succ digits inductionHypothesis =>
    have front : n / 16 < 16 ^ digits := by
      rw [Nat.pow_succ] at inside
      omega
    have step := inductionHypothesis (more + 1) front (.char (Nat.digitChar (n % 16)) :: rest)
    have count : digits + 1 + (more + 1) = digits + (more + 1 + 1) := by omega
    have sum : (value * 16 ^ digits + n / 16) * 16 + n % 16 = value * 16 ^ (digits + 1) + n := by
      rw [Nat.pow_succ, ← Nat.mul_assoc]
      omega
    have several : ¬ more + 1 + 1 ≤ 1 := by omega
    rw [hex, List.append_assoc, List.singleton_append, count, step, unescapeFrom,
      hexDigit?_digitChar _ (Nat.mod_lt n (by decide))]
    dsimp only
    rw [if_neg several, sum, Nat.add_sub_cancel]

/-- A number is read as the code point that it numbers. -/
theorem unescapeFrom_number (form : Text) {digits : Nat} {c : Code}
    (inside : c.val < 16 ^ (digits + 1)) {rest resolved : Text}
    (later : unescapeFrom .plain rest = .ok resolved) :
    unescapeFrom (.hexadecimal form (digits + 1) 0) (hex (digits + 1) c.val ++ rest) =
      .ok (c :: resolved) := by
  have front : c.val / 16 < 16 ^ digits := by
    rw [Nat.pow_succ] at inside
    omega
  have sum : (0 * 16 ^ digits + c.val / 16) * 16 + c.val % 16 = c.val := by omega
  have read := unescapeFrom_digits form 0 front 0 (.char (Nat.digitChar (c.val % 16)) :: rest)
  rw [hex, List.append_assoc, List.singleton_append, read, unescapeFrom,
    hexDigit?_digitChar _ (Nat.mod_lt c.val (by decide))]
  dsimp only
  rw [if_pos (Nat.le_refl 1), sum, escapedCode, Code.ofNat?_val, later]
  rfl

/-- A numbered unit is read as the code point that it numbers. -/
theorem unescapeFrom_unit {c : Code} (basic : c.IsBasic) {rest resolved : Text}
    (later : unescapeFrom .plain rest = .ok resolved) :
    unescapeFrom .plain (("\\u" : Text) ++ hex 4 c.val ++ rest) = .ok (c :: resolved) :=
  unescapeFrom_number "\\uXXXX" basic later

/-- The shortest numeric escape of a code point is read as that code point. -/
theorem unescapeFrom_numericEscape (c : Code) {rest resolved : Text}
    (later : unescapeFrom .plain rest = .ok resolved) :
    unescapeFrom .plain (c.numericEscape ++ rest) = .ok (c :: resolved) := by
  have bound := c.val_lt
  unfold Code.numericEscape
  split
  · rename_i small
    exact unescapeFrom_number "\\xXX" small later
  · split
    · rename_i basic
      exact unescapeFrom_unit basic later
    · exact unescapeFrom_number "\\UXXXXXXXX" (by omega) later

/-- The escaped units of a character are read back as its halves. -/
theorem unescapeFrom_units {c : Code} {rest resolved : Text}
    (later : unescapeFrom .plain rest = .ok resolved) :
    unescapeFrom .plain
        ((c.units16.flatMap fun unit => ("\\u" : Text) ++ hex 4 unit) ++ rest) =
      .ok (c.halves ++ resolved) := by
  have each := fun unit (among : unit ∈ c.units16) => Code.exists_of_mem_units16 among
  rw [Code.halves]
  revert each
  generalize c.units16 = units
  intro each
  induction units with
  | nil => exact later
  | cons unit units inductionHypothesis =>
    obtain ⟨d, basic, rfl⟩ := each unit List.mem_cons_self
    have tail := inductionHypothesis fun unit among => each unit (List.mem_cons_of_mem _ among)
    rw [List.flatMap_cons, List.append_assoc, unescapeFrom_unit basic tail,
      List.filterMap_cons_some (Code.ofNat?_val d), List.cons_append]

/-- The letters that quoted texts have behind a backslash. -/
theorem mem_letters {s : Code} :
    s ∈ ("\"\\nrtbf" : Text) ↔ s = .char '"' ∨ s = .char '\\' ∨ s = .char 'n' ∨
      s = .char 'r' ∨ s = .char 't' ∨ s = .char 'b' ∨ s = .char 'f' := by
  simp [ofString]

/-- A letter after a backslash is read as what it stands for. -/
theorem unescapeFrom_short {s : Code} (short : s ∈ ("\"\\nrtbf" : Text)) (rest : Text) :
    unescapeFrom .plain (.char '\\' :: s :: rest) =
      (do return simpleEscape s ++ (← unescapeFrom .plain rest)) := by
  rcases mem_letters.mp short with rfl | rfl | rfl | rfl | rfl | rfl | rfl <;> rfl

/-- A quoted character is read back as its halves. -/
theorem unescapeFrom_quoted (c : Code) {rest resolved : Text}
    (later : unescapeFrom .plain rest = .ok resolved) :
    unescapeFrom .plain (c.quoted ++ rest) = .ok (c.halves ++ resolved) := by
  rcases c.quoted_cases with ⟨is, -, high, -, noBackslash⟩ | ⟨s, short, is, stands⟩ | is
  · have basic : c.IsBasic := by
      rw [Code.IsBasic]
      omega
    rw [is, Code.halves_of_basic basic, List.singleton_append, unescapeFrom,
      if_neg (by simpa using noBackslash), later]
    rfl
  · have basic : c.IsBasic := by
      have stood : ∀ s ∈ ("\"\\nrtbf" : Text), ∀ d ∈ simpleEscape s, d.IsBasic := by decide
      exact stood s short c (by rw [stands]; exact List.mem_singleton_self c)
    rw [is, Code.halves_of_basic basic, ← stands, List.cons_append, List.singleton_append,
      unescapeFrom_short short, later]
    rfl
  · rw [is]
    exact unescapeFrom_units later

/-- Resolving the escapes of a quoted text gives its sixteen-bit units. -/
theorem unescape_quoted (t : Text) : unescape (t.flatMap Code.quoted) = .ok t.halved := by
  rw [unescape]
  induction t with
  | nil => rfl
  | cons c rest inductionHypothesis =>
    rw [List.flatMap_cons, unescapeFrom_quoted c inductionHypothesis, halved_cons]

end Text

/-! ### Blanks in sixteen-bit units -/

namespace Code

/-- Every blank is in the basic plane. -/
theorem isBasic_of_blank {c : Code} (blank : c.isBlank = true) : c.IsBasic := by
  simp only [isBlank, Bool.or_eq_true, Bool.and_eq_true, decide_eq_true_eq, beq_iff_eq] at blank
  unfold IsBasic
  omega

/-- No half of a pair is a blank. -/
theorem noBlank_halves {c : Code} (solid : c.isBlank = false) : Text.NoBlank c.halves := by
  intro d among
  by_cases basic : c.IsBasic
  · rw [halves_of_basic basic, List.mem_singleton] at among
    rwa [among]
  · obtain ⟨unit, isUnit, read⟩ := List.mem_filterMap.mp among
    obtain ⟨e, -, rfl⟩ := exists_of_mem_units16 isUnit
    rw [ofNat?_val] at read
    cases read
    have astral : ¬ c.val < 0x10000 := basic
    have high : 0xD800 ≤ d.val := by
      simp only [units16, astral, if_false, List.mem_cons, List.not_mem_nil, or_false] at isUnit
      omega
    simp only [isBlank, Bool.or_eq_false_iff, Bool.and_eq_false_iff, decide_eq_false_iff_not,
      beq_eq_false_iff_ne]
    omega

/-- No character vanishes when it is halved. -/
theorem halves_ne_nil (c : Code) : c.halves ≠ [] := by
  by_cases basic : c.IsBasic
  · simp [halves_of_basic basic]
  · intro none
    have two := length_halves_of_not_basic basic
    simp [none] at two

end Code

namespace Text

/-- Joined texts are halved one by one. -/
@[simp] theorem halved_append (t u : Text) : (t ++ u).halved = t.halved ++ u.halved :=
  List.flatMap_append

/-- Only the empty text has no halves. -/
@[simp] theorem halved_eq_nil_iff {t : Text} : t.halved = [] ↔ t = [] := by
  cases t with
  | nil => simp [halved]
  | cons c rest => simp [c.halves_ne_nil]

/-- Halving commutes with trimming the front. -/
theorem trimStart_halved (t : Text) : t.halved.trimStart = t.trimStart.halved := by
  induction t with
  | nil => rfl
  | cons c rest inductionHypothesis =>
    rw [halved_cons]
    cases blank : c.isBlank with
    | true =>
      rw [Code.halves_of_basic (Code.isBasic_of_blank blank), List.singleton_append,
        trimStart_cons, trimStart_cons, blank, inductionHypothesis]
      rfl
    | false =>
      rw [trimStart_noBlank_append (Code.noBlank_halves blank) c.halves_ne_nil,
        trimStart_of_head blank, halved_cons]

/-- Halving commutes with trimming the end. -/
theorem trimEnd_halved (t : Text) : t.halved.trimEnd = t.trimEnd.halved := by
  induction t with
  | nil => rfl
  | cons c rest inductionHypothesis =>
    have alone : c.halves.trimEnd = (trimEnd [c]).halved := by
      cases blank : c.isBlank with
      | true => simp [Code.halves_of_basic (Code.isBasic_of_blank blank), trimEnd, blank]
      | false =>
        rw [trimEnd_of_trim (trim_of_noBlank (Code.noBlank_halves blank))]
        simp [trimEnd, blank]
    have split : c :: rest = [c] ++ rest := rfl
    rw [halved_cons, split, trimEnd_append, trimEnd_append, inductionHypothesis, alone]
    simp only [halved_eq_nil_iff]
    split <;> simp

/-- The blanks around a text are the same in sixteen-bit units. -/
theorem trim_halved (t : Text) : t.halved.trim = t.trim.halved := by
  rw [trim, trimStart_halved, trimEnd_halved, trim]

end Text

end HaxeBuild
