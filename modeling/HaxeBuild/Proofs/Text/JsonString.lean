import Mathlib.Data.List.Chain
import HaxeBuild.Proofs.Text.Escaping

namespace HaxeBuild

namespace JsonString

/-- The character that a letter behind a backslash stands for. -/
def letter? : Code → Option Code
  | .char '"' => some (.char '"')
  | .char '\\' => some (.char '\\')
  | .char '/' => some (.char '/')
  | .char 'b' => some (.char '\x08')
  | .char 'f' => some (.char '\x0c')
  | .char 'n' => some (.char '\n')
  | .char 'r' => some (.char '\r')
  | .char 't' => some (.char '\t')
  | _ => none

/-- The number that hexadecimal digits write, behind those that were read before. -/
def number? (before : Nat) (digits : Text) : Option Nat :=
  digits.foldlM (fun n digit => (Text.hexDigit? digit).map (n * 16 + ·)) before

/-- A character that can stand in a string as it is. -/
def isPlain : Code → Bool
  | .char c => 32 ≤ c.toNat && c != '"' && c != '\\'
  | .half _ => false

/-- Reads a string behind its opening quote. Each numbered unit is a code point of its own. -/
def units? : Text → Option Text
  | [] => none
  | [.char '"'] => some []
  | .char '\\' :: .char 'u' :: a :: b :: c :: d :: rest => do
    let unit ← Code.ofNat? (← number? 0 [a, b, c, d])
    return unit :: (← units? rest)
  | .char '\\' :: c :: rest => do
    let character ← letter? c
    return character :: (← units? rest)
  | c :: rest => if isPlain c then do return c :: (← units? rest) else none

/-- A high half and a low half. -/
def IsPair (c d : Code) : Prop :=
  (0xD800 ≤ c.val ∧ c.val < 0xDC00) ∧ 0xDC00 ≤ d.val ∧ d.val < 0xE000

instance (c d : Code) : Decidable (IsPair c d) := inferInstanceAs (Decidable (_ ∧ _))

/-- Pairs of halves become the characters beyond the basic plane that they stand for. -/
def joinPairs : Text → Text
  | c :: d :: rest =>
    if IsPair c d then
      .char (Char.ofNat (0x10000 + (c.val - 0xD800) * 0x400 + (d.val - 0xDC00))) :: joinPairs rest
    else c :: joinPairs (d :: rest)
  | t => t

/-- The text of a JSON string. -/
def read? : Text → Option Text
  | .char '"' :: rest => (units? rest).map joinPairs
  | _ => none

/-! ### Units -/

theorem number?_hex {digits n : Nat} (inside : n < 16 ^ digits) (before : Nat) :
    number? before (Text.hex digits n) = some (before * 16 ^ digits + n) := by
  induction digits generalizing n with
  | zero =>
      have none : n = 0 := by omega
      simp [number?, Text.hex, none]
  | succ digits inductionHypothesis =>
      have front : n / 16 < 16 ^ digits := by
        rw [Nat.pow_succ] at inside
        omega
      have sum : (before * 16 ^ digits + n / 16) * 16 + n % 16 =
          before * 16 ^ (digits + 1) + n := by
        rw [Nat.pow_succ, ← Nat.mul_assoc]
        omega
      have read := inductionHypothesis front
      rw [number?] at read
      rw [number?, Text.hex, List.foldlM_append, read]
      simp [Text.hexDigit?_digitChar _ (Nat.mod_lt n (by decide)), sum]

theorem units?_unit {c : Code} (basic : c.IsBasic) {rest read : Text}
    (later : units? rest = some read) :
    units? (("\\u" : Text) ++ Text.hex 4 c.val ++ rest) = some (c :: read) := by
  have number : number? 0 (Text.hex 4 c.val) = some (0 * 16 ^ 4 + c.val) := number?_hex basic 0
  rw [Nat.zero_mul, Nat.zero_add] at number
  show (number? 0 (Text.hex 4 c.val) >>= fun n => Code.ofNat? n >>= fun unit =>
    units? rest >>= fun more => some (unit :: more)) = some (c :: read)
  simp [number, later]

theorem units?_letter {s c : Code} (short : s ∈ ("\"\\nrtbf" : Text))
    (stands : Text.simpleEscape s = [c]) {rest read : Text} (later : units? rest = some read) :
    units? (.char '\\' :: s :: rest) = some (c :: read) := by
  have same : ∀ s ∈ ("\"\\nrtbf" : Text), (letter? s).toList = Text.simpleEscape s := by decide
  have letter : letter? s = some c := by
    have one := (same s short).trans stands
    cases known : letter? s with
    | none => simp [known] at one
    | some d => simpa [known] using one
  have read : units? (.char '\\' :: s :: rest) =
      (letter? s >>= fun character => units? rest >>= fun more => some (character :: more)) := by
    rcases Text.mem_letters.mp short with rfl | rfl | rfl | rfl | rfl | rfl | rfl <;> rfl
  simp [read, letter, later]

theorem units?_units {c : Code} {rest read : Text} (later : units? rest = some read) :
    units? ((c.units16.flatMap fun unit => ("\\u" : Text) ++ Text.hex 4 unit) ++ rest) =
      some (c.halves ++ read) := by
  have each := fun unit (among : unit ∈ c.units16) => Code.exists_of_mem_units16 among
  rw [Code.halves]
  revert each
  generalize c.units16 = units
  intro each
  induction units with
  | nil => exact later
  | cons unit units inductionHypothesis =>
      obtain ⟨d, basic, rfl⟩ := each unit List.mem_cons_self
      have tail := inductionHypothesis fun unit among => each unit (List.mem_cons_of_mem _ among)
      rw [List.flatMap_cons, List.append_assoc, units?_unit basic tail,
        List.filterMap_cons_some (Code.ofNat?_val d), List.cons_append]

theorem units?_quoted (c : Code) {rest read : Text} (later : units? rest = some read) :
    units? (c.quoted ++ rest) = some (c.halves ++ read) := by
  rcases c.quoted_cases with ⟨is, low, high, noQuote, noBackslash⟩ | ⟨s, short, is, stands⟩ | is
  · have basic : c.IsBasic := by
      rw [Code.IsBasic]
      omega
    have plain : isPlain c = true := by
      cases c with
      | half offset =>
          simp only [Code.val] at high
          omega
      | char c =>
          simp only [ne_eq, Code.char.injEq] at noQuote noBackslash
          simp only [Code.val] at low
          simp [isPlain, low, noQuote, noBackslash]
    rw [is, Code.halves_of_basic basic, List.singleton_append, units?, if_pos plain, later]
    · rfl
    · simpa using fun same _ => noQuote same
    · simpa using fun _ _ _ _ _ same _ => noBackslash same
    · simpa using fun _ _ same _ => noBackslash same
  · have basic : c.IsBasic := by
      have stood : ∀ s ∈ ("\"\\nrtbf" : Text), ∀ d ∈ Text.simpleEscape s, d.IsBasic := by decide
      exact stood s short c (by simp [stands])
    rw [is, Code.halves_of_basic basic]
    exact units?_letter short stands later
  · rw [is]
    exact units?_units later

/-- A quoted text is read unit by unit. -/
theorem units?_quoted_text (t : Text) :
    units? (t.flatMap Code.quoted ++ "\"") = some t.halved := by
  induction t with
  | nil => rfl
  | cons c rest inductionHypothesis =>
      rw [List.flatMap_cons, List.append_assoc, units?_quoted c inductionHypothesis,
        Text.halved_cons]

/-! ### Pairs -/

theorem joinPairs_cons {c : Code} {rest : Text} (apart : ∀ d ∈ rest.head?, ¬ IsPair c d) :
    joinPairs (c :: rest) = c :: joinPairs rest := by
  cases rest with
  | nil => rfl
  | cons d rest => rw [joinPairs, if_neg (apart d rfl)]

theorem exists_halves {c : Code} (astral : ¬ c.IsBasic) :
    ∃ high low, c.halves = [high, low] ∧ high.val = 0xD800 + (c.val - 0x10000) / 0x400 ∧
      low.val = 0xDC00 + (c.val - 0x10000) % 0x400 := by
  have units : c.units16 =
      [0xD800 + (c.val - 0x10000) / 0x400, 0xDC00 + (c.val - 0x10000) % 0x400] := by
    rw [Code.units16]
    exact if_neg astral
  have first : 0xD800 + (c.val - 0x10000) / 0x400 ∈ c.units16 := by simp [units]
  have second : 0xDC00 + (c.val - 0x10000) % 0x400 ∈ c.units16 := by simp [units]
  obtain ⟨high, -, highVal⟩ := Code.exists_of_mem_units16 first
  obtain ⟨low, -, lowVal⟩ := Code.exists_of_mem_units16 second
  exact ⟨high, low, by simp [Code.halves, units, highVal, lowVal], highVal.symm, lowVal.symm⟩

/-- Beyond the basic plane, the two halves of a code point are a pair that stands for it. -/
theorem joinPairs_halves {c : Code} (astral : ¬ c.IsBasic) (rest : Text) :
    joinPairs (c.halves ++ rest) = c :: joinPairs rest := by
  obtain ⟨high, low, halves, highVal, lowVal⟩ := exists_halves astral
  have bound := c.val_lt
  have beyond : ¬ c.val < 0x10000 := astral
  have pair : IsPair high low := by
    unfold IsPair
    omega
  have number : 0x10000 + (high.val - 0xD800) * 0x400 + (low.val - 0xDC00) = c.val := by omega
  have whole : Code.char (Char.ofNat c.val) = c := by
    cases c with
    | half offset =>
        have small := offset.isLt
        simp only [Code.val] at beyond
        omega
    | char c => simp [Code.val]
  simp [halves, joinPairs, pair, number, whole]

/-- A code point begins with a low half only if it is one. -/
theorem isPair_of_head?_halves {c d e : Code} (first : e ∈ d.halves.head?) (pair : IsPair c e) :
    IsPair c d := by
  by_cases basic : d.IsBasic
  · rw [Code.halves_of_basic basic] at first
    cases first
    exact pair
  · obtain ⟨high, low, halves, highVal, -⟩ := exists_halves basic
    rw [halves] at first
    cases first
    have bound := d.val_lt
    unfold IsPair at pair
    omega

/-- The halves that a text is read with are the pairs that it has, and those of its characters. -/
theorem joinPairs_halved (t : Text) : joinPairs t.halved = joinPairs t := by
  have alone (c : Code) (rest : Text) (apart : c.IsBasic → ∀ d ∈ rest.head?, ¬ IsPair c d) :
      joinPairs (c.halves ++ rest) = c :: joinPairs rest := by
    by_cases basic : c.IsBasic
    · rw [Code.halves_of_basic basic]
      exact joinPairs_cons (apart basic)
    · exact joinPairs_halves basic rest
  fun_induction joinPairs t with
  | case1 c d rest pair inductionHypothesis =>
      have basic : c.IsBasic ∧ d.IsBasic := by
        unfold IsPair at pair
        unfold Code.IsBasic
        omega
      rw [Text.halved_cons, Text.halved_cons, Code.halves_of_basic basic.1,
        Code.halves_of_basic basic.2, ← inductionHypothesis]
      simp [joinPairs, pair]
  | case2 c d rest noPair inductionHypothesis =>
      rw [Text.halved_cons, alone, inductionHypothesis]
      intro _ e first pair
      rw [Text.halved_cons, List.head?_append, Option.or_of_isSome] at first
      · exact noPair (isPair_of_head?_halves first pair)
      · simpa using d.halves_ne_nil
  | case3 t short =>
      cases t with
      | nil => rfl
      | cons c rest =>
          cases rest with
          | nil => exact alone c [] fun _ _ impossible => nomatch impossible
          | cons d rest => exact absurd rfl (short c d rest)

theorem length_joinPairs_le (t : Text) : (joinPairs t).length ≤ t.length := by
  fun_induction joinPairs t with
  | case1 c d rest pair inductionHypothesis =>
      simp only [List.length_cons]
      omega
  | case2 c d rest noPair inductionHypothesis =>
      simp only [List.length_cons] at inductionHypothesis ⊢
      omega
  | case3 t short => exact Nat.le_refl _

/-- Only texts that have no pair of halves stay the same. -/
theorem joinPairs_eq_self_iff {t : Text} :
    joinPairs t = t ↔ t.IsChain fun c d => ¬ IsPair c d := by
  fun_induction joinPairs t with
  | case1 c d rest pair inductionHypothesis =>
      constructor
      · intro same
        have lengths := congrArg List.length same
        have shorter := length_joinPairs_le rest
        simp only [List.length_cons] at lengths
        omega
      · intro chain
        exact absurd pair (List.isChain_cons_cons.mp chain).1
  | case2 c d rest noPair inductionHypothesis =>
      simp [List.isChain_cons_cons, noPair, inductionHypothesis]
  | case3 t short =>
      cases t with
      | nil => simp
      | cons c rest =>
          cases rest with
          | nil => simp
          | cons d rest => exact absurd rfl (short c d rest)

/-! ### Quoted texts -/

theorem read?_quoted (t : Text) : read? t.quoted = some (joinPairs t) := by
  have opened : t.quoted = .char '"' :: (t.flatMap Code.quoted ++ ("\"" : Text)) := rfl
  simp [opened, read?, units?_quoted_text, joinPairs_halved]

/-- A quoted text is read as it was exactly if it has no pair of halves. -/
theorem read?_quoted_eq_self_iff {t : Text} :
    read? t.quoted = some t ↔ t.IsChain fun c d => ¬ IsPair c d := by
  rw [read?_quoted, Option.some_inj, joinPairs_eq_self_iff]

end JsonString

end HaxeBuild
