import HaxeBuild.Template.Lexer
import HaxeBuild.Proofs.Template.Expansion
import HaxeBuild.Proofs.Text.Escaping

namespace HaxeBuild.Template

open Text

namespace Cursor

/-- Walking past a passage drops it and counts its characters and its newlines. -/
@[simp] theorem past_append (passed rest : Text) (offset line : Nat) :
    past ⟨passed ++ rest, offset, line⟩ passed =
      ⟨rest, offset + passed.length, line + passed.countNewlines⟩ := by
  simp [past]

end Cursor

namespace Lexer

/-! ### Strings -/

/-- A character that neither ends the string nor escapes belongs to the body. -/
theorem stringBody?_plain {quote c : Code} (noQuote : c ≠ quote) (noBackslash : c ≠ .char '\\')
    (rest : Text) : stringBody? quote (c :: rest) = (stringBody? quote rest).map (c :: ·) := by
  rw [stringBody?, if_neg (by simpa using noQuote), if_neg (by simpa using noBackslash)]
  exact fun _ _ is => absurd is noBackslash

/-- The closing quote ends the body. -/
theorem stringBody?_close {quote : Code} (noBackslash : quote ≠ .char '\\') (rest : Text) :
    stringBody? quote (quote :: rest) = some [] := by
  rw [stringBody?, if_pos (beq_self_eq_true quote)]
  exact fun _ _ is => absurd is noBackslash

/-- A passage without quotes and backslashes belongs to the body as a whole. -/
theorem stringBody?_solid {quote : Code} {t : Text}
    (solid : ∀ c ∈ t, c ≠ quote ∧ c ≠ .char '\\') (rest : Text) :
    stringBody? quote (t ++ rest) = (stringBody? quote rest).map (t ++ ·) := by
  induction t with
  | nil => simp
  | cons c t inductionHypothesis =>
    have ⟨first, later⟩ := List.forall_mem_cons.mp solid
    rw [List.cons_append, stringBody?_plain first.1 first.2, inductionHypothesis later,
      Option.map_map]
    rfl

/-- A string goes on behind what stands for a code point. -/
theorem stringBody?_quoted (c : Code) (rest : Text) :
    stringBody? (.char '"') (c.quoted ++ rest) =
      (stringBody? (.char '"') rest).map (c.quoted ++ ·) := by
  rcases c.quoted_cases with ⟨is, -, -, noQuote, noBackslash⟩ | ⟨s, -, is, -⟩ | is
  · rw [is]
    exact stringBody?_plain noQuote noBackslash rest
  · rw [is]
    rfl
  · rw [is]
    generalize c.units16 = units
    induction units with
    | nil => simp
    | cons unit units inductionHypothesis =>
      have solid : ∀ d ∈ hex 4 unit, d ≠ .char '"' ∧ d ≠ .char '\\' := by
        have digits : ∀ d ∈ ("0123456789abcdef" : Text), d ≠ .char '"' ∧ d ≠ .char '\\' := by
          decide
        exact fun d among => digits d (Code.mem_hex among)
      have opened (t : Text) : stringBody? (.char '"') (("\\u" : Text) ++ t) =
          (stringBody? (.char '"') t).map (("\\u" : Text) ++ ·) := rfl
      rw [List.flatMap_cons, List.append_assoc, List.append_assoc, opened,
        stringBody?_solid solid, inductionHypothesis, Option.map_map, Option.map_map]
      congr 1

/-- What is escaped for a string literal is read back up to its closing quote. -/
theorem stringBody?_escaped (t rest : Text) :
    stringBody? (.char '"') (t.flatMap Code.quoted ++ .char '"' :: rest) =
      some (t.flatMap Code.quoted) := by
  induction t with
  | nil => exact stringBody?_close (by decide) rest
  | cons c t inductionHypothesis =>
    rw [List.flatMap_cons, List.append_assoc, stringBody?_quoted, inductionHypothesis]
    rfl

/-- Quoted texts are spelled in ASCII already. -/
theorem escapedBody_escaped (t : Text) :
    escapedBody (t.flatMap Code.quoted) = t.flatMap Code.quoted := by
  have ascii : ∀ d ∈ t.flatMap Code.quoted, d.val < 128 := by
    intro d among
    obtain ⟨c, -, piece⟩ := List.mem_flatMap.mp among
    rcases c.quoted_eq_self_or_escape with ⟨is, -, small⟩ | escape
    · rw [is, List.mem_singleton] at piece
      subst piece
      omega
    · have small : ∀ d ∈ Code.escapeCodes, d.val < 128 := by decide
      exact small d (escape d piece)
  generalize t.flatMap Code.quoted = body at ascii
  induction body with
  | nil => rfl
  | cons d body inductionHypothesis =>
    have ⟨first, later⟩ := List.forall_mem_cons.mp ascii
    rw [escapedBody, List.flatMap_cons, if_pos first, List.singleton_append]
    exact congrArg _ (inductionHypothesis later)

/-! ### Pieces -/

/-- A decimal number does not begin with anything but a digit. -/
theorem decimalRun_of_head {c : Code} (noDigit : c.isAsciiDigit = false) (rest : Text) :
    decimalRun (c :: rest) = [] := by
  rw [decimalRun, noDigit]
  rfl

/-- No numeral begins with anything but a digit. -/
theorem float?_of_head {c : Code} (noDigit : c.isAsciiDigit = false) (rest : Text) :
    float? (c :: rest) = none := by
  simp [float?, decimalRun_of_head noDigit]

/-- A number in another base begins with a zero. -/
theorem based?_of_head {c : Code} (noZero : c ≠ .char '0') (letter : Char) (base : Nat)
    (isDigit : Code → Bool) (rest : Text) : based? letter base isDigit (c :: rest) = none := by
  unfold based?
  split
  · rename_i is
    exact absurd (List.cons.inj is).1 noZero
  · rfl

/-- No integer begins with anything but a digit. -/
theorem integer?_of_head {c : Code} (noDigit : c.isAsciiDigit = false) (rest : Text) :
    integer? (c :: rest) = none := by
  have noZero : c ≠ .char '0' := by
    rintro rfl
    cases noDigit
  simp only [integer?, based?_of_head noZero, Option.none_or]
  split
  · rename_i is
    exact absurd (List.cons.inj is).1 noZero
  · rw [decimalRun_of_head noDigit]

/-- A piece that begins with a double quote is a string. -/
theorem piece_of_string {rest body value : Text} (read : stringBody? (.char '"') rest = some body)
    (resolved : Text.unescape (escapedBody body) = .ok value) (afterDot : Bool) (offset : Nat) :
    piece afterDot offset (.char '"' :: rest) =
      .token ((.char '"' :: rest).take (body.length + 2)) (.string value) := by
  have solid : (Code.char '"').isBlank = false := by decide
  have noName : isNameChar (.char '"') = false := by decide
  have isString : string? (.char '"' :: rest) = some body := read
  have noFloat : float? (.char '"' :: rest) = none := float?_of_head (by decide) rest
  have noInteger : integer? (.char '"' :: rest) = none := integer?_of_head (by decide) rest
  unfold piece
  rw [List.takeWhile_cons_of_neg (by simp [solid])]
  dsimp only
  rw [noFloat, ite_self, noInteger, List.takeWhile_cons_of_neg (by simp [noName])]
  dsimp only
  rw [isString]
  dsimp only
  rw [resolved]

/-- The lexer reads a quoted text as a string whose value is the text in sixteen-bit units. -/
theorem piece_quoted (t : Text) (afterDot : Bool) (offset : Nat) (rest : Text) :
    piece afterDot offset (t.quoted ++ rest) = .token t.quoted (.string t.halved) := by
  have spelled : t.quoted ++ rest =
      .char '"' :: (t.flatMap Code.quoted ++ .char '"' :: rest) := by
    simp [Text.quoted, ofString]
  have size : (t.flatMap Code.quoted).length + 2 = t.quoted.length := by
    simp [Text.quoted, ofString]
  have resolved : Text.unescape (escapedBody (t.flatMap Code.quoted)) = .ok t.halved := by
    rw [escapedBody_escaped, unescape_quoted]
  rw [spelled, piece_of_string (stringBody?_escaped t rest) resolved, ← spelled, size,
    List.take_left]

/-- Blanks are one piece, up to the first character that is none. -/
theorem piece_blank {blanks rest : Text} (blank : AllBlank blanks) (present : blanks ≠ [])
    (apart : ∀ c ∈ rest.head?, c.isBlank = false) (afterDot : Bool) (offset : Nat) :
    piece afterDot offset (blanks ++ rest) = .blank blanks := by
  have stops : rest.takeWhile Code.isBlank = [] := by
    cases rest with
    | nil => rfl
    | cons c rest => exact List.takeWhile_cons_of_neg (by simp [apart c rfl])
  have front : (blanks ++ rest).takeWhile Code.isBlank = blanks := by
    rw [List.takeWhile_append_of_pos blank, stops, List.append_nil]
  cases blanks with
  | nil => exact absurd rfl present
  | cons b bs =>
    unfold piece
    rw [front]

/-- An identifier is one piece, up to the first character that cannot continue it. -/
theorem piece_name (c : Code) (word : Text) {rest : Text} (noBlank : c.isBlank = false)
    (noDigit : c.isAsciiDigit = false) (isWord : ∀ d ∈ c :: word, isNameChar d = true)
    (identifier : isIdentifier (c :: word) = true)
    (apart : ∀ d ∈ rest.head?, isNameChar d = false) (afterDot : Bool) (offset : Nat) :
    piece afterDot offset (c :: word ++ rest) = .token (c :: word) (.name (c :: word)) := by
  have stops : rest.takeWhile isNameChar = [] := by
    cases rest with
    | nil => rfl
    | cons d rest => exact List.takeWhile_cons_of_neg (by simp [apart d rfl])
  have front : (c :: word ++ rest).takeWhile isNameChar = c :: word := by
    rw [List.takeWhile_append_of_pos isWord, stops, List.append_nil]
  unfold piece
  rw [front]
  rw [List.cons_append, List.takeWhile_cons_of_neg (by simp [noBlank])]
  dsimp only
  rw [float?_of_head noDigit, ite_self, integer?_of_head noDigit]
  dsimp only
  rw [if_pos identifier]

/-- A comma is a piece of its own. -/
theorem piece_comma (afterDot : Bool) (offset : Nat) (rest : Text) :
    piece afterDot offset (.char ',' :: rest) = .token "," (.symbol .comma) := by
  have noFloat : float? (.char ',' :: rest) = none := float?_of_head (by decide) rest
  have noInteger : integer? (.char ',' :: rest) = none := integer?_of_head (by decide) rest
  have isSymbol : Symbol.ofText? (.char ',' :: rest) = some .comma := rfl
  have noString : string? (.char ',' :: rest) = none := rfl
  unfold piece
  rw [List.takeWhile_cons_of_neg (by decide)]
  dsimp only
  rw [noFloat, ite_self, noInteger, List.takeWhile_cons_of_neg (by decide)]
  dsimp only
  rw [noString]
  dsimp only
  rw [isSymbol]
  rfl

/-! ### Numerals -/

/-- Digits are read up to what is no digit. -/
theorem digitRun_digits {digits : Text} (isDigits : ∀ c ∈ digits, c.isAsciiDigit = true)
    (rest : Text) :
    digitRun Code.isAsciiDigit (digits ++ .char ',' :: rest) = digits := by
  induction digits with
  | nil => rfl
  | cons c digits inductionHypothesis =>
    have ⟨first, later⟩ := List.forall_mem_cons.mp isDigits
    rw [List.cons_append, digitRun, if_pos first, inductionHypothesis later]
    rintro _ _ rfl
    cases first

/-- A number below ten is its digit. -/
theorem ofNat_of_lt {n : Nat} (small : n < 10) : Text.ofNat n = [.char n.digitChar] := by
  rw [Text.ofNat, Nat.toDigits_of_lt_base small]
  rfl

/-- The last digit of a number is its remainder. -/
theorem ofNat_of_ge {n : Nat} (large : 10 ≤ n) :
    Text.ofNat n = Text.ofNat (n / 10) ++ [.char (n % 10).digitChar] := by
  rw [Text.ofNat, Nat.toDigits_eq_if (by decide), if_neg (by omega), List.map_append]
  rfl

/-- Only zero is written with a zero in front. -/
theorem exists_ofNat (n : Nat) :
    ∃ c rest, Text.ofNat n = c :: rest ∧ c.isAsciiDigit = true ∧ (0 < n → c ≠ .char '0') := by
  induction n using Nat.strong_induction_on with
  | _ n inductionHypothesis =>
    by_cases small : n < 10
    · have leading : ∀ d : Nat, d < 10 → (Code.char d.digitChar).isAsciiDigit = true ∧
          (0 < d → Code.char d.digitChar ≠ .char '0') := by
        decide
      exact ⟨_, [], ofNat_of_lt small, leading n small⟩
    · obtain ⟨c, rest, is, isDigit, noZero⟩ := inductionHypothesis (n / 10) (by omega)
      refine ⟨c, rest ++ [.char (n % 10).digitChar], ?_, isDigit, fun _ => noZero (by omega)⟩
      rw [ofNat_of_ge (by omega), is, List.cons_append]

/-- No digit is a blank. -/
theorem isBlank_of_isAsciiDigit {c : Code} (isDigit : c.isAsciiDigit = true) :
    c.isBlank = false := by
  simp only [Code.isAsciiDigit, Bool.and_eq_true, decide_eq_true_eq] at isDigit
  simp [Code.isBlank]
  omega

/-- The decimal digits of a number have its value. -/
theorem digitsValue_ofNat (n : Nat) : digitsValue 10 (Text.ofNat n) = n := by
  have digit : ∀ d : Nat, d < 10 → Text.hexDigit? (.char d.digitChar) = some d := by decide
  induction n using Nat.strong_induction_on with
  | _ n inductionHypothesis =>
    by_cases small : n < 10
    · rw [ofNat_of_lt small]
      simp [digitsValue, digit n small]
    · have front := inductionHypothesis (n / 10) (by omega)
      rw [digitsValue] at front
      rw [ofNat_of_ge (by omega), digitsValue, List.foldl_append, front]
      simp only [List.foldl_cons, List.foldl_nil, digit (n % 10) (Nat.mod_lt _ (by decide))]
      omega

/-- A written number is read up to the comma that follows it. -/
theorem decimalRun_ofNat (n : Nat) (rest : Text) :
    decimalRun (Text.ofNat n ++ .char ',' :: rest) = Text.ofNat n := by
  have digits := digitRun_digits (fun c => Expansion.isAsciiDigit_of_mem_ofNat (n := n)) rest
  cases is : Text.ofNat n with
  | nil => rfl
  | cons c more =>
    have first : c.isAsciiDigit = true :=
      Expansion.isAsciiDigit_of_mem_ofNat (n := n) (is ▸ List.mem_cons_self)
    rw [is] at digits
    rw [List.cons_append, decimalRun, if_pos first, ← List.cons_append, digits]

/-- A printed number is read as that number if a comma follows. -/
theorem piece_ofNat (n : Nat) (afterDot : Bool) (offset : Nat) (rest : Text) :
    piece afterDot offset (Text.ofNat n ++ .char ',' :: rest) =
      .token (Text.ofNat n) (.integer n) := by
  have noFloat : float? (Text.ofNat n ++ .char ',' :: rest) = none := by
    have noFraction : fractionRun (.char ',' :: rest) = [] := rfl
    have noExponent : exponentRun (.char ',' :: rest) = [] := rfl
    simp [float?, decimalRun_ofNat, noFraction, noExponent]
  have isInteger : integer? (Text.ofNat n ++ .char ',' :: rest) = some (Text.ofNat n, n) := by
    rcases Nat.eq_zero_or_pos n with rfl | positive
    · rfl
    · obtain ⟨c, more, is, -, leading⟩ := exists_ofNat n
      have noZero := leading positive
      have run := decimalRun_ofNat n rest
      have value := digitsValue_ofNat n
      rw [is] at run value ⊢
      rw [List.cons_append] at run ⊢
      unfold integer?
      simp only [based?_of_head noZero, Option.none_or]
      split
      · rename_i starts
        exact absurd (List.cons.inj starts).1 noZero
      · rw [run]
        dsimp only
        rw [value]
  have noBlank : (Text.ofNat n ++ .char ',' :: rest).takeWhile Code.isBlank = [] := by
    obtain ⟨c, more, is, isDigit, -⟩ := exists_ofNat n
    rw [is, List.cons_append]
    exact List.takeWhile_cons_of_neg (by simp [isBlank_of_isAsciiDigit isDigit])
  unfold piece
  rw [noBlank]
  dsimp only
  rw [noFloat, ite_self, isInteger]

/-! ### Steps -/

section

variable {opening : Opening} {afterDot : Bool} {passed rest : Text} {offset : Nat}

/-- No tag ends before a character other than a percent sign, a dash or a plus sign. -/
theorem tagEnd?_of_head {c : Code} (noPercent : c ≠ .char '%') (noDash : c ≠ .char '-')
    (noPlus : c ≠ .char '+') (rest : Text) : tagEnd? .block (c :: rest) = none := by
  simp [tagEnd?, close?, Mark.blockClose, ofString, startsWith, noPercent.symm, noDash.symm,
    noPlus.symm]

/-- Blanks inside a tag are skipped. -/
theorem read_blank (passed : Text) (steps line : Nat)
    (noEnd : tagEnd? opening (passed ++ rest) = none) (present : passed ≠ [])
    (is : piece afterDot offset (passed ++ rest) = .blank passed) :
    read (steps + 1) (.inside opening [] afterDot) ⟨passed ++ rest, offset, line⟩ =
      read steps (.inside opening [] false)
        ⟨rest, offset + passed.length, line + passed.countNewlines⟩ := by
  simp [read, noEnd, present, is]

/-- A piece that is no symbol becomes a token of its line. -/
theorem read_token (steps line : Nat) {lexeme : Lexeme}
    (noEnd : tagEnd? opening (passed ++ rest) = none) (present : passed ≠ [])
    (is : piece afterDot offset (passed ++ rest) = .token passed lexeme)
    (noSymbol : ∀ s, lexeme ≠ .symbol s) :
    read (steps + 1) (.inside opening [] afterDot) ⟨passed ++ rest, offset, line⟩ =
      (read steps (.inside opening [] false)
        ⟨rest, offset + passed.length, line + passed.countNewlines⟩).prepend ⟨line, lexeme⟩ := by
  cases lexeme with
  | symbol s => exact absurd rfl (noSymbol s)
  | _ => simp [read, noEnd, present, is]

/-- A comma inside a tag becomes a token of its line. -/
theorem read_comma (steps : Nat) (rest : Text) (afterDot : Bool) (offset line : Nat) :
    read (steps + 1) (.inside .block [] afterDot) ⟨.char ',' :: rest, offset, line⟩ =
      (read steps (.inside .block [] false) ⟨rest, offset + 1, line⟩).prepend
        ⟨line, .symbol .comma⟩ := by
  have noEnd : tagEnd? .block (.char ',' :: rest) = none :=
    tagEnd?_of_head (by decide) (by decide) (by decide) rest
  have passed : Cursor.past ⟨.char ',' :: rest, offset, line⟩ "," = ⟨rest, offset + 1, line⟩ := rfl
  have balanced : balance [] .comma = .ok [] := rfl
  have noDot : (Symbol.comma == Symbol.dot) = false := rfl
  simp [read, noEnd, piece_comma, passed, balanced, noDot]

end

end Lexer

end HaxeBuild.Template
