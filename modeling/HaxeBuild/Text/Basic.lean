namespace HaxeBuild

/-- A code point is a character or one half of a surrogate pair that stands alone. -/
inductive Code where
  | char (c : Char)
  | half (offset : Fin 2048)
  deriving DecidableEq

namespace Code

/-- The number of a character. -/
def val : Code → Nat
  | .char c => c.toNat
  | .half offset => 0xD800 + offset.val

/-- Numbers above the Unicode range name no code point. -/
def ofNat? (n : Nat) : Option Code :=
  if surrogate : 0xD800 ≤ n ∧ n < 0xE000 then some (.half ⟨n - 0xD800, by omega⟩)
  else if n < 0x110000 then some (.char (Char.ofNat n))
  else none

/-- Whether a character is one of the ten digits. -/
def isAsciiDigit (c : Code) : Bool := 48 ≤ c.val && c.val ≤ 57

/-- Whether a character is one of the Latin letters. -/
def isAsciiLetter (c : Code) : Bool :=
  (65 ≤ c.val && c.val ≤ 90) || (97 ≤ c.val && c.val ≤ 122)

end Code

/-- Text is compared, cut and counted by code points. -/
abbrev Text := List Code

namespace Text

/-- The characters of a string. -/
def ofString (s : String) : Text := s.toList.map Code.char

instance : Coe String Text := ⟨ofString⟩

/-- A natural number in decimals. -/
def ofNat (n : Nat) : Text := (Nat.toDigits 10 n).map Code.char

/-- An integer in decimals. -/
def ofInt : Int → Text
  | .ofNat n => ofNat n
  | .negSucc n => .char '-' :: ofNat (n + 1)

/-- Texts are ordered by their first differing code point; a proper beginning comes first. -/
def before : Text → Text → Bool
  | _, [] => false
  | [], _ :: _ => true
  | a :: as, b :: bs => a.val < b.val || (a == b && before as bs)

/-- Equal texts keep their order, so sorting by this is stable. -/
def atMost (a b : Text) : Bool := !before b a

/-- Texts in the order of their characters. -/
def sorted (ts : List Text) : List Text := ts.mergeSort atMost

/-- Whether a text begins with another. -/
def startsWith (t beginning : Text) : Bool := beginning.isPrefixOf t

/-- What follows `beginning`, if the text begins with it. -/
def after? : (beginning t : Text) → Option Text
  | [], t => some t
  | _ :: _, [] => none
  | b :: bs, c :: cs => if b == c then after? bs cs else none

/-- The parts before and after the first occurrence of `mark`. -/
def cut? (mark : Text) : Text → Option (Text × Text)
  | [] => (after? mark []).map fun rest => ([], rest)
  | c :: cs =>
    match after? mark (c :: cs) with
    | some rest => some ([], rest)
    | none => (cut? mark cs).map fun (front, rest) => (c :: front, rest)

/-- Whether a mark stands in a text. -/
def hasInfix (t mark : Text) : Bool := (cut? mark t).isSome

/-- The pieces between the marks; there is one more of them than marks. -/
def splitOn (mark : Code) : Text → List Text
  | [] => [[]]
  | c :: cs =>
    if c == mark then [] :: splitOn mark cs
    else match splitOn mark cs with
      | [] => [[c]]
      | piece :: more => (c :: piece) :: more

/-- Single code points, as many as the limit says, and the rest. -/
def letters : (limit : Nat) → Text → List Text
  | 0, t => [t]
  | _ + 1, [] => [[]]
  | limit + 1, c :: cs => [c] :: letters limit cs

/-- The pieces between the first occurrences of a mark. An empty mark stands before every code point
and at the end. -/
def pieces (mark : Text) : (limit : Nat) → Text → List Text
  | 0, t => [t]
  | limit + 1, t =>
    if mark.isEmpty then [] :: letters limit t
    else match cut? mark t with
      | some (front, rest) => front :: pieces mark limit rest
      | none => [t]

/-- Texts with a separator between them. -/
def join (separator : Text) (ts : List Text) : Text := separator.intercalate ts

/-- A fixed number of hexadecimal digits in lower case. -/
def hex : (digits n : Nat) → Text
  | 0, _ => []
  | digits + 1, n => hex digits (n / 16) ++ [.char (Nat.digitChar (n % 16))]

/-- Splitting always gives a piece. -/
theorem splitOn_ne_nil (mark : Code) (t : Text) : splitOn mark t ≠ [] := by
  fun_cases splitOn mark t <;> simp_all

/-- One text is joined to itself. -/
@[simp] theorem join_singleton (separator t : Text) : join separator [t] = t := by
  simp [join]

/-- A text is joined to the others by one separator. -/
@[simp] theorem join_cons_cons (separator t u : Text) (ts : List Text) :
    join separator (t :: u :: ts) = t ++ separator ++ join separator (u :: ts) := by
  simp [join, List.intercalate]

/-- Joining the pieces gives the text back. -/
@[simp] theorem join_splitOn (mark : Code) (t : Text) : join [mark] (splitOn mark t) = t := by
  induction t with
  | nil => simp [splitOn]
  | cons c cs inductionHypothesis =>
    cases pieces : splitOn mark cs with
    | nil => exact absurd pieces (splitOn_ne_nil mark cs)
    | cons piece more =>
      rw [pieces] at inductionHypothesis
      by_cases marked : c = mark
      · subst marked
        simp [splitOn, pieces, inductionHypothesis]
      · cases more <;> simp_all [splitOn]

/-- The pieces have no mark in them. -/
theorem notMem_of_mem_splitOn {mark : Code} {t piece : Text} (found : piece ∈ splitOn mark t) :
    mark ∉ piece := by
  induction t generalizing piece with
  | nil => simp_all [splitOn]
  | cons c cs inductionHypothesis =>
    simp only [splitOn] at found
    split at found
    · rcases List.mem_cons.mp found with rfl | later
      · simp
      · exact inductionHypothesis later
    · rename_i differs
      split at found
      · rename_i none
        exact absurd none (splitOn_ne_nil mark cs)
      · rename_i first more pieces
        rcases List.mem_cons.mp found with rfl | later
        · have inside : mark ∉ first := inductionHypothesis (by simp [pieces])
          simp only [List.mem_cons, not_or]
          refine ⟨?_, inside⟩
          rintro rfl
          simp at differs
        · exact inductionHypothesis (by simp [pieces, later])

/-- Every text begins with the empty one. -/
@[simp] theorem startsWith_nil (t : Text) : startsWith t [] = true := by
  simp [startsWith]

/-- What follows a beginning is found behind it. -/
@[simp] theorem after?_append (beginning rest : Text) :
    after? beginning (beginning ++ rest) = some rest := by
  induction beginning with
  | nil => rfl
  | cons b bs ih => simp [after?, ih]

/-- A text is its beginning with what follows it. -/
theorem eq_append_of_after? {beginning t rest : Text}
    (found : after? beginning t = some rest) : t = beginning ++ rest := by
  induction beginning generalizing t with
  | nil => simp_all [after?]
  | cons b bs ih =>
    cases t with
    | nil => simp [after?] at found
    | cons c cs =>
      by_cases same : b = c
      · subst same
        simp only [after?, beq_self_eq_true, if_true] at found
        rw [ih found, List.cons_append]
      · simp [after?, same] at found

end Text

end HaxeBuild
