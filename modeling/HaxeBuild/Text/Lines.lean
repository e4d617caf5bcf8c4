import HaxeBuild.Text.Basic

namespace HaxeBuild

/-- Line ends are line feed to carriage return, three separators, next line, and the two Unicode
separators. -/
def Code.endsLine (c : Code) : Bool :=
  let n := c.val
  (10 ≤ n && n ≤ 13) || (28 ≤ n && n ≤ 30) || n == 0x85 || n == 0x2028 || n == 0x2029

namespace Text

/-- The lines without their ends; a carriage return and a line feed end one line together. -/
def lines : Text → List Text
  | [] => []
  | .char '\r' :: .char '\n' :: rest => [] :: lines rest
  | c :: rest =>
    if c.endsLine then [] :: lines rest
    else match lines rest with
      | [] => [[c]]
      | line :: more => (c :: line) :: more

theorem lines_of_endsLine {c : Code} (ends : c.endsLine = true) (rest : Text)
    (apart : c = .char '\r' → rest.head? ≠ some (.char '\n')) :
    lines (c :: rest) = [] :: lines rest := by
  rw [lines, if_pos ends]
  rintro more rfl rfl
  exact apart rfl rfl

theorem lines_newline (rest : Text) : lines (.char '\n' :: rest) = [] :: lines rest :=
  lines_of_endsLine (by decide) rest nofun

theorem lines_of_inner {c : Code} (inner : c.endsLine = false) (rest : Text) :
    lines (c :: rest) =
      match lines rest with
      | [] => [[c]]
      | line :: more => (c :: line) :: more := by
  rw [lines, inner]
  · rfl
  · rintro more rfl rfl
    cases inner

/-- Every carriage return, with the line feed after it if there is one, becomes a line feed. -/
def unifyLineEnds : Text → Text
  | [] => []
  | .char '\r' :: .char '\n' :: rest => .char '\n' :: unifyLineEnds rest
  | .char '\r' :: rest => .char '\n' :: unifyLineEnds rest
  | c :: rest => c :: unifyLineEnds rest

def countNewlines (t : Text) : Nat := t.count (.char '\n')

end Text

end HaxeBuild
