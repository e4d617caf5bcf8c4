import HaxeBuild.Text.Basic

namespace HaxeBuild

/-- The white space of Unicode together with the four information separators. -/
def Code.isBlank (c : Code) : Bool :=
  let n := c.val
  (9 ≤ n && n ≤ 13) || (28 ≤ n && n ≤ 32) || n == 0x85 || n == 0xA0 || n == 0x1680 ||
    (0x2000 ≤ n && n ≤ 0x200A) || n == 0x2028 || n == 0x2029 || n == 0x202F || n == 0x205F ||
    n == 0x3000

namespace Text

def trimStart (t : Text) : Text := t.dropWhile Code.isBlank

def trimEnd (t : Text) : Text := (t.reverse.dropWhile Code.isBlank).reverse

def trim (t : Text) : Text := trimEnd (trimStart t)

/-- The first word, and what follows it without the blanks between. -/
def firstWord? (t : Text) : Option (Text × Text) :=
  match trimStart t with
  | [] => none
  | c :: cs =>
    some ((c :: cs).takeWhile (!·.isBlank), trimStart ((c :: cs).dropWhile (!·.isBlank)))

/-- The first words, as many as the limit says, and the rest. -/
def words : (limit : Nat) → Text → List Text
  | 0, t => if (trimStart t).isEmpty then [] else [trimStart t]
  | limit + 1, t =>
    match firstWord? t with
    | some (word, rest) => word :: words limit rest
    | none => []

/-- Drops every `mark` at the beginning. -/
def dropLeading (mark : Code) (t : Text) : Text := t.dropWhile (· == mark)

end Text

end HaxeBuild
