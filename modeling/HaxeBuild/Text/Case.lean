import HaxeBuild.Text.Basic
import HaxeBuild.Text.CaseTable
import HaxeBuild.Text.Property

namespace HaxeBuild

namespace Code

/-- The code points that the tables give for `c`; a code point without an entry maps to itself. -/
def mapped (runs : List Text.CaseTable.Run) (many : List (Nat × List Nat)) (c : Code) : Text :=
  match Text.CaseTable.map? runs many c.val with
  | some ns => ns.filterMap ofNat?
  | none => [c]

def upper (c : Code) : Text := c.mapped Text.CaseTable.upper Text.CaseTable.upperMany

def lower (c : Code) : Text := c.mapped Text.CaseTable.lower Text.CaseTable.lowerMany

/-- Title case is upper case except for the letters that have a form of their own. -/
def title (c : Code) : Text :=
  match Text.CaseTable.map? Text.CaseTable.title Text.CaseTable.titleMany c.val with
  | some ns => ns.filterMap ofNat?
  | none => c.upper

def isCased (c : Code) : Bool := Text.Property.holds Text.Property.cased c.val

def isCaseIgnorable (c : Code) : Bool := Text.Property.holds Text.Property.caseIgnorable c.val

end Code

namespace Text

def upper (t : Text) : Text := t.flatMap Code.upper

/-- Whether the first code point that is not skipped is a cased letter. -/
def nextIsCased (t : Text) : Bool :=
  match t.dropWhile Code.isCaseIgnorable with
  | [] => false
  | c :: _ => c.isCased

/-- Lower case of the text that follows `passed`, which is read backwards. A capital sigma at the
end of a word takes its final form. -/
def lowerAfter (passed : Text) : Text → Text
  | [] => []
  | c :: rest =>
    (if c == .char 'Σ' then
      [.char (if nextIsCased passed && !nextIsCased rest then 'ς' else 'σ')]
    else c.lower) ++ lowerAfter (c :: passed) rest

def lower (t : Text) : Text := lowerAfter [] t

/-- The first letter in title case and the others in lower case. -/
def capitalize : Text → Text
  | [] => []
  | c :: rest => c.title ++ lowerAfter [c] rest

end Text

end HaxeBuild
