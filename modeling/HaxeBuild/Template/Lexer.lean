import HaxeBuild.Number.Decimal
import HaxeBuild.Template.Mark
import HaxeBuild.Template.Token
import HaxeBuild.Text.Blank
import HaxeBuild.Text.Lines

namespace HaxeBuild.Template

/-- What is left to read, with its offset and its line. -/
structure Cursor where
  rest : Text
  offset : Nat
  line : Nat

namespace Cursor

/-- Moves over a beginning of the rest. -/
def past (c : Cursor) (passed : Text) : Cursor :=
  ⟨c.rest.drop passed.length, c.offset + passed.length, c.line + passed.countNewlines⟩

end Cursor

namespace Lexer

/-- A dash keeps the white space around a tag out of the output; a plus sign does nothing. -/
inductive Trim where
  | keep
  | strip
  deriving DecidableEq

/-- The sign right after an opening mark. -/
def sign (t : Text) : Text × Trim :=
  match t with
  | .char '-' :: _ => ("-", .strip)
  | .char '+' :: _ => ("+", .keep)
  | _ => ([], .keep)

/-- A closing mark, with the blanks that a dash before it takes along. -/
def close? (mark : Text) (plusAllowed : Bool) (t : Text) : Option Text :=
  if t.startsWith mark then some mark
  else if t.startsWith ("-" ++ mark) then
    some ("-" ++ mark ++ (t.drop (mark.length + 1)).takeWhile Code.isBlank)
  else if plusAllowed && t.startsWith ("+" ++ mark) then some ("+" ++ mark)
  else none

/-- A tag that holds nothing but a word, such as the ones around raw text. -/
def wordTag? (word : Text) (plusAllowed : Bool) (t : Text) : Option (Text × Trim) :=
  match Text.after? Mark.blockOpen t with
  | none => none
  | some inner =>
    let (mark, trim) := sign inner
    let inner := inner.drop mark.length
    let before := inner.takeWhile Code.isBlank
    match Text.after? word (Text.trimStart inner) with
    | none => none
    | some rest =>
      let after := rest.takeWhile Code.isBlank
      (close? Mark.blockClose plusAllowed (Text.trimStart rest)).map fun ending =>
        (Mark.blockOpen ++ mark ++ before ++ word ++ after ++ ending, trim)

/-- What begins at an opening mark. -/
inductive Opening where
  | variable
  | block
  | comment
  | raw
  deriving DecidableEq

/-- The opening mark at the beginning of the text, with its sign. -/
def opening? (t : Text) : Option (Opening × Text × Trim) :=
  match wordTag? "raw" false t with
  | some (mark, trim) => some (.raw, mark, trim)
  | none =>
    let marked (kind : Opening) (mark : Text) :=
      (Text.after? mark t).map fun rest => (kind, mark ++ (sign rest).1, (sign rest).2)
    (marked .variable Mark.valueOpen).or
      ((marked .comment Mark.commentOpen).or (marked .block Mark.blockOpen))

/-- The text before the first place where `find` succeeds, and what it finds there. -/
def search {α : Type} (find : Text → Option α) : Text → Option (Text × α)
  | [] => (find []).map fun a => ([], a)
  | c :: rest =>
    match find (c :: rest) with
    | some a => some ([], a)
    | none => (search find rest).map fun (front, a) => (c :: front, a)

/-- A run of digits, where single underscores may stand between digits. -/
def digitRun (isDigit : Code → Bool) : Text → Text
  | [] => []
  | .char '_' :: c :: rest =>
    if isDigit c then .char '_' :: digitRun isDigit (c :: rest) else []
  | c :: rest => if isDigit c then c :: digitRun isDigit rest else []

/-- Digits that begin with a digit. -/
def decimalRun (t : Text) : Text :=
  match t with
  | c :: _ => if c.isAsciiDigit then digitRun Code.isAsciiDigit t else []
  | [] => []

/-- A mark and digits after it, if there are any. -/
def withMark (mark : Text) (digits : Text) : Text := if digits.isEmpty then [] else mark ++ digits

/-- The exponent of a numeral, if one stands at the beginning. -/
def exponentRun (t : Text) : Text :=
  match t with
  | c :: rest =>
    if c == .char 'e' || c == .char 'E' then
      match rest with
      | d :: more =>
        if d == .char '+' || d == .char '-' then withMark [c, d] (decimalRun more)
        else withMark [c] (decimalRun rest)
      | [] => []
    else []
  | [] => []

def fractionRun (t : Text) : Text :=
  match t with
  | .char '.' :: rest => withMark "." (decimalRun rest)
  | _ => []

def digitsValue (base : Nat) (t : Text) : Nat :=
  t.foldl (fun n c => match Text.hexDigit? c with
    | some digit => n * base + digit
    | none => n) 0

/-- The value of an exponent with its mark. -/
def exponentValue (t : Text) : Int :=
  match t with
  | _ :: .char '-' :: digits => -(digitsValue 10 digits : Int)
  | _ :: digits => (digitsValue 10 digits : Int)
  | [] => 0

/-- A numeral with a fraction, an exponent or both. -/
def float? (t : Text) : Option (Text × Float) :=
  let whole := decimalRun t
  let fraction := fractionRun (t.drop whole.length)
  let exponent := exponentRun (t.drop (whole.length + fraction.length))
  if whole.isEmpty || (fraction.isEmpty && exponent.isEmpty) then none
  else
    let places := (fraction.filter Code.isAsciiDigit).length
    let digits := digitsValue 10 (whole ++ fraction)
    some (whole ++ fraction ++ exponent,
      Decimal.toFloat false digits (exponentValue exponent - (places : Int)))

/-- A numeral in base two, eight or sixteen after a zero and a letter. -/
def based? (letter : Char) (base : Nat) (isDigit : Code → Bool) (t : Text) : Option (Text × Nat) :=
  match t with
  | .char '0' :: c :: rest =>
    if c == .char letter || c == .char letter.toUpper then
      match digitRun isDigit rest with
      | [] => none
      | digits => some (.char '0' :: c :: digits, digitsValue base digits)
    else none
  | _ => none

/-- A numeral without fraction; more than one digit may begin with a zero only if all are zeros. -/
def integer? (t : Text) : Option (Text × Nat) :=
  (based? 'b' 2 (fun c => c == .char '0' || c == .char '1') t).or
    ((based? 'o' 8 (fun c => (Text.octalDigit? c).isSome) t).or
      ((based? 'x' 16 (fun c => (Text.hexDigit? c).isSome) t).or
        (match t with
        | .char '0' :: _ =>
          let zeros := digitRun (· == .char '0') t
          some (zeros, 0)
        | _ =>
          match decimalRun t with
          | [] => none
          | digits => some (digits, digitsValue 10 digits))))

def isNameChar (c : Code) : Bool :=
  if c.val < 128 then c.isAsciiLetter || c.isAsciiDigit || c == .char '_'
  else Text.Property.holds Text.Property.nameChar c.val

def startsIdentifier (c : Code) : Bool :=
  if c.val < 128 then c.isAsciiLetter || c == .char '_'
  else Text.Property.holds Text.Property.identifierStart c.val

def isIdentifier (t : Text) : Bool :=
  (t.head?.any startsIdentifier) &&
    t.all fun c => c.val < 128 || !Text.Property.holds Text.Property.nameOnly c.val

/-- The inside of a string literal up to its closing quote, which a backslash can hide. -/
def stringBody? (quote : Code) : Text → Option Text
  | [] => none
  | .char '\\' :: c :: rest => (stringBody? quote rest).map fun body => .char '\\' :: c :: body
  | c :: rest =>
    if c == quote then some []
    else if c == .char '\\' then none
    else (stringBody? quote rest).map (c :: ·)

/-- A string literal's inside, with the quotes left off. -/
def string? (t : Text) : Option Text :=
  match t with
  | c :: rest =>
    if c == .char '\'' || c == .char '"' then stringBody? c rest else none
  | [] => none

/-- Code points outside ASCII are spelled as escapes before the escapes are resolved. -/
def escapedBody (body : Text) : Text :=
  body.flatMap fun c => if c.val < 128 then [c] else c.numericEscape

/-- What can stand inside a tag; white space is no token. -/
inductive Piece where
  | blank (passed : Text)
  | token (passed : Text) (lexeme : Lexeme)
  | flaw (problem : Problem)

/-- The piece at the beginning of a text that is not empty. After a dot no numeral with a fraction
or an exponent begins. -/
def piece (afterDot : Bool) (offset : Nat) (t : Text) : Piece :=
  match t.takeWhile Code.isBlank with
  | b :: bs => .blank (b :: bs)
  | [] =>
    match (if afterDot then none else float? t), integer? t, t.takeWhile isNameChar with
    | some (passed, x), _, _ => .token passed (.float x)
    | none, some (passed, n), _ => .token passed (.integer n)
    | none, none, c :: cs =>
      if isIdentifier (c :: cs) then .token (c :: cs) (.name (c :: cs)) else .flaw .badIdentifier
    | none, none, [] =>
      match string? t with
      | some body =>
        match Text.unescape (escapedBody body) with
        | .ok value => .token (t.take (body.length + 2)) (.string value)
        | .error why => .flaw (.badEscape why)
      | none =>
        match Symbol.ofText? t with
        | some s => .token s.text (.symbol s)
        | none =>
          match t with
          | c :: _ => .flaw (.unexpectedChar c offset)
          | [] => .flaw .endOfTemplate

/-- The brackets that are open after a symbol, innermost first. -/
def balance (opened : List Symbol) (s : Symbol) : Except Problem (List Symbol) :=
  match s.closer? with
  | some closer => .ok (closer :: opened)
  | none =>
    if s.isCloser then
      match opened with
      | [] => .error (.unopened s.text)
      | closer :: outer =>
        if closer == s then .ok outer else .error (.mismatched s.text closer.text)
    else .ok opened

/-- Where in the template the cursor stands. -/
inductive Mode where
  | text
  | comment
  | raw
  | inside (opening : Opening) (opened : List Symbol) (afterDot : Bool)

/-- The token that ends a tag, and its closing mark. -/
def tagEnd? : Opening → Text → Option (Text × Lexeme)
  | .variable, t => (close? Mark.valueClose false t).map fun passed => (passed, .variableEnd)
  | _, t => (close? Mark.blockClose true t).map fun passed => (passed, .blockEnd)

def stop (c : Cursor) (problem : Problem) : Tokens := ⟨[], some ⟨problem, c.line⟩⟩

def finished : Tokens := ⟨[], none⟩

/-- Plain text is no token if it is empty. -/
def withData (line : Nat) (t : Text) (rest : Tokens) : Tokens :=
  if t.isEmpty then rest else rest.prepend ⟨line, .data t⟩

/-- The part of plain text that a tag after it leaves. -/
def kept (trim : Trim) (front : Text) : Text := if trim = .strip then front.trimEnd else front

/-- Reads on in the given mode. Every step moves the cursor, so the length of the text and one more
step for each mark are enough. -/
def read : (steps : Nat) → Mode → Cursor → Tokens
  | 0, _, _ => finished
  | steps + 1, .text, c =>
    match search opening? c.rest with
    | none => withData c.line c.rest finished
    | some (front, opening, mark, trim) =>
      let after := c.past front
      withData c.line (kept trim front) <|
        match opening with
        | .raw => read steps .raw (after.past mark)
        | .comment => read steps .comment (after.past mark)
        | .variable =>
          (read steps (.inside .variable [] false) (after.past mark)).prepend
            ⟨after.line, .variableBegin⟩
        | .block =>
          (read steps (.inside .block [] false) (after.past mark)).prepend ⟨after.line, .blockBegin⟩
  | steps + 1, .comment, c =>
    match search (close? Mark.commentClose true) c.rest with
    | some (front, mark) => read steps .text ((c.past front).past mark)
    | none => if c.rest.isEmpty then finished else stop c .openComment
  | steps + 1, .raw, c =>
    match search (wordTag? "endraw" true) c.rest with
    | some (front, mark, trim) =>
      withData c.line (kept trim front) (read steps .text ((c.past front).past mark))
    | none => if c.rest.isEmpty then finished else stop c .openRaw
  | steps + 1, .inside opening opened afterDot, c =>
    match (if opened.isEmpty then tagEnd? opening c.rest else none) with
    | some (mark, lexeme) => (read steps .text (c.past mark)).prepend ⟨c.line, lexeme⟩
    | none =>
      if c.rest.isEmpty then finished
      else
        match piece afterDot c.offset c.rest with
        | .blank passed => read steps (.inside opening opened false) (c.past passed)
        | .flaw problem => stop c problem
        | .token passed (.symbol s) =>
          match balance opened s with
          | .ok opened =>
            (read steps (.inside opening opened (s == .dot)) (c.past passed)).prepend
              ⟨c.line, .symbol s⟩
          | .error problem => stop c problem
        | .token passed lexeme =>
          (read steps (.inside opening opened false) (c.past passed)).prepend ⟨c.line, lexeme⟩

/-- The tokens of a template. Line ends are unified first. -/
def tokens (template : Text) : Tokens :=
  let t := Text.unifyLineEnds template
  read (2 * t.length + 2) .text ⟨t, 0, 1⟩

end Lexer

end HaxeBuild.Template
