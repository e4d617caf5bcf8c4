import HaxeBuild.Template.Lexer
import HaxeBuild.Template.Syntax

namespace HaxeBuild.Template

/-- A reader stands at a token. It remembers the open blocks, innermost first, and for each block
the tags that would end it. -/
structure Reader where
  current : Token
  rest : List Token
  flaw : Option SyntaxFlaw
  blocks : List Text
  ends : List (List Text)

/-- Reading tokens, which may find a flaw. -/
abbrev Read := StateT Reader (Except SyntaxFlaw)

namespace Reader

/-- Moves to the next token, which the first flaw may prevent. Behind the last token stands the end
of the template, on the same line. -/
def advance (r : Reader) : Except SyntaxFlaw Reader :=
  match r.rest, r.flaw with
  | token :: rest, _ => .ok { r with current := token, rest := rest }
  | [], some flaw => .error flaw
  | [], none => .ok { r with current := ⟨r.current.line, .templateEnd⟩ }

/-- The reader before its first token. -/
def start (t : Tokens) : Except SyntaxFlaw Reader :=
  advance ⟨⟨1, .templateEnd⟩, t.tokens, t.flaw, [], []⟩

end Reader

namespace Read

/-- Reports a problem in the given line. -/
def fail {α : Type} (problem : Problem) (line : Nat) : Read α := throw ⟨problem, line⟩

/-- The token that is to be read next. -/
def current : Read Token := do return (← get).current

/-- What the next token says. -/
def lexeme : Read Lexeme := do return (← get).current.lexeme

/-- The line of the next token. -/
def line : Read Nat := do return (← get).current.line

/-- Steps over the current token. -/
def next : Read Token := do
  let r ← get
  let r' ← r.advance
  set r'
  return r.current

/-- The token after the current one. -/
def peek : Read Lexeme := do
  let r ← get
  let r' ← r.advance
  return r'.current.lexeme

/-- Reports a problem in the line of the next token. -/
def failHere {α : Type} (problem : Problem) : Read α := do fail problem (← line)

/-- The token is not the wanted one. -/
def refuse {α : Type} (wanted : Text) : Read α := do
  match (← lexeme) with
  | .templateEnd => failHere (.endedBefore wanted)
  | found => failHere (.wrongToken wanted found.describe)

/-- Whether the next token is as wanted. -/
def isAt (wanted : Lexeme → Bool) : Read Bool := do return wanted (← lexeme)

/-- Steps over the current token if it is wanted. -/
def skipIf (wanted : Lexeme → Bool) : Read Bool := do
  if (← isAt wanted) then
    let _ ← next
    return true
  else return false

/-- Takes the next token if it is as wanted, and refuses it otherwise. -/
def expect (wanted : Lexeme → Bool) (described : Text) : Read Token := do
  if (← isAt wanted) then next else refuse described

/-- Takes a symbol. -/
def expectSymbol (s : Symbol) : Read Token := expect (·.isSymbol s) s.text

/-- Takes a keyword. -/
def expectWord (word : Text) : Read Token := expect (·.isName word) word

/-- Takes a name. -/
def expectName : Read Text := do
  match (← lexeme) with
  | .name n =>
    let _ ← next
    return n
  | _ => refuse "name"

/-- Whether a statement ends here. -/
def isBlockEnd : Lexeme → Bool
  | .blockEnd => true
  | _ => false

/-- Whether a printed expression ends here. -/
def isVariableEnd : Lexeme → Bool
  | .variableEnd => true
  | _ => false

/-- Takes the end of a statement. -/
def expectBlockEnd : Read Token := expect isBlockEnd "end of statement block"

/-- Adds to a problem which tags would do and which block has to be closed. -/
def blockProblem (problem : Problem) (tag : Option Text) (ends : List (List Text))
    (blocks : List Text) : Problem :=
  let problem :=
    match ends with
    | wanted :: _ =>
      if tag.any fun t => ends.any (·.contains t) then .misnested problem wanted
      else .lookingFor problem wanted
    | [] => problem
  match blocks with
  | block :: _ => .insideOf problem block
  | [] => problem

/-- Reports a statement that the language does not have. -/
def failUnknownTag {α : Type} (tag : Text) (at' : Nat) : Read α := do
  let r ← get
  fail (blockProblem (.unknownTag tag) (some tag) r.ends r.blocks) at'

/-- Reports that the template ends where statements are still wanted. -/
def failUnfinished {α : Type} (wanted : List Text) : Read α := do
  let r ← get
  failHere (blockProblem .endOfTemplate none (wanted :: r.ends) r.blocks)

/-- Reads the inside of a block. -/
def inBlock {α : Type} (tag : Text) (read : Read α) : Read α := do
  modify fun r => { r with blocks := tag :: r.blocks }
  let a ← read
  modify fun r => { r with blocks := r.blocks.drop 1 }
  return a

/-- Reads up to one of the given tags. -/
def upTo {α : Type} (tags : List Text) (read : Read α) : Read α := do
  modify fun r => { r with ends := tags :: r.ends }
  let a ← read
  modify fun r => { r with ends := r.ends.drop 1 }
  return a

end Read

end HaxeBuild.Template
