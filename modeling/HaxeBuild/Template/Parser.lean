import HaxeBuild.Template.Expression

namespace HaxeBuild.Template

namespace Target

mutual

/-- The target that an expression can be read as; otherwise the kind of expression it is. -/
def ofExpr (line : Nat) : Expr → Except Text Target
  | .name n => .ok (.name line n)
  | .tuple items => (ofExprs line items).elim (.error "tuple") fun targets => .ok (.tuple targets)
  | .const _ => .error "const"
  | .list _ => .error "list"
  | .dict _ => .error "dict"
  | _ => .error "expr"

def ofExprs (line : Nat) : List Expr → Option (List Target)
  | [] => some []
  | e :: es =>
    match ofExpr line e, ofExprs line es with
    | .ok t, some ts => some (t :: ts)
    | _, _ => none

end

end Target

namespace Node

open Read

/-- How many steps and how much depth the readers of expressions may take. -/
structure Limits where
  steps : Nat

namespace Limits

def expression (l : Limits) (mayBranch : Bool) : Read Expr := Expr.read l.steps l.steps mayBranch

def tuple (l : Limits) (mayBranch : Bool) : Read Expr :=
  Expr.readTuple l.steps false (l.expression mayBranch)

def filter (l : Limits) : Read Expr := Expr.readFilter l.steps (l.expression true) none

/-- More filters on the result of the first one. -/
def filters (l : Limits) (e : Expr) : Read Expr := Expr.readFilters (l.expression true) l.steps e

/-- A target: names, or tuples of them. In an assignment it may be a member of a name. -/
def target (l : Limits) (members : Bool) : Read Target := do
  let start ← line
  match (← lexeme), members with
  | .name owner, true =>
    if (← peek).isSymbol .dot then
      let _ ← next
      let _ ← next
      return .member owner (← expectName)
    else simple start
  | _, _ => simple start
where
  simple (start : Nat) : Read Target := do
    let e ← Expr.readTuple l.steps false (Expr.readPrimary l.steps (l.expression true))
    match Target.ofExpr start e with
    | .ok t => return t
    | .error kind => fail (.cannotAssign kind) start

end Limits

/-- Reads the body of a block up to one of the tags. -/
def readBody (body : Option (List Text) → Read (List Node)) (tags : List Text) :
    Read (List Node) := do
  let _ ← skipIf (·.isSymbol .colon)
  let _ ← expectBlockEnd
  let nodes ← upTo tags (body (some tags))
  match (← lexeme) with
  | .templateEnd => failUnfinished tags
  | _ => return nodes

def readLoop (l : Limits) (body : Option (List Text) → Read (List Node)) : Read Node := do
  let _ ← next
  let target ← l.target false
  let _ ← expectWord "in"
  let source ← l.tuple false
  let condition ← if (← skipIf (·.isName "if")) then some <$> l.expression true else pure none
  let _ ← skipIf (·.isName "recursive")
  let nodes ← readBody body ["endfor", "else"]
  let tag ← next
  if tag.lexeme.isName "endfor" then return .loop target source condition nodes []
  else
    let orElse ← readBody body ["endfor"]
    let _ ← next
    return .loop target source condition nodes orElse

/-- The branches after the first one: those with a test, then the last one. -/
def readBranches (l : Limits) (body : Option (List Text) → Read (List Node)) :
    (steps : Nat) → Read (List (Expr × List Node) × List Node)
  | 0 => return ([], [])
  | steps + 1 => do
    let tag ← next
    if tag.lexeme.isName "elif" then
      let test ← l.tuple false
      let nodes ← readBody body ["elif", "else", "endif"]
      let (others, orElse) ← readBranches l body steps
      return ((test, nodes) :: others, orElse)
    else if tag.lexeme.isName "else" then
      let orElse ← readBody body ["endif"]
      let _ ← next
      return ([], orElse)
    else return ([], [])

def readBranch (l : Limits) (body : Option (List Text) → Read (List Node)) : Read Node := do
  let _ ← next
  let test ← l.tuple false
  let nodes ← readBody body ["elif", "else", "endif"]
  let (others, orElse) ← readBranches l body l.steps
  return .branch test nodes others orElse

/-- An assignment of a value, or of what a block writes. -/
def readAssignment (l : Limits) (body : Option (List Text) → Read (List Node)) : Read Node := do
  let _ ← next
  let target ← l.target true
  if (← skipIf (·.isSymbol .assign)) then return .assign target (← l.tuple true)
  else
    let filter ←
      if (← skipIf (·.isSymbol .pipe)) then do some <$> l.filters (← l.filter) else pure none
    let nodes ← readBody body ["endset"]
    let _ ← next
    return .assignBlock target filter nodes

def readFilterBlock (l : Limits) (body : Option (List Text) → Read (List Node)) : Read Node := do
  let _ ← next
  let filter ← l.filters (← l.filter)
  let nodes ← readBody body ["endfilter"]
  let _ ← next
  return .filterBlock filter nodes

def readArguments (l : Limits) : (steps : Nat) → Read (List Expr)
  | 0 => return []
  | steps + 1 => do
    if (← skipIf (·.isSymbol .comma)) then
      let e ← l.expression true
      return e :: (← readArguments l steps)
    else return []

def readCustom (l : Limits) : Read Node := do
  let _ ← next
  let first ← l.expression true
  return .custom (first :: (← readArguments l l.steps))

def readPrints (l : Limits) : (steps : Nat) → (first : Bool) → Read (List Node)
  | 0, _ => return []
  | steps + 1, first => do
    if (← isAt isBlockEnd) then return []
    else
      if !first then
        let _ ← expectSymbol .comma
      let e ← l.expression true
      return .print e :: (← readPrints l steps false)

/-- A block tag, told apart by its first word. -/
def readStatement (l : Limits) (body : Option (List Text) → Read (List Node)) :
    Read (List Node) := do
  let token ← current
  match token.lexeme with
  | .name tag =>
    if tag == "for" then inBlock tag do return [← readLoop l body]
    else if tag == "if" then inBlock tag do return [← readBranch l body]
    else if tag == "set" then inBlock tag do return [← readAssignment l body]
    else if tag == "filter" then inBlock tag do return [← readFilterBlock l body]
    else if tag == "customtag" then inBlock tag do return [← readCustom l]
    else if tag == "print" then inBlock tag do
      let _ ← next
      readPrints l l.steps true
    else failUnknownTag tag token.line
  | _ => fail .tagName token.line

/-- Reads nodes up to one of the tags, or to the end of the template. -/
def readAll (l : Limits) : (steps : Nat) → (tags : Option (List Text)) → Read (List Node)
  | 0, _ => return []
  | steps + 1, tags => do
    match (← lexeme) with
    | .templateEnd => return []
    | .data t =>
      let _ ← next
      return .data t :: (← readAll l steps tags)
    | .variableBegin =>
      let _ ← next
      let e ← l.tuple true
      let _ ← expect isVariableEnd "end of print statement"
      return .print e :: (← readAll l steps tags)
    | .blockBegin =>
      let _ ← next
      let l' ← lexeme
      if (tags.getD []).any l'.isName then return []
      else
        let nodes ← readStatement l (readAll l steps)
        let _ ← expectBlockEnd
        return nodes ++ (← readAll l steps tags)
    | _ => return []

/-- The nodes of a template given as tokens. -/
def ofTokens (t : Tokens) : Except SyntaxFlaw (List Node) := do
  let r ← Reader.start t
  let steps := t.tokens.length + 2
  let (nodes, _) ← (readAll ⟨steps⟩ steps none).run r
  return nodes

def parse (template : Text) : Except SyntaxFlaw (List Node) := ofTokens (Lexer.tokens template)

end Node

end HaxeBuild.Template
