import HaxeBuild.Template.Reader

namespace HaxeBuild.Template.Expr

open Read

/-- The words for constants. -/
def constants : List (Text × Value) := [
  ("true", .bool true), ("True", .bool true), ("false", .bool false), ("False", .bool false),
  ("none", .none), ("None", .none)]

def ofWord (word : Text) : Expr :=
  match constants.lookup word with
  | some v => .const v
  | none => .name word

/-- Adjacent string literals are one. -/
def readStrings : (steps : Nat) → Text → Read Text
  | 0, t => return t
  | steps + 1, t => do
    match (← lexeme) with
    | .string more =>
      let _ ← next
      readStrings steps (t ++ more)
    | _ => return t

/-- Elements between commas up to a closing symbol, which a comma may precede. -/
def readElements {α : Type} (close : Symbol) (element : Read α) :
    (steps : Nat) → (first : Bool) → Read (List α)
  | 0, _ => return []
  | steps + 1, first => do
    if (← isAt (·.isSymbol close)) then return []
    else
      if !first then
        let _ ← expectSymbol .comma
      if (← isAt (·.isSymbol close)) then return []
      else
        let a ← element
        return a :: (← readElements close element steps false)

def readEntry (nested : Read Expr) : Read (Expr × Expr) := do
  let key ← nested
  let _ ← expectSymbol .colon
  return (key, ← nested)

/-- Where a tuple without brackets ends. -/
def endsTuple (l : Lexeme) : Bool := isVariableEnd l || isBlockEnd l || l.isSymbol .rparen

/-- The elements of a tuple, and whether there was a comma. -/
def readTupleItems (element : Read Expr) :
    (steps : Nat) → (first : Bool) → Read (List Expr × Bool)
  | 0, _ => return ([], true)
  | steps + 1, first => do
    if !first then
      let _ ← expectSymbol .comma
    if (← isAt endsTuple) then return ([], !first)
    else
      let e ← element
      if (← isAt (·.isSymbol .comma)) then
        let (more, _) ← readTupleItems element steps false
        return (e :: more, true)
      else return ([e], !first)

/-- A tuple, or one expression if there is no comma. Nothing at all is a tuple only in brackets. -/
def readTuple (steps : Nat) (bracketed : Bool) (element : Read Expr) : Read Expr := do
  let (items, isTuple) ← readTupleItems element steps true
  match items, isTuple with
  | [e], false => return e
  | [], false =>
    if bracketed then return .tuple [] else failHere (.noExpression (← lexeme).describe)
  | items, _ => return .tuple items

/-- Names, literals and brackets. -/
def readPrimary (steps : Nat) (nested : Read Expr) : Read Expr := do
  let token ← current
  match token.lexeme with
  | .name n =>
    let _ ← next
    return ofWord n
  | .string t =>
    let _ ← next
    return .const (.text (← readStrings steps t))
  | .integer n =>
    let _ ← next
    return .const (.int n)
  | .float x =>
    let _ ← next
    return .const (.float x)
  | .symbol .lparen =>
    let _ ← next
    let e ← readTuple steps true nested
    let _ ← expectSymbol .rparen
    return e
  | .symbol .lbracket =>
    let _ ← next
    let items ← readElements .rbracket nested steps true
    let _ ← expectSymbol .rbracket
    return .list items
  | .symbol .lbrace =>
    let _ ← next
    let entries ← readElements .rbrace (readEntry nested) steps true
    let _ ← expectSymbol .rbrace
    return .dict entries
  | found => fail (.unexpected found.describe) token.line

/-- A bound of a slice, which may be left out. -/
def readBound (nested : Read Expr) : Read (Option Expr) := do
  if (← isAt fun l => l.isSymbol .colon || l.isSymbol .rbracket || l.isSymbol .comma) then
    return none
  else return some (← nested)

/-- What stands in square brackets after an expression: a key or a slice. -/
def readKey (nested : Read Expr) : Read Expr := do
  let start ← if (← isAt (·.isSymbol .colon)) then pure none else some <$> nested
  match start, (← skipIf (·.isSymbol .colon)) with
  | some key, false => return key
  | start, _ =>
    let stop ← readBound nested
    if (← skipIf (·.isSymbol .colon)) then
      let step ←
        if (← isAt fun l => l.isSymbol .rbracket || l.isSymbol .comma) then pure none
        else some <$> nested
      return .slice start stop step
    else return .slice start stop none

/-- Keys between commas; unlike elsewhere, no comma may precede the bracket. -/
def readKeys (nested : Read Expr) : (steps : Nat) → (first : Bool) → Read (List Expr)
  | 0, _ => return []
  | steps + 1, first => do
    if (← isAt (·.isSymbol .rbracket)) then return []
    else
      if !first then
        let _ ← expectSymbol .comma
      let key ← readKey nested
      return key :: (← readKeys nested steps false)

/-- The part after a dot: a name, or a number that counts members. -/
def readMember (of : Expr) : Read Expr := do
  let token ← current
  let _ ← next
  match token.lexeme with
  | .name n => return .member of n
  | .integer n => return .item of (.const (.int n))
  | _ => fail .nameOrNumber token.line

/-- Arguments gathered so far, the last ones first. -/
structure Gathered where
  positional : List Expr
  named : List (Text × Expr)
  spread : Option Expr
  spreadNamed : Option Expr

namespace Gathered

def done (p : Gathered) : Arguments :=
  .mk p.positional.reverse p.named.reverse p.spread p.spreadNamed

end Gathered

/-- One argument. Positional ones come first, and nothing follows the named spread. -/
def readArgument (nested : Read Expr) (line : Nat) (p : Gathered) : Read Gathered := do
  let refuseUnless (ok : Bool) : Read Unit := if ok then pure () else fail .badCall line
  match (← lexeme) with
  | .symbol .mul =>
    refuseUnless (p.spread.isNone && p.spreadNamed.isNone)
    let _ ← next
    return { p with spread := some (← nested) }
  | .symbol .pow =>
    refuseUnless p.spreadNamed.isNone
    let _ ← next
    return { p with spreadNamed := some (← nested) }
  | .name n =>
    if (← peek).isSymbol .assign then
      refuseUnless p.spreadNamed.isNone
      let _ ← next
      let _ ← next
      return { p with named := (n, ← nested) :: p.named }
    else positional refuseUnless
  | _ => positional refuseUnless
where
  positional (refuseUnless : Bool → Read Unit) : Read Gathered := do
    refuseUnless (p.spread.isNone && p.spreadNamed.isNone && p.named.isEmpty)
    return { p with positional := (← nested) :: p.positional }

def readArgumentList (nested : Read Expr) (line : Nat) :
    (steps : Nat) → (first : Bool) → Gathered → Read Gathered
  | 0, _, p => return p
  | steps + 1, first, p => do
    if (← isAt (·.isSymbol .rparen)) then return p
    else
      if !first then
        let _ ← expectSymbol .comma
      if (← isAt (·.isSymbol .rparen)) then return p
      else readArgumentList nested line steps false (← readArgument nested line p)

def readArguments (steps : Nat) (nested : Read Expr) : Read Arguments := do
  let token ← expectSymbol .lparen
  let gathered ← readArgumentList nested token.line steps true ⟨[], [], none, none⟩
  let _ ← expectSymbol .rparen
  return gathered.done

/-- Members, keys and calls after an expression. -/
def readPostfix (nested : Read Expr) : (steps : Nat) → Expr → Read Expr
  | 0, e => return e
  | steps + 1, e => do
    match (← lexeme) with
    | .symbol .dot =>
      let _ ← next
      readPostfix nested steps (← readMember e)
    | .symbol .lbracket =>
      let _ ← next
      let keys ← readKeys nested steps true
      let _ ← expectSymbol .rbracket
      match keys with
      | [key] => readPostfix nested steps (.item e key)
      | keys => readPostfix nested steps (.item e (.tuple keys))
    | .symbol .lparen =>
      let arguments ← readArguments steps nested
      readPostfix nested steps (.call e arguments)
    | _ => return e

/-- A name that may have parts after dots. -/
def readDotted : (steps : Nat) → Text → Read Text
  | 0, n => return n
  | steps + 1, n => do
    if (← skipIf (·.isSymbol .dot)) then
      let part ← expectName
      readDotted steps (n ++ "." ++ part)
    else return n

/-- A filter's name and arguments. -/
def readFilter (steps : Nat) (nested : Read Expr) (input : Option Expr) : Read Expr := do
  let line ← line
  let n ← readDotted steps (← expectName)
  let arguments ←
    if (← isAt (·.isSymbol .lparen)) then readArguments steps nested else pure Arguments.none
  return .filter line input n arguments

def readFilters (nested : Read Expr) : (steps : Nat) → Expr → Read Expr
  | 0, e => return e
  | steps + 1, e => do
    if (← skipIf (·.isSymbol .pipe)) then
      readFilters nested steps (← readFilter steps nested (some e))
    else return e

/-- Where a test's single argument without brackets can begin. -/
def beginsArgument : Lexeme → Bool
  | .name n => !(["else", "or", "and"] : List Text).contains n
  | .string _ => true
  | .integer _ => true
  | .float _ => true
  | .symbol s => s == .lbracket || s == .lbrace
  | _ => false

/-- A test after the word `is`. -/
def readTest (steps : Nat) (nested : Read Expr) (input : Expr) : Read Expr := do
  let token ← next
  let negated ← skipIf (·.isName "not")
  let n ← readDotted steps (← expectName)
  let arguments ←
    if (← isAt (·.isSymbol .lparen)) then readArguments steps nested
    else if (← isAt beginsArgument) then do
      if (← isAt (·.isName "is")) then failHere .chainedTests
      let argument ← readPostfix nested steps (← readPrimary steps nested)
      pure (.mk [argument] [] none none)
    else pure Arguments.none
  let test := Expr.test token.line input n arguments
  return if negated then .unary .not test else test

/-- Filters, tests and calls after an expression. -/
def readFiltersAndTests (nested : Read Expr) : (steps : Nat) → Expr → Read Expr
  | 0, e => return e
  | steps + 1, e => do
    match (← lexeme) with
    | .symbol .pipe => readFiltersAndTests nested steps (← readFilters nested (steps + 1) e)
    | .symbol .lparen =>
      let arguments ← readArguments steps nested
      readFiltersAndTests nested steps (.call e arguments)
    | .name n =>
      if n == "is" then readFiltersAndTests nested steps (← readTest steps nested e) else return e
    | _ => return e

/-- Signs bind looser than members and calls, and tighter than filters. -/
def readUnary (nested : Read Expr) : (steps : Nat) → (filtered : Bool) → Read Expr
  | 0, _ => do failHere (.unexpected (← lexeme).describe)
  | steps + 1, filtered => do
    let e ←
      match (← lexeme) with
      | .symbol .sub => do
        let _ ← next
        pure (.unary .negate (← readUnary nested steps false))
      | .symbol .add => do
        let _ ← next
        pure (.unary .affirm (← readUnary nested steps false))
      | _ => readPrimary steps nested
    let e ← readPostfix nested steps e
    if filtered then readFiltersAndTests nested steps e else return e

/-- A chain of operators of one level, grouped to the left. -/
def readChain (operator? : Lexeme → Option (Expr → Expr → Expr)) (operand : Read Expr) :
    (steps : Nat) → Expr → Read Expr
  | 0, e => return e
  | steps + 1, e => do
    match operator? (← lexeme) with
    | some combine =>
      let _ ← next
      let right ← operand
      readChain operator? operand steps (combine e right)
    | none => return e

def power? : Lexeme → Option (Expr → Expr → Expr)
  | .symbol .pow => some (.binary .pow)
  | _ => none

def product? : Lexeme → Option (Expr → Expr → Expr)
  | .symbol .mul => some (.binary .mul)
  | .symbol .div => some (.binary .div)
  | .symbol .floorDiv => some (.binary .floorDiv)
  | .symbol .mod => some (.binary .mod)
  | _ => none

def sum? : Lexeme → Option (Expr → Expr → Expr)
  | .symbol .add => some (.binary .add)
  | .symbol .sub => some (.binary .sub)
  | _ => none

def both? (l : Lexeme) : Option (Expr → Expr → Expr) := if l.isName "and" then some .both else none

def either? (l : Lexeme) : Option (Expr → Expr → Expr) :=
  if l.isName "or" then some .either else none

def readLevel (steps : Nat) (operator? : Lexeme → Option (Expr → Expr → Expr))
    (operand : Read Expr) : Read Expr := do
  readChain operator? operand steps (← operand)

def readTildes (operand : Read Expr) : (steps : Nat) → Read (List Expr)
  | 0 => return []
  | steps + 1 => do
    if (← skipIf (·.isSymbol .tilde)) then
      let e ← operand
      return e :: (← readTildes operand steps)
    else return []

def readConcat (steps : Nat) (operand : Read Expr) : Read Expr := do
  let first ← operand
  match (← readTildes operand steps) with
  | [] => return first
  | more => return .concat (first :: more)

def comparison? : Lexeme → Option Value.Comparison
  | .symbol .eq => some .eq
  | .symbol .ne => some .ne
  | .symbol .lt => some .lt
  | .symbol .le => some .le
  | .symbol .gt => some .gt
  | .symbol .ge => some .ge
  | .name n => if n == "in" then some .isIn else none
  | _ => none

/-- The comparison that begins here; `not in` takes two words. -/
def readComparison : Read (Option Value.Comparison) := do
  let l ← lexeme
  match comparison? l with
  | some op =>
    let _ ← next
    return some op
  | none =>
    if l.isName "not" then
      if (← peek).isName "in" then
        let _ ← next
        let _ ← next
        return some .notIn
      else return none
    else return none

def readComparisons (operand : Read Expr) : (steps : Nat) → Read (List (Value.Comparison × Expr))
  | 0 => return []
  | steps + 1 => do
    match (← readComparison) with
    | some op =>
      let e ← operand
      return (op, e) :: (← readComparisons operand steps)
    | none => return []

def readCompare (steps : Nat) (operand : Read Expr) : Read Expr := do
  let first ← operand
  match (← readComparisons operand steps) with
  | [] => return first
  | others => return .compare first others

def readNot (operand : Read Expr) : (steps : Nat) → Read Expr
  | 0 => operand
  | steps + 1 => do
    if (← skipIf (·.isName "not")) then return .unary .not (← readNot operand steps)
    else operand

/-- Everything that binds tighter than a condition. -/
def readUnconditional (steps : Nat) (nested : Read Expr) : Read Expr :=
  let power := readLevel steps power? (readUnary nested steps true)
  let product := readLevel steps product? power
  let sum := readLevel steps sum? (readConcat steps product)
  let negation := readNot (readCompare steps sum) steps
  readLevel steps either? (readLevel steps both? negation)

/-- Conditions after an expression; what follows `else` may be conditional again. -/
def readConditions (operand : Read Expr) : (steps : Nat) → (line : Nat) → Expr → Read Expr
  | 0, _, e => return e
  | steps + 1, at', e => do
    if (← skipIf (·.isName "if")) then
      let test ← operand
      let otherwise ←
        if (← skipIf (·.isName "else")) then do
          let start ← line
          let first ← operand
          some <$> readConditions operand steps start first
        else pure none
      readConditions operand steps (← line) (.conditional at' test e otherwise)
    else return e

/-- Reads an expression, nested at most `depth` deep. -/
def read (steps : Nat) : (depth : Nat) → (mayBranch : Bool) → Read Expr
  | 0, _ => do failHere (.unexpected (← lexeme).describe)
  | depth + 1, mayBranch => do
    let operand := readUnconditional steps (read steps depth true)
    if mayBranch then
      let start ← line
      let e ← operand
      readConditions operand steps start e
    else operand

end HaxeBuild.Template.Expr
