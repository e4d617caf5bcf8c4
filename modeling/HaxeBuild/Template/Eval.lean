import HaxeBuild.Template.Call
import HaxeBuild.Template.Syntax

namespace HaxeBuild.Template

/-- What expressions refer to: the values of names, what a call does, and the text that a filter block
has captured. -/
structure Scope where
  value : Text → Outcome Value
  call : Value → Passed → Evaluation Value
  captured : Text

namespace Expr

open Evaluation

/-- Adds an argument whose members are further arguments. -/
def spreadPositional (v : Value) : Outcome (List Value) :=
  match v.items? with
  | some items => .ok items
  | none => Outcome.fail .wrongType

def spreadNamed (v : Value) : Outcome (List (Text × Value)) :=
  match v.entries?, v.absent? with
  | some entries, _ =>
    entries.mapM fun (key, value) =>
      match key.text? with
      | some word => (Except.ok (word, value) : Outcome (Text × Value))
      | none => Outcome.fail .wrongType
  | _, some why => .error (.absentValue why)
  | _, _ => Outcome.fail .wrongType

def applyUnary : UnaryOperator → Value → Outcome Value
  | .not, v => .ok (.bool (!v.truthy))
  | .negate, v => v.negate
  | .affirm, v => v.affirm

/-- Applies a filter or a test, which may be unknown. -/
def applyNamed (known : Option (Passed → Outcome Value)) (v : Value) (p : Passed) :
    Outcome Value :=
  match known with
  | some run => run ⟨v :: p.positional, p.named⟩
  | none => Outcome.fail .unknownOperation

/-- The value of a condition that is false and has no alternative. -/
def noAlternative (line : Nat) : Value :=
  .absent ("the inline if-expression on line " ++ Text.ofNat line ++
    " evaluated to false and no else section was defined.")

/-- The arguments as they are now. -/
def nowPassed (p : Passed) : Evaluation Passed := do
  let o ← get
  return ⟨p.positional.map o.now, p.named.map fun (word, v) => (word, o.now v)⟩

mutual

/-- Evaluates from left to right and stops at the first error. A value is looked at as it is when it
is used: what is evaluated in between may change it. -/
def eval (s : Scope) : Expr → Evaluation Value
  | .const v => return v
  | .name n => (s.value n : Outcome Value)
  | .list items => do own (.list (← evalAll s items))
  | .tuple items => do return .tuple (← evalAll s items)
  | .dict entries => do
    let stored ← evalEntries s entries
    if stored.all (·.1.hashable) then own (.dict (Method.storeAll [] stored))
    else throw (.fault .wrongType)
  | .unary op e => do applyUnary op (← now (← eval s e))
  | .binary op a b => do
    let left ← eval s a
    let right ← eval s b
    own (← Value.operate op (← now left) (← now right))
  | .both a b => do
    let left ← eval s a
    if (← now left).truthy then eval s b else return left
  | .either a b => do
    let left ← eval s a
    if (← now left).truthy then return left else eval s b
  | .compare first others => do
    let left ← eval s first
    return .bool (← evalComparisons s left others)
  | .concat items => do return .text ((← nowAll (← evalAll s items)).flatMap Value.print)
  | .conditional line condition yes no => do
    let chosen ← eval s condition
    if (← now chosen).truthy then eval s yes
    else
      match no with
      | some e => eval s e
      | none => return noAlternative line
  | .member e n => do return (← now (← eval s e)).member n
  | .item e (.slice start stop step) => do
    let v ← eval s e
    let start ← evalOr s .none start
    let stop ← evalOr s .none stop
    let step ← evalOr s .none step
    own (← (← now v).slice start stop step)
  | .item e key => do
    let v ← eval s e
    let k ← eval s key
    return (← now v).item (← now k)
  | .slice _ _ _ => throw (.fault .wrongType)
  | .call function arguments => do
    let f ← eval s function
    let p ← evalArguments s arguments
    s.call (← now f) (← nowPassed p)
  | .filter _ input n arguments => do
    let v ← evalOr s (.text s.captured) input
    let p ← evalArguments s arguments
    applyNamed (Filter.find? n) (← now v) (← nowPassed p)
  | .test _ input n arguments => do
    let v ← eval s input
    let p ← evalArguments s arguments
    applyNamed (Check.find? n) (← now v) (← nowPassed p)

/-- The value of an expression that may be left out. -/
def evalOr (s : Scope) (missing : Value) : Option Expr → Evaluation Value
  | none => return missing
  | some e => eval s e

def evalAll (s : Scope) : List Expr → Evaluation (List Value)
  | [] => return []
  | e :: es => do
    let v ← eval s e
    return v :: (← evalAll s es)

def evalEntries (s : Scope) : List (Expr × Expr) → Evaluation (List (Value × Value))
  | [] => return []
  | (key, value) :: rest => do
    let k ← eval s key
    let v ← eval s value
    return (k, v) :: (← evalEntries s rest)

/-- A chain of comparisons ends at the first that is false. -/
def evalComparisons (s : Scope) (left : Value) : List (Value.Comparison × Expr) → Evaluation Bool
  | [] => return true
  | (op, e) :: rest => do
    let right ← eval s e
    if (← Value.test op (← now left) (← now right)) then evalComparisons s right rest
    else return false

def evalNamed (s : Scope) : List (Text × Expr) → Evaluation (List (Text × Value))
  | [] => return []
  | (word, e) :: rest => do
    let v ← eval s e
    return (word, v) :: (← evalNamed s rest)

def evalArguments (s : Scope) : Arguments → Evaluation Passed
  | .mk positional named spread spreadNames => do
    let first ← evalAll s positional
    let more ← spreadPositional (← now (← evalOr s (.tuple []) spread))
    let names ← evalNamed s named
    let moreNames ← spreadNamed (← now (← evalOr s (.dict []) spreadNames))
    return ⟨first ++ more, names ++ moreNames⟩

end

end Expr

end HaxeBuild.Template
