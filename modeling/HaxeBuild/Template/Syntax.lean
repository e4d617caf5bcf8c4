import HaxeBuild.Value.Arithmetic

namespace HaxeBuild.Template

inductive UnaryOperator where
  | not
  | negate
  | affirm
  deriving DecidableEq

mutual

inductive Expr where
  | const (v : Value)
  | name (n : Text)
  | list (items : List Expr)
  | tuple (items : List Expr)
  | dict (entries : List (Expr × Expr))
  | unary (op : UnaryOperator) (operand : Expr)
  | binary (op : Value.Operator) (left right : Expr)
  | both (left right : Expr)
  | either (left right : Expr)
  | compare (first : Expr) (others : List (Value.Comparison × Expr))
  | concat (items : List Expr)
  | conditional (line : Nat) (test yes : Expr) (no : Option Expr)
  | member (of : Expr) (name : Text)
  | item (of key : Expr)
  | slice (start stop step : Option Expr)
  | call (function : Expr) (arguments : Arguments)
  | filter (line : Nat) (input : Option Expr) (name : Text) (arguments : Arguments)
  | test (line : Nat) (input : Expr) (name : Text) (arguments : Arguments)

/-- Arguments by position and by name, and the values whose members are further ones. -/
inductive Arguments where
  | mk (positional : List Expr) (named : List (Text × Expr)) (spread spreadNamed : Option Expr)

end

namespace Arguments

def none : Arguments := .mk [] [] .none .none

end Arguments

/-- What a value can be bound to. -/
inductive Target where
  | name (line : Nat) (n : Text)
  | tuple (targets : List Target)
  | member (owner name : Text)

inductive Node where
  | data (t : Text)
  | print (e : Expr)
  | custom (arguments : List Expr)
  | loop (target : Target) (source : Expr) (condition : Option Expr) (body orElse : List Node)
  | branch (test : Expr) (body : List Node) (others : List (Expr × List Node)) (orElse : List Node)
  | assign (target : Target) (value : Expr)
  | assignBlock (target : Target) (filter : Option Expr) (body : List Node)
  | filterBlock (filter : Expr) (body : List Node)

namespace Target

mutual

/-- The names that the target binds, each with its line. -/
def names : Target → List (Nat × Text)
  | .name line n => [(line, n)]
  | .tuple targets => namesOf targets
  | .member _ _ => []

def namesOf : List Target → List (Nat × Text)
  | [] => []
  | t :: ts => names t ++ namesOf ts

end

end Target

end HaxeBuild.Template
