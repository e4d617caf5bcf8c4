import HaxeBuild.Template.Eval

namespace HaxeBuild.Template

namespace Expr

/-- In a constant expression no name is read and nothing is called. -/
def constantScope : Scope :=
  ⟨fun _ => Outcome.fail .unboundName, fun _ _ => throw (.fault .unboundName), []⟩

/-- Constant parts are evaluated beforehand, so what they skip is never looked at. -/
def isConstant (e : Expr) : Bool :=
  match ((e.eval constantScope).run ⟨0, []⟩).1 with
  | .ok v => !v.isAbsent
  | .error _ => false

def unknown (lenient known : Bool) (flaw : SyntaxFlaw) : Except SyntaxFlaw Unit :=
  if known || lenient then .ok () else .error flaw

mutual

/-- Inside a condition an unknown filter is an error only when it is used. -/
def check (lenient : Bool) (e : Expr) : Except SyntaxFlaw Unit :=
  if e.isConstant then .ok ()
  else
    match e with
    | .const _ => .ok ()
    | .name _ => .ok ()
    | .list items => checkAll lenient items
    | .tuple items => checkAll lenient items
    | .dict entries => checkEntries lenient entries
    | .unary _ a => check lenient a
    | .binary _ a b => do
      check lenient a
      check lenient b
    | .both a b => do
      check lenient a
      check lenient b
    | .either a b => do
      check lenient a
      check lenient b
    | .compare a others => do
      check lenient a
      checkComparisons lenient others
    | .concat items => checkAll lenient items
    | .conditional _ condition yes no => do
      check true yes
      check true condition
      checkOption true no
    | .member a _ => check lenient a
    | .item a key => do
      check lenient a
      check lenient key
    | .slice start stop step => do
      checkOption lenient start
      checkOption lenient stop
      checkOption lenient step
    | .call f arguments => do
      check lenient f
      checkArguments lenient arguments
    | .filter line input n arguments => do
      unknown lenient (Filter.find? n).isSome ⟨.unknownFilter n, line⟩
      checkOption lenient input
      checkArguments lenient arguments
    | .test line input n arguments => do
      unknown lenient (Check.find? n).isSome ⟨.unknownTest n, line⟩
      check lenient input
      checkArguments lenient arguments

def checkOption (lenient : Bool) : Option Expr → Except SyntaxFlaw Unit
  | none => .ok ()
  | some e => check lenient e

def checkAll (lenient : Bool) : List Expr → Except SyntaxFlaw Unit
  | [] => .ok ()
  | e :: es => do
    check lenient e
    checkAll lenient es

def checkEntries (lenient : Bool) : List (Expr × Expr) → Except SyntaxFlaw Unit
  | [] => .ok ()
  | (key, value) :: rest => do
    check lenient key
    check lenient value
    checkEntries lenient rest

def checkComparisons (lenient : Bool) : List (Value.Comparison × Expr) → Except SyntaxFlaw Unit
  | [] => .ok ()
  | (_, e) :: rest => do
    check lenient e
    checkComparisons lenient rest

def checkNamed (lenient : Bool) : List (Text × Expr) → Except SyntaxFlaw Unit
  | [] => .ok ()
  | (_, e) :: rest => do
    check lenient e
    checkNamed lenient rest

def checkArguments (lenient : Bool) : Arguments → Except SyntaxFlaw Unit
  | .mk positional named spread spreadNames => do
    checkAll lenient positional
    checkNamed lenient named
    checkOption lenient spread
    checkOption lenient spreadNames

end

end Expr

namespace Node

mutual

/-- The names that the nodes bind, with their lines. -/
def bound : Node → List (Nat × Text)
  | .loop target _ _ body orElse => target.names ++ boundAll body ++ boundAll orElse
  | .branch _ body others orElse => boundAll body ++ boundOthers others ++ boundAll orElse
  | .assign target _ => target.names
  | .assignBlock target _ body => target.names ++ boundAll body
  | .filterBlock _ body => boundAll body
  | .data _ => []
  | .print _ => []
  | .custom _ => []

def boundAll : List Node → List (Nat × Text)
  | [] => []
  | n :: ns => bound n ++ boundAll ns

def boundOthers : List (Expr × List Node) → List (Nat × Text)
  | [] => []
  | (_, body) :: rest => boundAll body ++ boundOthers rest

end

def refuseLoopName (names : List (Nat × Text)) : Except SyntaxFlaw Unit :=
  match names.find? fun (_, n) => n == "loop" with
  | some (line, _) => .error ⟨.assignsLoop, line⟩
  | none => .ok ()

mutual

/-- The body of a loop or of a block that captures text is strict again. -/
def check (lenient : Bool) : Node → Except SyntaxFlaw Unit
  | .data _ => .ok ()
  | .print e => e.check lenient
  | .custom arguments => Expr.checkAll lenient arguments
  | .loop target source condition body orElse => do
    Expr.checkOption false condition
    refuseLoopName (target.names ++ boundAll body ++ boundAll orElse)
    source.check lenient
    checkAll false body
    checkAll false orElse
  | .branch test body others orElse => do
    test.check true
    checkAll true body
    checkOthers others
    checkAll true orElse
  | .assign _ value => value.check lenient
  | .assignBlock _ filter body => do
    checkAll false body
    Expr.checkOption false filter
  | .filterBlock filter body => do
    checkAll false body
    filter.check false

def checkAll (lenient : Bool) : List Node → Except SyntaxFlaw Unit
  | [] => .ok ()
  | n :: ns => do
    check lenient n
    checkAll lenient ns

def checkOthers : List (Expr × List Node) → Except SyntaxFlaw Unit
  | [] => .ok ()
  | (test, body) :: rest => do
    test.check true
    checkAll true body
    checkOthers rest

end

end Node

end HaxeBuild.Template
