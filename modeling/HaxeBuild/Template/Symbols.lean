import HaxeBuild.Template.Syntax

namespace HaxeBuild.Template

namespace Expr

mutual

/-- The names that an expression reads. -/
def reads : Expr → List Text
  | .const _ => []
  | .name n => [n]
  | .list items => readsAll items
  | .tuple items => readsAll items
  | .dict entries => readsEntries entries
  | .unary _ a => reads a
  | .binary _ a b => reads a ++ reads b
  | .both a b => reads a ++ reads b
  | .either a b => reads a ++ reads b
  | .compare a others => reads a ++ readsComparisons others
  | .concat items => readsAll items
  | .conditional _ condition yes no => reads condition ++ reads yes ++ readsOption no
  | .member a _ => reads a
  | .item a key => reads a ++ reads key
  | .slice start stop step => readsOption start ++ readsOption stop ++ readsOption step
  | .call f arguments => reads f ++ readsArguments arguments
  | .filter _ input _ arguments => readsOption input ++ readsArguments arguments
  | .test _ input _ arguments => reads input ++ readsArguments arguments

/-- The names that an expression reads, if there is one. -/
def readsOption : Option Expr → List Text
  | none => []
  | some e => reads e

/-- The names that expressions read, in their order. -/
def readsAll : List Expr → List Text
  | [] => []
  | e :: es => reads e ++ readsAll es

/-- The names that the entries of a dictionary read, each key before its value. -/
def readsEntries : List (Expr × Expr) → List Text
  | [] => []
  | (key, value) :: rest => reads key ++ reads value ++ readsEntries rest

/-- The names that the later terms of a chained comparison read. -/
def readsComparisons : List (Value.Comparison × Expr) → List Text
  | [] => []
  | (_, e) :: rest => reads e ++ readsComparisons rest

/-- The names that arguments passed by name read. -/
def readsNamed : List (Text × Expr) → List Text
  | [] => []
  | (_, e) :: rest => reads e ++ readsNamed rest

/-- The names that the arguments of a call read. -/
def readsArguments : Arguments → List Text
  | .mk positional named spread spreadNames =>
    readsAll positional ++ readsNamed named ++ readsOption spread ++ readsOption spreadNames

end

end Expr

namespace Target

mutual

/-- The owners of the members that the target binds. -/
def owners : Target → List Text
  | .name _ _ => []
  | .tuple targets => ownersOf targets
  | .member owner _ => [owner]

/-- The names whose attributes are set by targets. -/
def ownersOf : List Target → List Text
  | [] => []
  | t :: ts => owners t ++ ownersOf ts

end

end Target

/-- What a name holds when its part is entered: what is given there, the parameter of that name, the
value in the part around it, or nothing. -/
inductive Origin where
  | given
  | parameter
  | outer
  | nothing
  deriving DecidableEq

/-- The names of one part, and which of them are assigned in it. -/
structure Symbols where
  names : List (Text × Origin)
  assigned : List Text

namespace Symbols

/-- No name is known. -/
def empty : Symbols := ⟨[], []⟩

/-- Gives a name its origin, in the place of an earlier one. -/
def set (name : Text) (origin : Origin) : List (Text × Origin) → List (Text × Origin)
  | [] => [(name, origin)]
  | (n, o) :: rest => if n == name then (n, origin) :: rest else (n, o) :: set name origin rest

/-- Whether a name has an origin here. -/
def has (s : Symbols) (name : Text) : Bool := s.names.any (·.1 == name)

/-- A name that is given on entry. -/
def give (s : Symbols) (name : Text) : Symbols := ⟨set name .given s.names, name :: s.assigned⟩

/-- A name that no part around this one has is a parameter. -/
def read (known : List Text) (s : Symbols) (name : Text) : Symbols :=
  if s.has name || known.contains name then s else ⟨set name .parameter s.names, s.assigned⟩

/-- A name that is assigned belongs to this part. -/
def assign (known : List Text) (s : Symbols) (name : Text) : Symbols :=
  if s.has name then ⟨s.names, name :: s.assigned⟩
  else
    ⟨set name (if known.contains name then .outer else .nothing) s.names, name :: s.assigned⟩

/-- Takes note of names that are read. -/
def readAll (known : List Text) (s : Symbols) (names : List Text) : Symbols :=
  names.foldl (read known) s

/-- Takes note of the names that a target binds. -/
def assignTarget (known : List Text) (s : Symbols) (t : Target) : Symbols :=
  readAll known ((t.names.map Prod.snd).foldl (assign known) s) t.owners

/-- Joins the symbols of the branches of a condition. A name that only branches assign holds on
entry what it would hold without them. -/
def merge (known : List Text) (s : Symbols) (branches : List Symbols) : Symbols :=
  let fresh := (branches.flatMap (·.assigned)).filter (!s.assigned.contains ·)
  let names := (branches.flatMap (·.names)).foldl (fun names (n, o) => set n o names) s.names
  let names := fresh.foldl
    (fun names n => set n (if known.contains n then .outer else .parameter) names) names
  ⟨names, fresh ++ s.assigned⟩

mutual

/-- The symbols after a node. The inside of a loop or of a capturing block is a part of its own. -/
def visit (known : List Text) : Symbols → Node → Symbols
  | s, .data _ => s
  | s, .print e => s.readAll known e.reads
  | s, .custom arguments => s.readAll known (Expr.readsAll arguments)
  | s, .loop _ source _ _ _ => s.readAll known source.reads
  | s, .branch test body others orElse =>
    let s := s.readAll known test.reads
    s.merge known [visitAll known s body, visitOthers known s others, visitAll known s orElse]
  | s, .assign target value => (s.readAll known value.reads).assignTarget known target
  | s, .assignBlock target _ _ => s.assignTarget known target
  | s, .filterBlock filter _ => s.readAll known filter.reads

/-- Takes note of the names in nodes, in their order. -/
def visitAll (known : List Text) : Symbols → List Node → Symbols
  | s, [] => s
  | s, n :: ns => visitAll known (visit known s n) ns

/-- Takes note of the names in the later branches of a condition. -/
def visitOthers (known : List Text) : Symbols → List (Expr × List Node) → Symbols
  | s, [] => s
  | s, (test, body) :: rest =>
    let s := s.readAll known test.reads
    visitOthers known (s.merge known [visitAll known s body, s, s]) rest

end

/-- The names of a whole template. -/
def ofTemplate (nodes : List Node) : Symbols := visitAll [] empty nodes

/-- Names that are bound from outside, such as the arguments of a macro. -/
def ofGiven (names : List Text) : Symbols := names.foldl give empty

/-- The names of a loop's body, with its target bound. -/
def ofLoopBody (known : List Text) (t : Target) (body : List Node) : Symbols :=
  visitAll known (ofGiven ("loop" :: t.names.map Prod.snd)) body

/-- The names of a loop's filter, with its target bound. -/
def ofLoopCondition (known : List Text) (t : Target) (condition : Expr) : Symbols :=
  (ofGiven (t.names.map Prod.snd)).readAll known condition.reads

/-- The names of a body that has a scope of its own. -/
def ofBlock (known : List Text) (body : List Node) : Symbols := visitAll known empty body

/-- The names of a filtered block, with those that the filter reads. -/
def ofFilterBlock (known : List Text) (body : List Node) (filter : Expr) : Symbols :=
  (ofBlock known body).readAll known filter.reads

end Symbols

end HaxeBuild.Template
