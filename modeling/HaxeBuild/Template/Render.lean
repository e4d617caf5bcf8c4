import HaxeBuild.Template.Check
import HaxeBuild.Template.Parser
import HaxeBuild.Template.Segment
import HaxeBuild.Template.Symbols

namespace HaxeBuild.Template

/-- The names of a part with what they hold at the moment. -/
abbrev Frame := List (Text × Option Value)

/-- What a rendering is given: custom tags, parameters, and what the default build command renders
to. -/
structure Context where
  tags : List Tag
  parameters : List (Text × Value)
  command : Objects → Outcome Text

namespace Context

/-- The functions of every template, which parameters can hide. -/
def globals : List (Text × Value) := [
  ("range", .builtin .range), ("dict", .builtin .mapping), ("_iterate", .builtin .iterate)]

def find? (c : Context) (name : Text) : Option Value :=
  (c.parameters.lookup name).or (globals.lookup name)

end Context

/-- How far a rendering has come: the frames of the parts it is in, innermost first, its log, and the
objects that it may have changed. -/
structure Progress where
  frames : List Frame
  log : Log
  objects : Objects

/-- An error ends a rendering but undoes nothing that it has logged or changed. -/
abbrev Render := ExceptT BuildError (StateM Progress)

/-- What has been written; a value that is not text spoils it. -/
abbrev Written := Option Text

namespace Render

def known : Render (List Text) := do
  return (← get).frames.flatMap fun frame => frame.map Prod.fst

/-- What the innermost frame with the name holds. -/
def slot? (frames : List Frame) (name : Text) : Option (Option Value) :=
  frames.findSome? fun frame => frame.lookup name

def value (frames : List Frame) (name : Text) : Outcome Value :=
  match slot? frames name with
  | some (some v) => .ok v
  | some none => .ok (.absent (Text.shown name ++ " is undefined"))
  | none => Outcome.fail .unboundName

def scope (c : Context) (captured : Text) : Render Scope := do
  let frames := (← get).frames
  return ⟨value frames, Call.run c.command, captured⟩

def evaluate {α : Type} (act : Evaluation α) : Render α := do
  let p ← get
  let (result, objects) := act.run p.objects
  set { p with objects }
  (result : Except BuildError α)

/-- The value of an expression as it is when the whole expression has been evaluated. -/
def eval (c : Context) (e : Expr) : Render Value := do
  let s ← scope c []
  evaluate do Evaluation.now (← e.eval s)

/-- The frame of a part as it is entered. -/
def entered (c : Context) (frames : List Frame) (s : Symbols) (given : List (Text × Value)) :
    Frame :=
  s.names.map fun (name, origin) =>
    (name, match origin with
      | .given => given.lookup name
      | .parameter => c.find? name
      | .outer => (slot? frames name).join
      | .nothing => none)

/-- Renders a part in a frame of its own. -/
def within {α : Type} (c : Context) (s : Symbols) (given : List (Text × Value)) (part : Render α) :
    Render α := do
  modify fun p => { p with frames := entered c p.frames s given :: p.frames }
  let a ← part
  modify fun p => { p with frames := p.frames.drop 1 }
  return a

def setIn (name : Text) (v : Value) : List Frame → List Frame
  | [] => []
  | frame :: outer =>
    frame.map (fun (n, old) => if n == name then (n, some v) else (n, old)) :: outer

mutual

/-- Binds a target, several names to the members of the value. -/
def bind : Target → Value → Render Unit
  | .name _ n, v => modify fun p => { p with frames := setIn n v p.frames }
  | .tuple targets, v =>
    match v.items? with
    | some items =>
      if items.length = targets.length then bindAll targets items else throw (.fault .badValue)
    | none => throw (.fault .wrongType)
  | .member _ _, _ => throw (.fault .unknownOperation)

def bindAll : List Target → List Value → Render Unit
  | t :: ts, v :: vs => do
    bind t v
    bindAll ts vs
  | _, _ => return

end

/-- Lets the tag at the index write; the index counts from the end if it is negative. -/
def dispatch (c : Context) (arguments : List Value) : Render Written := do
  match arguments with
  | [index, name, content] =>
    match index.integer? with
    | some n =>
      match Value.nth? c.tags n with
      | some tag =>
        let (t, entries) ← (tag.render name content : Outcome (Text × Log))
        modify fun p => { p with log := p.log ++ entries }
        return some t
      | none => throw (.fault .outOfRange)
    | none => throw (.fault .wrongType)
  | _ => throw (.fault .wrongType)

def append (a b : Written) : Written := do return (← a) ++ (← b)

/-- The text of a part that has been written as a whole. -/
def joined (w : Written) : Render Text :=
  match w with
  | some t => return t
  | none => throw (.fault .wrongType)

/-- The members for which a condition holds. -/
def select (c : Context) (target : Target) (condition : Expr) :
    List Value → Render (List Value)
  | [] => return []
  | v :: vs => do
    let symbols := Symbols.ofLoopCondition (← known) target condition
    let wanted ← within c symbols [] do
      bind target (← evaluate (Evaluation.now v))
      eval c condition
    let rest ← select c target condition vs
    return if wanted.truthy then v :: rest else rest

/-- Renders the body of a loop for one member after the other. -/
def each (c : Context) (target : Target) (symbols : Symbols) (length : Nat)
    (body : Render Written) : (index : Nat) → List Value → Render Written
  | _, [] => return some []
  | index, v :: vs => do
    let first ← within c symbols [("loop", .loop ⟨index, length⟩)] do
      bind target (← evaluate (Evaluation.now v))
      body
    return append first (← each c target symbols length body (index + 1) vs)

/-- What a filter makes of captured text. -/
def filtered (c : Context) (filter : Expr) (w : Written) : Render Value := do
  let scope ← scope c (← joined w)
  evaluate (filter.eval scope)

/-- Captured text takes part in the output only if the filter gives text. -/
def written (v : Value) : Written := v.text?

end Render

namespace Node

open Render

mutual

def render (c : Context) : Node → Render Written
  | .data t => return some t
  | .print e => do return some (← Render.eval c e).toText
  | .custom arguments => do
    let scope ← scope c []
    dispatch c (← evaluate do Evaluation.nowAll (← Expr.evalAll scope arguments))
  | .loop target source condition body orElse => do
    let v ← Render.eval c source
    match v.items? with
    | none => throw (.fault .wrongType)
    | some items =>
      let items ← match condition with
        | some e => select c target e items
        | none => pure items
      if items.isEmpty then
        let symbols := Symbols.ofBlock (← known) orElse
        within c symbols [] (renderAll c orElse)
      else
        let symbols := Symbols.ofLoopBody (← known) target body
        each c target symbols items.length (renderAll c body) 0 items
  | .branch test body others orElse => do
    let v ← Render.eval c test
    if v.truthy then renderAll c body else renderOthers c (renderAll c orElse) others
  | .assign target value => do
    bind target (← Render.eval c value)
    return some []
  | .assignBlock target filter body => do
    let symbols := Symbols.ofBlock (← known) body
    let v ← within c symbols [] do
      let w ← renderAll c body
      match filter with
      | some e => filtered c e w
      | none => return .text (← joined w)
    bind target v
    return some []
  | .filterBlock filter body => do
    let symbols := Symbols.ofFilterBlock (← known) body filter
    within c symbols [] do return written (← filtered c filter (← renderAll c body))

def renderAll (c : Context) : List Node → Render Written
  | [] => return some []
  | n :: ns => do
    let first ← render c n
    return append first (← renderAll c ns)

/-- Renders the first branch whose test holds, or else the last one. -/
def renderOthers (c : Context) (otherwise : Render Written) :
    List (Expr × List Node) → Render Written
  | [] => otherwise
  | (test, body) :: rest => do
    let v ← Render.eval c test
    if v.truthy then renderAll c body else renderOthers c otherwise rest

end

end Node

/-- A template that is ready to be rendered. -/
structure Compiled where
  nodes : List Node

def compile (tags : List Tag) (template : Text) : Except SyntaxFlaw Compiled := do
  let nodes ← Node.parse (← expand tags template)
  Node.checkAll false nodes
  return ⟨nodes⟩

namespace Compiled

def run (c : Context) (t : Compiled) : Render Text :=
  Render.within c (Symbols.ofTemplate t.nodes) [] do
    Render.joined (← Node.renderAll c t.nodes)

end Compiled

/-- What a rendering leaves behind, whether it gives a text or fails. -/
structure Rendering where
  result : Outcome Text
  log : Log
  objects : Objects

def render (c : Context) (objects : Objects) (template : Text) : Rendering :=
  match compile c.tags template with
  | .error flaw => ⟨.error (.malformedTemplate flaw), [], objects⟩
  | .ok t =>
    let (result, progress) := (t.run c).run ⟨[], [], objects⟩
    ⟨result, progress.log, progress.objects⟩

end HaxeBuild.Template
