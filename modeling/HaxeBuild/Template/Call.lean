import HaxeBuild.Template.Filter
import HaxeBuild.Value.Objects

namespace HaxeBuild.Template.Call

def range (p : Passed) : Outcome Value :=
  match p.named, p.positional.map Value.integer? with
  | [], [some stop] => .ok (.range 0 stop 1)
  | [], [some start, some stop] => .ok (.range start stop 1)
  | [], [some start, some stop, some step] =>
    if step == 0 then Outcome.fail .badValue else .ok (.range start stop step)
  | _, _ => Outcome.fail .wrongType

/-- A dictionary from another one or from pairs, and from named arguments. -/
def mapping (p : Passed) : Outcome Value :=
  let (result, entries) := (Method.update p).run []
  result.map fun _ => .dict entries

/-- The source of a loop: nothing at all is an empty one, and what cannot be looped over is reported
with the line of the loop. -/
def iterate (p : Passed) : Outcome Value := do
  match (← p.bind [("value", none), ("line", none)]) with
  | [v, line] =>
    match v with
    | .none => return .tuple []
    | .absent _ => return .tuple []
    | v =>
      if v.items?.isSome then return v
      else
        throw (.malformedTemplate ⟨.notIterable v.typeName, (line.integer?.map Int.toNat).getD 0⟩)
  | _ => Outcome.fail .wrongType

/-- Calls a method of a value, which may change the value if it is an object. -/
def method (name : Text) (owner : Value) (p : Passed) : Evaluation Value :=
  match owner.list?, owner.entries? with
  | some items, _ =>
    match Value.listMethods.lookup name with
    | some m => Evaluation.act m p owner.identity? items .list
    | none => throw (.fault .noAttribute)
  | _, some entries =>
    match (Value.dictMethods owner).lookup name with
    | some m => Evaluation.act m p owner.identity? entries .dict
    | none => throw (.fault .noAttribute)
  | _, _ =>
    match owner.fixedMethods.lookup name with
    | some m => do Evaluation.own (← (m p : Outcome Value))
    | none => throw (.fault .noAttribute)

/-- Calls a value. The command is what the default build command renders to. -/
def run (command : Objects → Outcome Text) (function : Value) (p : Passed) : Evaluation Value := do
  match function, p with
  | .absent why, _ => throw (.absentValue why)
  | .builtin .range, _ => range p
  | .builtin .mapping, _ => Evaluation.own (← (mapping p : Outcome Value))
  | .builtin .iterate, _ => iterate p
  | .builtin .defaultCommand, ⟨[], []⟩ => return .text (← (command (← get) : Outcome Text))
  | .constant _ result, ⟨[], []⟩ => return result
  | .constant _ _, ⟨[other], []⟩ => return other
  | .method name owner, _ => method name owner p
  | _, _ => throw (.fault .wrongType)

end HaxeBuild.Template.Call
