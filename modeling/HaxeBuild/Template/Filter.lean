import HaxeBuild.Text.Quoted
import HaxeBuild.Value.Method

namespace HaxeBuild.Template

namespace Filter

/-- The texts of the members with the separator between them. -/
def join (v separator : Value) : Outcome Value :=
  if !v.truthy then .ok (.text [])
  else
    match separator.text?, separator.absent?, separator, v.items? with
    | some s, _, _, some items => .ok (.text (Text.join s (items.map Value.toText)))
    | some _, _, _, none => Outcome.fail .wrongType
    | none, some why, _, _ => .error (.absentValue why)
    | none, none, .bytes _, _ => Outcome.fail .wrongType
    | none, none, _, _ => Outcome.fail .noAttribute

def length (v : Value) : Outcome Value :=
  if !v.truthy then .ok (.int 0)
  else
    match v.length? with
    | some n => .ok (.int n)
    | none => Outcome.fail .wrongType

/-- The replacement for an absent value, and on request for every false one. -/
def default (v replacement whenFalse : Value) : Value :=
  if v.isAbsent || (whenFalse.truthy && !v.truthy) then replacement else v

def textual (change : Text → Text) (p : Passed) : Outcome Value := do
  match (← p.bind [("v", none)]) with
  | [v] => return .text (change v.toText)
  | _ => Outcome.fail .wrongType

def runDefault (p : Passed) : Outcome Value := do
  match (← p.bind [("value", none), ("default_value", some (.text [])),
      ("boolean", some (.bool false))]) with
  | [v, replacement, whenFalse] => return default v replacement whenFalse
  | _ => Outcome.fail .wrongType

def runJoin (p : Passed) : Outcome Value := do
  match (← p.bind [("value", none), ("separator", some (.text " "))]) with
  | [v, separator] => join v separator
  | _ => Outcome.fail .wrongType

def runLength (p : Passed) : Outcome Value := do
  match (← p.bind [("value", none)]) with
  | [v] => length v
  | _ => Outcome.fail .wrongType

/-- The filters by name. -/
def all : List (Text × (Passed → Outcome Value)) := [
  ("upper", textual Text.upper),
  ("lower", textual Text.lower),
  ("capitalize", textual Text.capitalize),
  ("length", runLength),
  ("join", runJoin),
  ("quote", textual Text.quoted),
  ("default", runDefault),
  ("d", runDefault)]

def find? (name : Text) : Option (Passed → Outcome Value) := all.lookup name

end Filter

namespace Check

def run (holds : Value → Bool) (p : Passed) : Outcome Value := do
  match (← p.bind [("value", none)]) with
  | [v] => return .bool (holds v)
  | _ => Outcome.fail .wrongType

def isNothing : Value → Bool
  | .none => true
  | _ => false

/-- The tests by name. -/
def all : List (Text × (Passed → Outcome Value)) := [
  ("defined", run (!·.isAbsent)),
  ("undefined", run (·.isAbsent)),
  ("none", run isNothing)]

def find? (name : Text) : Option (Passed → Outcome Value) := all.lookup name

end Check

end HaxeBuild.Template
