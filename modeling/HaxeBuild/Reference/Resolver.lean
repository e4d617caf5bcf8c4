import HaxeBuild.Error
import HaxeBuild.Log
import HaxeBuild.Reference.Names

namespace HaxeBuild

/-- The program that references speak of, and the names of its members. -/
structure Resolver where
  program : Program
  names : TargetNames

namespace Resolver

/-- Without a signature only a method with a single overload is meant. -/
def findMethod (c : ClassNode) (ref : ReferenceDescriptor) : Outcome MethodNode :=
  let member := ref.member.getD []
  match ref.signature with
  | some signature =>
    match c.findMethod member signature with
    | some m => .ok m
    | none => .error (.unknownMember ref.text c.name member signature)
  | none =>
    match c.methodsByName member with
    | [] => .error (.unknownMember ref.text c.name member none)
    | [m] => .ok m
    | overloads =>
      .error (.ambiguousMember ref.text c.name member (Text.sorted (overloads.map (·.signature))))

def findField (c : ClassNode) (ref : ReferenceDescriptor) : Outcome FieldNode :=
  let member := ref.member.getD []
  match c.findField member with
  | some f => .ok f
  | none => .error (.unknownMember ref.text c.name member none)

/-- The symbol for a reference into the class. -/
def symbol (names : TargetNames) (c : ClassNode) (ref : ReferenceDescriptor) : Outcome Text :=
  let className := TargetNames.className c.name
  let method := do return names.methodName c (← findMethod c ref)
  let field := do return names.fieldName c (← findField c ref)
  match ref.kind with
  | .classRef => .ok className
  | .staticInit => .ok (TargetNames.staticInit c)
  | .constructor => do return "new " ++ className ++ "()." ++ (← method)
  | .staticMethod => do return className ++ "." ++ (← method)
  | .instanceMethod => method
  | .staticField => do return className ++ "." ++ (← field)
  | .instanceField => field

def resolve (r : Resolver) (ref : ReferenceDescriptor) : Outcome Text :=
  match r.program.getClass ref.owner with
  | none => .error (.unknownClass ref.text ref.owner)
  | some c => symbol r.names c ref

/-- Every resolved reference is logged. -/
def entry (ref : ReferenceDescriptor) (result : Text) : LogEntry :=
  ⟨.debug, "Resolved " ++ ref.text ++ " -> " ++ result⟩

def descriptor {α : Type} : Except MalformedDescriptor α → Outcome α
  | .ok a => .ok a
  | .error m => .error (.malformedDescriptor m)

def resolveText (r : Resolver) (text : Text) : Outcome Text := do
  r.resolve (← descriptor (ReferenceDescriptor.parse text))

end Resolver

end HaxeBuild
