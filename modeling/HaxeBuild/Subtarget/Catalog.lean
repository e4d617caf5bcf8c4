import HaxeBuild.Error
import HaxeBuild.Log
import HaxeBuild.Program.Reader

namespace HaxeBuild.Subtarget

/-- Subtargets in the order of their declaration; later ones override earlier ones. -/
abbrev Catalog := List Subtarget

namespace Catalog

/-- The two kinds of metadata that declare subtargets. -/
def declares (kind : MetadataKind) : Bool := kind == .addSubtarget || kind == .addSubtargetList

/-- The subtargets that one class or member declares, in the order of its metadata. -/
def declared (m : Metadata) : List Value :=
  m.flatMap fun (kind, vs) => if declares kind then Value.flattenAll vs else []

/-- The first bad declaration stops the reading. -/
def read : List Value → Outcome (List Subtarget)
  | [] => .ok []
  | v :: vs => do
    let s ← (Subtarget.ofValue v).orFail
    return s :: (← read vs)

def ofProgram (p : Program) (standard : List Subtarget) : Outcome Catalog := do
  return standard ++ (← read (p.classes.flatMap fun c => c.nodes.flatMap declared))

def names (c : Catalog) : List Text := c.map (·.name)

/-- The last subtarget that answers to the name. -/
def resolve (c : Catalog) (requested : Text) : Outcome Subtarget :=
  match c.reverse.find? (·.answersTo requested) with
  | some s => .ok s
  | none => .error (.unknownSubtarget requested c.names)

def entry (requested : Text) (s : Subtarget) : LogEntry :=
  ⟨.debug, "Subtarget '" ++ requested ++ "' resolved to '" ++ s.name ++ "'"⟩

end Catalog

end HaxeBuild.Subtarget
