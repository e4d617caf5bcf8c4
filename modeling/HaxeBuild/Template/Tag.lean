import HaxeBuild.Reference.Resolver
import HaxeBuild.Text.Blank
import HaxeBuild.Value.Print

namespace HaxeBuild.Template

/-- A custom tag is written as its sigil right before the content, or as an alias and a blank. -/
structure Tag where
  sigil : Text
  aliases : List Text
  render : (name content : Value) → Outcome (Text × Log)

namespace Tag

/-- The name that a tag text was written with, and its content; `none` for other tags' texts. -/
def split? (sigil : Text) (aliases : List Text) (content : Text) : Option (Text × Text) :=
  match Text.after? sigil content with
  | some payload => some (sigil, payload.trim)
  | none =>
    match content.firstWord? with
    | some (word, payload) =>
      if aliases.contains word then some (word, Text.trim payload) else none
    | none => none

def accepts? (tag : Tag) (content : Text) : Option (Text × Text) :=
  split? tag.sigil tag.aliases content

/-- A value that is used as text; an absent one says why it is absent. -/
def textOf (v : Value) : Outcome Text :=
  match v.text?, v.absent? with
  | some t, _ => .ok t
  | _, some why => .error (.absentValue why)
  | _, _ => Outcome.fail .noAttribute

namespace Reference

def sigil : Text := ":programref:"

def aliases : List Text :=
  ["SINIT", "CONSTRUCTOR", "SMETHOD", "METHOD", "SFIELD", "FIELD", "CLASS"]

/-- Behind the sigil stands a whole descriptor; an alias is itself the kind. -/
def descriptor (name content : Value) : Outcome ReferenceDescriptor :=
  if name.text? == some sigil then do
    Resolver.descriptor (ReferenceDescriptor.parse (← textOf content))
  else do
    let token ← textOf name
    let text := token ++ ":" ++ content.print
    match content.text?, ReferenceKind.ofToken? token with
    | some payload, _ => Resolver.descriptor (ReferenceDescriptor.ofParts token payload text)
    | none, none => .error (.malformedDescriptor ⟨text, .unknownKind token.trim⟩)
    | none, some _ =>
      Resolver.descriptor (ReferenceDescriptor.ofParts token (← textOf content) text)

def render (r : Resolver) (name content : Value) : Outcome (Text × Log) := do
  let ref ← descriptor name content
  let symbol ← r.resolve ref
  return (symbol, [Resolver.entry ref symbol])

end Reference

/-- The tag that writes the target symbol of a program reference. -/
def reference (r : Resolver) : Tag := ⟨Reference.sigil, Reference.aliases, Reference.render r⟩

end Tag

end HaxeBuild.Template
