import HaxeBuild.Text.Blank
import HaxeBuild.Text.Case

namespace HaxeBuild

inductive ReferenceKind where
  | staticInit
  | constructor
  | staticMethod
  | instanceMethod
  | staticField
  | instanceField
  | classRef
  deriving DecidableEq

namespace ReferenceKind

def label : ReferenceKind → Text
  | staticInit => "StaticInit"
  | constructor => "Constructor"
  | staticMethod => "StaticMethod"
  | instanceMethod => "InstanceMethod"
  | staticField => "StaticField"
  | instanceField => "InstanceField"
  | classRef => "ClassRef"

/-- The words for each kind, in upper case. -/
def tokens : List (Text × ReferenceKind) := [
  ("SINIT", staticInit),
  ("STATICINIT", staticInit),
  ("CONSTRUCTOR", constructor),
  ("SMETHOD", staticMethod),
  ("STATICMETHOD", staticMethod),
  ("METHOD", instanceMethod),
  ("INSTANCEMETHOD", instanceMethod),
  ("SFIELD", staticField),
  ("STATICFIELD", staticField),
  ("FIELD", instanceField),
  ("INSTANCEFIELD", instanceField),
  ("CLASS", classRef),
  ("CLASSREF", classRef)]

/-- Upper and lower case are not told apart. -/
def ofToken? (token : Text) : Option ReferenceKind := tokens.lookup token.trim.upper

/-- How many parts the kind takes, the owner among them. -/
def partCounts : ReferenceKind → List Nat
  | staticInit => [1]
  | constructor => [2]
  | staticMethod => [2, 3]
  | instanceMethod => [2, 3]
  | staticField => [2]
  | instanceField => [2]
  | classRef => [1]

end ReferenceKind

/-- Why a text is no descriptor. -/
inductive DescriptorFlaw where
  | missingColon
  | unknownKind (token : Text)
  | wrongCount (kind : ReferenceKind) (found : Nat)
  | emptyPart
  deriving DecidableEq

namespace DescriptorFlaw

def message : DescriptorFlaw → Text
  | missingColon => "missing ':' after kind"
  | unknownKind token => "unknown kind '" ++ token ++ "'"
  | wrongCount kind found =>
    kind.label ++ " expects " ++ Text.join " or " (kind.partCounts.map Text.ofNat) ++
      " part(s), got " ++ Text.ofNat found
  | emptyPart => "empty part"

end DescriptorFlaw

/-- A text that is no descriptor, with the reason. -/
structure MalformedDescriptor where
  text : Text
  flaw : DescriptorFlaw
  deriving DecidableEq

structure ReferenceDescriptor where
  kind : ReferenceKind
  owner : Text
  member : Option Text
  signature : Option Text
  text : Text
  deriving DecidableEq

namespace ReferenceDescriptor

/-- The member name of every constructor. -/
def constructorName : Text := "<init>"

/-- The trimmed parts of a payload. -/
def partsOf (payload : Text) : List Text :=
  (Text.splitOn (.char ':') payload.trim).map Text.trim

/-- A constructor's second part is its signature; any other kind's is the member. -/
def ofPartList (kind : ReferenceKind) (parts : List Text) (text : Text) : ReferenceDescriptor :=
  let owner := parts.headD []
  match kind with
  | .constructor => ⟨kind, owner, some constructorName, parts[1]?, text⟩
  | _ => ⟨kind, owner, parts[1]?, parts[2]?, text⟩

/-- Reads a kind and its payload; `text` stands for the whole in messages. -/
def ofParts (token payload text : Text) : Except MalformedDescriptor ReferenceDescriptor :=
  match ReferenceKind.ofToken? token with
  | none => .error ⟨text, .unknownKind token.trim⟩
  | some kind =>
    let parts := partsOf payload
    if !kind.partCounts.contains parts.length then .error ⟨text, .wrongCount kind parts.length⟩
    else if parts.contains [] then .error ⟨text, .emptyPart⟩
    else .ok (ofPartList kind parts text)

def parse (text : Text) : Except MalformedDescriptor ReferenceDescriptor :=
  let text := text.trim
  match Text.cut? ":" text with
  | none => .error ⟨text, .missingColon⟩
  | some (token, payload) => ofParts token payload text

end ReferenceDescriptor

end HaxeBuild
