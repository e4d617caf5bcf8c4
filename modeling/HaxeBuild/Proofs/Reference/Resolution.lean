import HaxeBuild.Reference.Resolver
import HaxeBuild.Proofs.Reference.Reading
import HaxeBuild.Proofs.Text.Order

namespace HaxeBuild

open TargetNames

/-- The first of the classes that have the name. -/
def Program.IsFirst (p : Program) (name : Text) (c : ClassNode) : Prop :=
  ∃ front back, p.classes = front ++ c :: back ∧ c.name = name ∧
    ∀ other ∈ front, other.name ≠ name

/-- The first class of a name is the one that is found. -/
theorem Program.getClass_of_isFirst {p : Program} {name : Text} {c : ClassNode}
    (isFirst : p.IsFirst name c) : p.getClass name = some c := by
  obtain ⟨front, back, split, named, others⟩ := isFirst
  refine List.find?_eq_some_iff_append.mpr ⟨by simpa using named, front, back, split, ?_⟩
  intro other among
  simpa using others other among

/-- No class is found under a name that none has. -/
theorem Program.getClass_eq_none {p : Program} {name : Text}
    (others : ∀ c ∈ p.classes, c.name ≠ name) : p.getClass name = none := by
  refine List.find?_eq_none.mpr fun c among => ?_
  simpa using others c among

namespace ClassNode

/-- The signatures of all methods of the name, in the order of their declaration. -/
def signatures (c : ClassNode) (name : Text) : List Text :=
  (c.methods.filter (·.name == name)).map (·.signature)

/-- How many methods have the name. -/
def overloads (c : ClassNode) (name : Text) : Nat := c.methods.countP (·.name == name)

/-- The signatures under a name are those of the methods of this name. -/
theorem mem_signatures {c : ClassNode} {name signature : Text} :
    signature ∈ c.signatures name ↔ ∃ m ∈ c.methods, m.name = name ∧ m.signature = signature := by
  simp [signatures, and_assoc]

/-- There is one signature for each overload. -/
theorem length_signatures (c : ClassNode) (name : Text) :
    (c.signatures name).length = c.overloads name := by
  rw [signatures, List.length_map, overloads, List.countP_eq_length_filter]

/-- There is one method for each overload. -/
theorem length_methodsByName (c : ClassNode) (name : Text) :
    (c.methodsByName name).length = c.overloads name :=
  List.countP_eq_length_filter.symm

/-- The methods under a name are those of this name. -/
theorem mem_methodsByName {c : ClassNode} {name : Text} {m : MethodNode} :
    m ∈ c.methodsByName name ↔ m ∈ c.methods ∧ m.name = name := by
  simp [methodsByName]

/-- The only method of its name is the one that the name finds. -/
theorem methodsByName_of_overloads {c : ClassNode} {name : Text} {m : MethodNode}
    (single : c.overloads name = 1) (among : m ∈ c.methods) (named : m.name = name) :
    c.methodsByName name = [m] := by
  obtain ⟨m', is⟩ := List.length_eq_one_iff.mp ((c.length_methodsByName name).trans single)
  have found := mem_methodsByName.mpr ⟨among, named⟩
  rw [is, List.mem_singleton] at found
  rw [is, found]

end ClassNode

namespace Resolver

/-- The resolver of a program with its names, compact or full. -/
def ofProgram (p : Program) (minimize : Bool) : Resolver := ⟨p, TargetNames.ofProgram p minimize⟩

/-! ### What a reference into a class is answered with -/

section

variable (names : TargetNames) (c : ClassNode) (text front name : Text)

/-- A reference to the method with the signature. `front` is written before the method's name. -/
structure SignedAnswer (signature : Text) (out : Outcome Text) : Prop where
  found : ∀ m ∈ c.methods, m.name = name → m.signature = signature →
    out = .ok (front ++ names.methodName c m)
  unknown : (∀ m ∈ c.methods, m.name = name → m.signature ≠ signature) →
    out = .error (.unknownMember text c.name name (some signature))

/-- A reference to the method of the name, which must be the only one. -/
structure UnsignedAnswer (out : Outcome Text) : Prop where
  succeeds_iff : (∃ symbol, out = .ok symbol) ↔ c.overloads name = 1
  found : ∀ m ∈ c.methods, m.name = name → c.overloads name = 1 →
    out = .ok (front ++ names.methodName c m)
  ambiguous : 2 ≤ c.overloads name → ∃ signatures, Text.Sorted signatures ∧
    signatures.Perm (c.signatures name) ∧
    out = .error (.ambiguousMember text c.name name signatures)
  unknown : c.overloads name = 0 → out = .error (.unknownMember text c.name name none)

/-- A reference to the field of the name. -/
structure FieldAnswer (out : Outcome Text) : Prop where
  found : ∀ f ∈ c.fields, f.name = name → out = .ok (front ++ names.fieldName c f)
  unknown : (∀ f ∈ c.fields, f.name ≠ name) →
    out = .error (.unknownMember text c.name name none)

end

/-- What a reference of the kind, with these parts behind its owner, is answered with if its owner
is the class. No kind takes other parts. -/
def Answers (names : TargetNames) (c : ClassNode) (text : Text) (out : Outcome Text) :
    ReferenceKind → List Text → Prop
  | .classRef, [] => out = .ok (className c.name)
  | .staticInit, [] => out = .ok (className c.name ++ ".SI()")
  | .constructor, [signature] =>
    SignedAnswer names c text ("new " ++ className c.name ++ "().") "<init>" signature out
  | .staticMethod, [name] => UnsignedAnswer names c text (className c.name ++ ".") name out
  | .staticMethod, [name, signature] =>
    SignedAnswer names c text (className c.name ++ ".") name signature out
  | .instanceMethod, [name] => UnsignedAnswer names c text [] name out
  | .instanceMethod, [name, signature] => SignedAnswer names c text [] name signature out
  | .staticField, [name] => FieldAnswer names c text (className c.name ++ ".") name out
  | .instanceField, [name] => FieldAnswer names c text [] name out
  | _, _ => False

/-! ### Finding members -/

section

variable {names : TargetNames} {c : ClassNode} {d : ReferenceDescriptor} {name : Text}

/-- A descriptor with a signature finds the method that has it. -/
theorem findMethod_signed (member : d.member.getD [] = name) {signature : Text}
    (signed : d.signature = some signature) (front : Text) :
    SignedAnswer names c d.text front name signature
      ((findMethod c d).map fun m => front ++ names.methodName c m) := by
  constructor
  · intro m among named is
    have present : (c.findMethod name signature).isSome :=
      List.find?_isSome.mpr ⟨m, among, by simp [named, is]⟩
    obtain ⟨m', found⟩ := Option.isSome_iff_exists.mp present
    have same : m'.name = name ∧ m'.signature = signature := by
      simpa using List.find?_some found
    have spelled : findMethod c d = .ok m' := by
      simp [findMethod, member, signed, found]
    rw [spelled, methodName_congr rfl (named.trans same.1.symm) (is.trans same.2.symm)]
    rfl
  · intro others
    have absent : c.findMethod name signature = none := by
      refine List.find?_eq_none.mpr fun m among => ?_
      simpa using others m among
    simp [findMethod, member, signed, absent, Except.map]

/-- A descriptor without a signature finds the overload that is the only one. -/
theorem findMethod_unsigned (member : d.member.getD [] = name) (unsigned : d.signature = none)
    (front : Text) :
    UnsignedAnswer names c d.text front name
      ((findMethod c d).map fun m => front ++ names.methodName c m) := by
  have found {m : MethodNode} (is : c.methodsByName name = [m]) : findMethod c d = .ok m := by
    simp [findMethod, member, unsigned, is]
  have unknown (is : c.methodsByName name = []) :
      findMethod c d = .error (.unknownMember d.text c.name name none) := by
    simp [findMethod, member, unsigned, is]
  have ambiguous {m m' : MethodNode} {more : List MethodNode}
      (is : c.methodsByName name = m :: m' :: more) : findMethod c d =
        .error (.ambiguousMember d.text c.name name
          (Text.sorted ((c.methodsByName name).map (·.signature)))) := by
    simp [findMethod, member, unsigned, is]
  have counted := c.length_methodsByName name
  constructor
  · rw [← counted]
    match is : c.methodsByName name with
    | [] => simp [unknown is, Except.map]
    | [m] => simp [found is, Except.map]
    | m :: m' :: more => simp [ambiguous is, Except.map]
  · intro m among named single
    rw [found (ClassNode.methodsByName_of_overloads single among named)]
    rfl
  · intro several
    match is : c.methodsByName name with
    | [] => simp [is] at counted; omega
    | [m] => simp [is] at counted; omega
    | m :: m' :: more =>
      refine ⟨_, Text.sorted_sorted _, Text.sorted_perm _, ?_⟩
      rw [ambiguous is]
      rfl
  · intro none
    rw [none, List.length_eq_zero_iff] at counted
    rw [unknown counted]
    rfl

/-- A descriptor of a field finds it by its name. -/
theorem findField_named (member : d.member.getD [] = name) (front : Text) :
    FieldAnswer names c d.text front name
      ((findField c d).map fun f => front ++ names.fieldName c f) := by
  constructor
  · intro f among named
    have present : (c.findField name).isSome :=
      List.find?_isSome.mpr ⟨f, among, by simp [named]⟩
    obtain ⟨f', found⟩ := Option.isSome_iff_exists.mp present
    have same : f'.name = name := by simpa using List.find?_some found
    have spelled : findField c d = .ok f' := by
      simp [findField, member, found]
    rw [spelled, fieldName_congr rfl (named.trans same.symm)]
    rfl
  · intro others
    have absent : c.findField name = none := by
      refine List.find?_eq_none.mpr fun f among => ?_
      simpa using others f among
    simp [findField, member, absent, Except.map]

/-! ### Symbols -/

/-- What the symbol of a method has in front of the method's name. -/
def methodFronts (c : ClassNode) : List (ReferenceKind × Text) := [
  (.constructor, "new " ++ className c.name ++ "()."),
  (.staticMethod, className c.name ++ "."),
  (.instanceMethod, [])]

/-- The kinds of references to fields, with what their symbols begin with. -/
def fieldFronts (c : ClassNode) : List (ReferenceKind × Text) := [
  (.staticField, className c.name ++ "."),
  (.instanceField, [])]

/-- The symbol of a method is its name behind the front of its kind. -/
theorem symbol_of_method {front : Text} (listed : (d.kind, front) ∈ methodFronts c) :
    symbol names c d = (findMethod c d).map fun m => front ++ names.methodName c m := by
  simp only [methodFronts, List.mem_cons, Prod.mk.injEq, List.not_mem_nil, or_false] at listed
  rcases listed with ⟨kind, rfl⟩ | ⟨kind, rfl⟩ | ⟨kind, rfl⟩ <;>
    simp only [symbol, kind] <;> cases findMethod c d <;> rfl

/-- The symbol of a field is its name behind the front of its kind. -/
theorem symbol_of_field {front : Text} (listed : (d.kind, front) ∈ fieldFronts c) :
    symbol names c d = (findField c d).map fun f => front ++ names.fieldName c f := by
  simp only [fieldFronts, List.mem_cons, Prod.mk.injEq, List.not_mem_nil, or_false] at listed
  rcases listed with ⟨kind, rfl⟩ | ⟨kind, rfl⟩ <;>
    simp only [symbol, kind] <;> cases findField c d <;> rfl

/-- What is answered for a method with a signature. -/
theorem symbol_signed {front signature : Text} (listed : (d.kind, front) ∈ methodFronts c)
    (member : d.member.getD [] = name) (signed : d.signature = some signature) :
    SignedAnswer names c d.text front name signature (symbol names c d) := by
  rw [symbol_of_method listed]
  exact findMethod_signed member signed front

/-- What is answered for a method without a signature. -/
theorem symbol_unsigned {front : Text} (listed : (d.kind, front) ∈ methodFronts c)
    (member : d.member.getD [] = name) (unsigned : d.signature = none) :
    UnsignedAnswer names c d.text front name (symbol names c d) := by
  rw [symbol_of_method listed]
  exact findMethod_unsigned member unsigned front

/-- What is answered for a field. -/
theorem symbol_field {front : Text} (listed : (d.kind, front) ∈ fieldFronts c)
    (member : d.member.getD [] = name) :
    FieldAnswer names c d.text front name (symbol names c d) := by
  rw [symbol_of_field listed]
  exact findField_named member front

end

/-- The parts that a kind takes say which answer is due. -/
theorem symbol_answers (names : TargetNames) (c : ClassNode) (text owner : Text)
    {kind : ReferenceKind} {parts : List Text} (counted : parts.length + 1 ∈ kind.partCounts) :
    Answers names c text
      (symbol names c (ReferenceDescriptor.ofPartList kind (owner :: parts) text)) kind parts := by
  match kind, parts with
  | .classRef, [] => rfl
  | .staticInit, [] => rfl
  | .constructor, [signature] =>
    exact symbol_signed (c := c) (d := .ofPartList .constructor [owner, signature] text)
      (.head _) rfl rfl
  | .staticMethod, [name] =>
    exact symbol_unsigned (c := c) (d := .ofPartList .staticMethod [owner, name] text)
      (.tail _ (.head _)) rfl rfl
  | .staticMethod, [name, signature] =>
    exact symbol_signed (c := c) (d := .ofPartList .staticMethod [owner, name, signature] text)
      (.tail _ (.head _)) rfl rfl
  | .instanceMethod, [name] =>
    exact symbol_unsigned (c := c) (d := .ofPartList .instanceMethod [owner, name] text)
      (.tail _ (.tail _ (.head _))) rfl rfl
  | .instanceMethod, [name, signature] =>
    exact symbol_signed (c := c) (d := .ofPartList .instanceMethod [owner, name, signature] text)
      (.tail _ (.tail _ (.head _))) rfl rfl
  | .staticField, [name] =>
    exact symbol_field (c := c) (d := .ofPartList .staticField [owner, name] text) (.head _) rfl
  | .instanceField, [name] =>
    exact symbol_field (c := c) (d := .ofPartList .instanceField [owner, name] text)
      (.tail _ (.head _)) rfl

/-! ### Resolving a text -/

section

variable {r : Resolver} {text owner : Text} {kind : ReferenceKind} {parts : List Text}

open ReferenceDescriptor

/-- A text that spells no descriptor is refused with its flaw. -/
theorem resolveText_of_not_spells (none : ∀ kind parts, ¬ Spells text kind parts) :
    ∃ flaw, r.resolveText text = .error (.malformedDescriptor ⟨text.trim, flaw⟩) := by
  obtain ⟨flaw, refused⟩ := parse_of_not_spells none
  refine ⟨flaw, ?_⟩
  rw [resolveText, refused]
  rfl

/-- A text that spells a descriptor is resolved as this descriptor. -/
theorem resolveText_of_spells (spells : Spells text kind (owner :: parts)) :
    r.resolveText text = r.resolve (ofPartList kind (owner :: parts) text.trim) := by
  rw [resolveText, parse_of_spells spells]
  rfl

/-- The first part names the owner. -/
theorem owner_ofPartList : (ofPartList kind (owner :: parts) text).owner = owner := by
  cases kind <;> rfl

/-- The descriptor remembers its text. -/
theorem text_ofPartList : (ofPartList kind (owner :: parts) text).text = text := by
  cases kind <;> rfl

/-- A descriptor of a class that the program lacks is refused with both names. -/
theorem resolveText_of_unknownClass (spells : Spells text kind (owner :: parts))
    (others : ∀ c ∈ r.program.classes, c.name ≠ owner) :
    r.resolveText text = .error (.unknownClass text.trim owner) := by
  rw [resolveText_of_spells spells, resolve, owner_ofPartList, text_ofPartList,
    Program.getClass_eq_none others]

/-- A reference to a class that is there is answered by the class. -/
theorem resolveText_answer {c : ClassNode} (spells : Spells text kind (owner :: parts))
    (isFirst : r.program.IsFirst owner c) :
    Answers r.names c text.trim (r.resolveText text) kind parts := by
  obtain ⟨-, -, -, counted, -⟩ := spells_iff.mp spells
  rw [resolveText_of_spells spells, resolve, owner_ofPartList,
    Program.getClass_of_isFirst isFirst]
  exact symbol_answers r.names c text.trim owner counted

/-- A method that is the only one of its name may be named with its signature or without. -/
theorem resolveText_append_signature {c : ClassNode} {m : MethodNode} {name : Text}
    (spells : Spells text kind [owner, name]) (takes : 3 ∈ kind.partCounts)
    (isFirst : r.program.IsFirst owner c) (single : c.overloads name = 1) (among : m ∈ c.methods)
    (named : m.name = name) (isPart : IsPart m.signature) :
    r.resolveText (text ++ ":" ++ m.signature) = r.resolveText text := by
  have spells' : Spells (text ++ ":" ++ m.signature) kind [owner, name, m.signature] :=
    spells.append isPart takes
  have short := resolveText_answer spells isFirst
  have long := resolveText_answer spells' isFirst
  match kind with
  | .staticMethod =>
    have short : UnsignedAnswer _ _ _ _ _ _ := short
    have long : SignedAnswer _ _ _ _ _ _ _ := long
    rw [short.found m among named single, long.found m among named rfl]
  | .instanceMethod =>
    have short : UnsignedAnswer _ _ _ _ _ _ := short
    have long : SignedAnswer _ _ _ _ _ _ _ := long
    rw [short.found m among named single, long.found m among named rfl]

end

open ReferenceDescriptor in
/-- A text that spells no reference is refused. A reference to a class that is not there is an
error, and any other is answered by the first class of the name. A method without other overloads
may be named with its signature as well. -/
theorem resolveText_answered (p : Program) (minimize : Bool) (text : Text) :
    ((∀ kind parts, ¬ Spells text kind parts) → ∃ flaw,
      (ofProgram p minimize).resolveText text =
        .error (.malformedDescriptor ⟨text.trim, flaw⟩)) ∧
    (∀ kind owner parts, Spells text kind (owner :: parts) →
      ((∀ c ∈ p.classes, c.name ≠ owner) → (ofProgram p minimize).resolveText text =
        .error (.unknownClass text.trim owner)) ∧
      ∀ c, p.IsFirst owner c → Answers (TargetNames.ofProgram p minimize) c text.trim
        ((ofProgram p minimize).resolveText text) kind parts) ∧
    (∀ kind owner name c, Spells text kind [owner, name] → 3 ∈ kind.partCounts →
      p.IsFirst owner c → c.overloads name = 1 → ∀ m ∈ c.methods, m.name = name →
      IsPart m.signature → (ofProgram p minimize).resolveText (text ++ ":" ++ m.signature) =
        (ofProgram p minimize).resolveText text) := by
  refine ⟨resolveText_of_not_spells, ?_, ?_⟩
  · intro kind owner parts spells
    exact ⟨fun others => resolveText_of_unknownClass spells others,
      fun c isFirst => resolveText_answer spells isFirst⟩
  · intro kind owner name c spells takes isFirst single m among named isPart
    exact resolveText_append_signature spells takes isFirst single among named isPart

/-- A class with an overloaded method and another method. -/
def sampleClass : ClassNode where
  name := "app.Main"
  methods := [⟨"add", "(JJ)J", false, []⟩, ⟨"run", "()V", true, []⟩, ⟨"add", "(II)I", false, []⟩]
  fields := []
  metadata := []

/-- A program with two classes of one name. -/
def sampleProgram : Program where
  classes := [sampleClass, ⟨"app.Main", [⟨"run", "(I)V", true, []⟩], [], []⟩]
  resources := []
  resourcesDir := none

/-- A method without overloads, with and without its signature, and an ambiguous one. -/
theorem resolveText_answered_sample :
    (ofProgram sampleProgram true).resolveText " smethod :app.Main\n: run" = .ok "app.Main.m1" ∧
      (ofProgram sampleProgram true).resolveText (" smethod :app.Main\n: run" ++ ":" ++ "()V") =
        .ok "app.Main.m1" ∧
      ∃ signatures, Text.Sorted signatures ∧ signatures.Perm ["(JJ)J", "(II)I"] ∧
        (ofProgram sampleProgram true).resolveText "METHOD:app.Main:add" =
          .error (.ambiguousMember "METHOD:app.Main:add" "app.Main" "add" signatures) := by
  have isFirst : sampleProgram.IsFirst "app.Main" sampleClass :=
    ⟨[], _, rfl, rfl, List.forall_mem_nil _⟩
  have spells : ReferenceDescriptor.Spells " smethod :app.Main\n: run" .staticMethod
      ["app.Main", "run"] :=
    ReferenceDescriptor.spells_iff.mpr ⟨"smethod", by decide +kernel⟩
  have spells' : ReferenceDescriptor.Spells "METHOD:app.Main:add" .instanceMethod
      ["app.Main", "add"] :=
    ReferenceDescriptor.spells_iff.mpr ⟨"METHOD", by decide +kernel⟩
  obtain ⟨-, answered, signed⟩ :=
    resolveText_answered sampleProgram true " smethod :app.Main\n: run"
  obtain ⟨-, answered', -⟩ := resolveText_answered sampleProgram true "METHOD:app.Main:add"
  have run : UnsignedAnswer _ _ _ _ _ _ := (answered _ _ _ spells).2 _ isFirst
  have add : UnsignedAnswer _ _ _ _ _ _ := (answered' _ _ _ spells').2 _ isFirst
  have found := run.found ⟨"run", "()V", true, []⟩ (by simp [sampleClass]) rfl rfl
  have written := signed _ _ _ _ spells (by decide) isFirst rfl ⟨"run", "()V", true, []⟩
    (by simp [sampleClass]) rfl ⟨by decide, by decide, by decide⟩
  refine ⟨found, written.trans found, ?_⟩
  obtain ⟨signatures, sorted, perm, refused⟩ := add.ambiguous (by decide)
  exact ⟨signatures, sorted, perm, refused⟩

end Resolver

end HaxeBuild
