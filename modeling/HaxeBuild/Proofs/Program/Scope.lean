import HaxeBuild.Build.Command
import HaxeBuild.Library.Manager
import HaxeBuild.Program.Resource
import HaxeBuild.Proofs.Reference.Edits
import HaxeBuild.Subtarget.Catalog

namespace HaxeBuild

/-- Kinds whose values count on classes only. -/
def MetadataKind.isClassLevel : MetadataKind → Bool
  | addLibraries | addAssets | filesBeforeBuildTemplate => true
  | addSubtarget | addSubtargetList | customBuildCommandLine => false

namespace Metadata

/-- What counts of the metadata of a member. -/
def heeded (m : Metadata) : Metadata := m.filter (!·.1.isClassLevel)

/-- What is heeded of metadata are the kinds that do not belong to classes. -/
theorem values_heeded {kind : MetadataKind} (wide : kind.isClassLevel = false) (m : Metadata) :
    m.heeded.values kind = m.values kind := by
  induction m with
  | nil => rfl
  | cons entry rest inductionHypothesis =>
    obtain ⟨k, vs⟩ := entry
    simp only [heeded, values] at inductionHypothesis ⊢
    by_cases asked : kind = k
    · subst asked
      simp [wide]
    · have other : (kind == k) = false := beq_false_of_ne asked
      rw [List.filter_cons, List.lookup_cons, other, ← inductionHypothesis]
      split <;> simp [List.lookup_cons, other]

/-- Subtargets are declared by heeded metadata. -/
theorem declared_heeded (m : Metadata) :
    Subtarget.Catalog.declared m.heeded = Subtarget.Catalog.declared m := by
  induction m with
  | nil => rfl
  | cons entry rest inductionHypothesis =>
    obtain ⟨k, vs⟩ := entry
    simp only [heeded, Subtarget.Catalog.declared] at inductionHypothesis ⊢
    rw [List.flatMap_cons, ← inductionHypothesis]
    cases k <;> rfl

/-- The metadata without the values of a kind. -/
def without (kind : MetadataKind) (m : Metadata) : Metadata := m.filter (·.1 != kind)

/-- Without a kind the other kinds have their values. -/
theorem values_without (kind other : MetadataKind) (m : Metadata) :
    (m.without kind).values other = if other = kind then [] else m.values other := by
  induction m with
  | nil => simp [without, values]
  | cons entry rest inductionHypothesis =>
    obtain ⟨k, vs⟩ := entry
    simp only [without, values] at inductionHypothesis ⊢
    by_cases dropped : k = kind
    · subst dropped
      by_cases asked : other = k
      · simpa [asked] using inductionHypothesis
      · simpa [asked, List.lookup_cons, beq_false_of_ne] using inductionHypothesis
    · by_cases asked : other = k
      · subst asked
        simp [dropped]
      · simpa [dropped, asked, List.lookup_cons, beq_false_of_ne] using inductionHypothesis

end Metadata

/-- The method with what is heeded of its metadata. -/
def MethodNode.heeded (m : MethodNode) : MethodNode := { m with metadata := m.metadata.heeded }

/-- The field with what is heeded of its metadata. -/
def FieldNode.heeded (f : FieldNode) : FieldNode := { f with metadata := f.metadata.heeded }

namespace ClassNode

/-- The class with its own metadata, and with what is heeded of its members. -/
def heeded (c : ClassNode) : ClassNode :=
  { c with methods := c.methods.map (·.heeded), fields := c.fields.map (·.heeded) }

/-- Whatever ignores class-level kinds on members gathers the same values. -/
theorem flatMap_heeded_nodes {α : Type} (gather : Metadata → List α)
    (ignores : ∀ m, gather (Metadata.heeded m) = gather m) (c : ClassNode) :
    c.heeded.nodes.flatMap gather = c.nodes.flatMap gather := by
  simp only [nodes, heeded, List.flatMap_cons, List.flatMap_append, List.flatMap_map]
  simp only [MethodNode.heeded, FieldNode.heeded, ignores]

/-- A class whose metadata is exchanged: its own, and that of its members. -/
def withMetadata (own members : Metadata → Metadata) (c : ClassNode) : ClassNode where
  name := c.name
  methods := c.methods.map fun m => { m with metadata := members m.metadata }
  fields := c.fields.map fun f => { f with metadata := members f.metadata }
  metadata := own c.metadata

/-- Changing all metadata in one way changes that of every node. -/
theorem nodes_withMetadata (f : Metadata → Metadata) (c : ClassNode) :
    (c.withMetadata f f).nodes = c.nodes.map f := by
  simp [nodes, withMetadata, Function.comp_def]

variable {own members : Metadata → Metadata}

/-- The signatures of methods do not depend on metadata. -/
theorem signatures_withMetadata (c : ClassNode) (name : Text) :
    (c.withMetadata own members).signatures name = c.signatures name := by
  simp only [signatures, withMetadata, List.filter_map, List.map_map]
  rfl

/-- Neither do the names of fields. -/
theorem countP_fields_withMetadata (c : ClassNode) (test : Text → Bool) :
    (c.withMetadata own members).fields.countP (test ·.name) =
      c.fields.countP (test ·.name) := by
  rw [withMetadata, List.countP_map]
  rfl

end ClassNode

namespace Program

/-- The program with what is heeded of its members. -/
def heeded (p : Program) : Program := { p with classes := p.classes.map (·.heeded) }

/-- Programs agree if they are the same in what a build heeds. -/
def Agrees (p p' : Program) : Prop := p.heeded = p'.heeded

/-- A program whose metadata is exchanged: that of its classes, and that of their members. -/
def withMetadata (own members : Metadata → Metadata) (p : Program) : Program :=
  { p with classes := p.classes.map (·.withMetadata own members) }

theorem heeded_eq (p : Program) : p.heeded = p.withMetadata id Metadata.heeded := rfl

/-- The metadata of classes is the same. -/
theorem metadata_heeded (p : Program) : p.heeded.metadata = p.metadata := by
  funext kind
  rw [metadata, heeded, List.flatMap_map]
  rfl

/-- Kinds that do not belong to classes are heeded everywhere. -/
theorem allMetadata_heeded {kind : MetadataKind} (wide : kind.isClassLevel = false) (p : Program) :
    p.heeded.allMetadata kind = p.allMetadata kind := by
  rw [allMetadata, heeded, List.flatMap_map]
  simp only [ClassNode.flatMap_heeded_nodes (·.values kind) (Metadata.values_heeded wide)]
  rfl

/-- Declaring values on a class does not depend on what members declare. -/
theorem heeded_declare (p : Program) (index : Nat) (kind : MetadataKind) (vs : List Value) :
    (p.declare index kind vs).heeded = p.heeded.declare index kind vs := by
  simp only [heeded, declare]
  congr 1
  apply List.ext_getElem?
  intro i
  simp only [List.getElem?_map, List.getElem?_modify]
  cases p.classes[i]? with
  | none => rfl
  | some c => by_cases here : index = i <;> simp [here, ClassNode.heeded]

end Program

/-! ### The same subtargets, names and symbols -/

/-- The catalog is read from what is heeded. -/
theorem Subtarget.Catalog.ofProgram_heeded (p : Program) (standard : List Subtarget) :
    ofProgram p.heeded standard = ofProgram p standard := by
  rw [ofProgram, Program.heeded, List.flatMap_map]
  simp only [ClassNode.flatMap_heeded_nodes declared Metadata.declared_heeded]
  rfl

namespace TargetNames

/-- Names of members do not depend on metadata. -/
theorem nameClass_heeded (names : TargetNames) (c : ClassNode) :
    names.nameClass c.heeded = names.nameClass c := by
  simp only [nameClass, ClassNode.heeded, List.map_map]
  rfl

/-- Names of the whole program do not depend on metadata. -/
theorem ofProgram_heeded (p : Program) (minimize : Bool) :
    ofProgram p.heeded minimize = ofProgram p minimize := by
  rw [ofProgram, Program.heeded, List.foldl_map]
  simp only [nameClass_heeded]
  rfl

end TargetNames

namespace Resolver

variable {own members : Metadata → Metadata}

/-- A reference has the same symbol whatever the metadata is. -/
theorem symbol_withMetadata (names : TargetNames) (c : ClassNode) (ref : ReferenceDescriptor) :
    symbol names (c.withMetadata own members) ref = symbol names c ref := by
  have seen : ref.view (c.withMetadata own members) = ref.view c := by
    unfold ReferenceDescriptor.view
    cases ref.memberName? with
    | none => rfl
    | some name =>
      simp only [ClassNode.signatures_withMetadata,
        ClassNode.countP_fields_withMetadata c (· == name)]
  exact symbol_of_view rfl seen

/-- References do not look at metadata. -/
theorem resolve_withMetadata (p : Program) (names : TargetNames) :
    resolve ⟨p.withMetadata own members, names⟩ = resolve ⟨p, names⟩ := by
  have found (name : Text) : (p.withMetadata own members).getClass name =
      (p.getClass name).map (·.withMetadata own members) := List.find?_map ..
  funext ref
  simp only [resolve, found]
  cases p.getClass ref.owner with
  | none => rfl
  | some c => exact symbol_withMetadata names c ref

end Resolver

/-! ### Programs without command lines -/

namespace Program

/-- Reading depends on the stored resources and on the resource directory only. -/
theorem resource_congr {p p' : Program} (stored : p.resources = p'.resources)
    (directory : p.resourcesDir = p'.resourcesDir) : p.resource = p'.resource := by
  funext t path
  simp only [resource, findResource, stored, directory]

/-- Programs with the same resources have the same resource texts. -/
theorem resourceText_congr {p p' : Program} (same : p.resource = p'.resource) :
    p.resourceText = p'.resourceText := by
  funext t path
  simp only [resourceText, same]

/-- The program without the values of a kind. -/
def without (kind : MetadataKind) (p : Program) : Program :=
  p.withMetadata (Metadata.without kind) (Metadata.without kind)

variable (p : Program) (kind : MetadataKind)

/-- Nothing is left of the kind that was taken away. -/
theorem allMetadata_without : (p.without kind).allMetadata kind = [] := by
  simp only [allMetadata, without, withMetadata, List.flatMap_map, ClassNode.nodes_withMetadata,
    Metadata.values_without, if_true]
  simp

variable {kind} {other : MetadataKind}

/-- Classes keep the values of the other kinds. -/
theorem metadata_without (differs : other ≠ kind) :
    (p.without kind).metadata other = p.metadata other := by
  simp only [metadata, without, withMetadata, List.flatMap_map]
  refine List.flatMap_congr fun c _ => ?_
  exact (Metadata.values_without kind other c.metadata).trans (if_neg differs)

/-- So do all nodes. -/
theorem allMetadata_without_of_ne (differs : other ≠ kind) :
    (p.without kind).allMetadata other = p.allMetadata other := by
  simp only [allMetadata, without, withMetadata, List.flatMap_map, ClassNode.nodes_withMetadata,
    Metadata.values_without, if_neg differs]

variable (kind)

/-- Programs are similar if a build that is created cannot tell them apart before it prepares its
command. -/
structure Similar (p p' : Program) : Prop where
  metadata : ∀ kind, kind.isClassLevel → p.metadata kind = p'.metadata kind
  resource : p.resource = p'.resource
  resolve : ∀ names, Resolver.resolve ⟨p, names⟩ = Resolver.resolve ⟨p', names⟩

/-- A program is similar without a kind that no class-level step reads. -/
theorem similar_without (wide : kind.isClassLevel = false) : p.Similar (p.without kind) where
  metadata other classLevel := by
    have differs : other ≠ kind := by
      rintro rfl
      rw [wide] at classLevel
      cases classLevel
    exact (p.metadata_without differs).symm
  resource := rfl
  resolve names := (Resolver.resolve_withMetadata p names).symm

namespace Similar

variable {p p' : Program}

/-- Similar programs declare the same libraries. -/
theorem libraries (similar : p.Similar p') :
    LibraryReference.declared p = LibraryReference.declared p' := by
  simp only [LibraryReference.declared, similar.metadata .addLibraries rfl]

/-- Similar programs have the same resource texts. -/
theorem resourceText (similar : p.Similar p') : p.resourceText = p'.resourceText :=
  resourceText_congr similar.resource

end Similar

end Program

/-! ### Programs that agree -/

namespace Program.Agrees

variable {p p' : Program}

/-- Programs that agree still agree after the same declaration. -/
theorem declare (agree : p.Agrees p') (index : Nat) (kind : MetadataKind) (vs : List Value) :
    (p.declare index kind vs).Agrees (p'.declare index kind vs) := by
  rw [Agrees, heeded_declare, heeded_declare, agree]

/-- Programs that agree have the same metadata of classes. -/
theorem metadata (agree : p.Agrees p') : p.metadata = p'.metadata := by
  rw [← metadata_heeded p, agree, metadata_heeded]

/-- Programs that agree have the same catalog. -/
theorem catalog (agree : p.Agrees p') :
    Subtarget.Catalog.ofProgram p = Subtarget.Catalog.ofProgram p' := by
  funext standard
  rw [← Subtarget.Catalog.ofProgram_heeded, agree, Subtarget.Catalog.ofProgram_heeded]

/-- Programs that agree have the same names. -/
theorem names (agree : p.Agrees p') : TargetNames.ofProgram p = TargetNames.ofProgram p' := by
  funext minimize
  rw [← TargetNames.ofProgram_heeded, agree, TargetNames.ofProgram_heeded]

/-- References are resolved alike in programs that agree. -/
theorem resolve (agree : p.Agrees p') (names : TargetNames) :
    Resolver.resolve ⟨p, names⟩ = Resolver.resolve ⟨p', names⟩ := by
  rw [← Resolver.resolve_withMetadata p, ← heeded_eq, agree, heeded_eq,
    Resolver.resolve_withMetadata]

/-- Programs that agree have the same template of the command. -/
theorem command (agree : p.Agrees p') : Command.template p = Command.template p' := by
  have wide : MetadataKind.customBuildCommandLine.isClassLevel = false := rfl
  simp only [Command.template]
  rw [← allMetadata_heeded wide p, agree, allMetadata_heeded wide p']

theorem resource (agree : p.Agrees p') : p.resource = p'.resource :=
  resource_congr (congrArg (·.resources) agree) (congrArg (·.resourcesDir) agree)

/-- Programs that agree are similar. -/
theorem similar (agree : p.Agrees p') : p.Similar p' where
  metadata kind _ := congrFun agree.metadata kind
  resource := agree.resource
  resolve := agree.resolve

end Program.Agrees

end HaxeBuild
