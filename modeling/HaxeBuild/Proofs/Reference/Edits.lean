import Mathlib.Data.Multiset.MapFold
import Mathlib.Logic.Relation
import HaxeBuild.Proofs.Reference.Resolution

namespace HaxeBuild

open TargetNames

namespace ReferenceDescriptor

/-- The name of the member that a reference speaks of, if it speaks of a member. -/
def memberName? (d : ReferenceDescriptor) : Option Text :=
  match d.kind with
  | .classRef => none
  | .staticInit => none
  | _ => some (d.member.getD [])

/-- One edit of the classes of a program that does not touch what the reference speaks of. -/
inductive Edit (d : ReferenceDescriptor) : List ClassNode → List ClassNode → Prop where
  | reorder {classes classes' : List ClassNode} (perm : classes.Perm classes') :
    Edit d classes classes'
  | permute (front back : List ClassNode) (c : ClassNode) {methods : List MethodNode}
    {fields : List FieldNode} (permMethods : c.methods.Perm methods)
    (permFields : c.fields.Perm fields) :
    Edit d (front ++ c :: back) (front ++ { c with methods, fields } :: back)
  | addClass (front back : List ClassNode) {c : ClassNode} (other : c.name ≠ d.owner) :
    Edit d (front ++ back) (front ++ c :: back)
  | addMethod (front back : List ClassNode) {c : ClassNode} {m : MethodNode}
    (owner : c.name = d.owner) (other : d.memberName? ≠ some m.name) :
    Edit d (front ++ c :: back) (front ++ { c with methods := m :: c.methods } :: back)
  | addField (front back : List ClassNode) {c : ClassNode} {f : FieldNode}
    (owner : c.name = d.owner) (other : d.memberName? ≠ some f.name) :
    Edit d (front ++ c :: back) (front ++ { c with fields := f :: c.fields } :: back)

/-! ### What a reference sees -/

/-- What the reference sees of a class: the signatures of the methods of its name, and how many
fields have its name. -/
def view (d : ReferenceDescriptor) (c : ClassNode) : Multiset Text × Nat :=
  match d.memberName? with
  | none => (0, 0)
  | some name => (c.signatures name, c.fields.countP (·.name == name))

/-- What the reference sees of the classes of its owner's name. -/
def views (d : ReferenceDescriptor) (classes : List ClassNode) : Multiset (Multiset Text × Nat) :=
  (classes.filter (·.name == d.owner)).map (view d)

section

variable {d : ReferenceDescriptor}

/-- What a descriptor sees of a program does not depend on the order of its classes. -/
theorem views_of_perm {classes classes' : List ClassNode} (perm : classes.Perm classes') :
    views d classes = views d classes' :=
  Multiset.coe_eq_coe.mpr ((perm.filter _).map _)

/-- A class may be exchanged for one of the same name that looks the same. -/
theorem views_exchange (front back : List ClassNode) {c c' : ClassNode} (named : c.name = c'.name)
    (same : c.name = d.owner → view d c = view d c') :
    views d (front ++ c :: back) = views d (front ++ c' :: back) := by
  by_cases owner : c.name = d.owner
  · simp [views, ← named, owner, same owner]
  · simp [views, ← named, owner]

/-- What a descriptor sees of a class does not depend on the order of its members. -/
theorem view_permute {c : ClassNode} {methods : List MethodNode} {fields : List FieldNode}
    (permMethods : c.methods.Perm methods) (permFields : c.fields.Perm fields) :
    view d c = view d { c with methods, fields } := by
  cases member : d.memberName? with
  | none => simp only [view, member]
  | some name =>
    have signatures : (c.signatures name).Perm
        (ClassNode.signatures { c with methods, fields } name) :=
      (permMethods.filter _).map _
    simp only [view, member, Multiset.coe_eq_coe.mpr signatures, permFields.countP_eq]

/-- A method of another name changes nothing that a descriptor sees. -/
theorem view_addMethod {c : ClassNode} {m : MethodNode} (other : d.memberName? ≠ some m.name) :
    view d c = view d { c with methods := m :: c.methods } := by
  cases member : d.memberName? with
  | none => simp only [view, member]
  | some name =>
    have differs : m.name ≠ name := fun same => other (by rw [member, same])
    simp [view, member, ClassNode.signatures, differs]

/-- A field of another name changes nothing that a descriptor sees. -/
theorem view_addField {c : ClassNode} {f : FieldNode} (other : d.memberName? ≠ some f.name) :
    view d c = view d { c with fields := f :: c.fields } := by
  cases member : d.memberName? with
  | none => simp only [view, member]
  | some name =>
    have differs : f.name ≠ name := fun same => other (by rw [member, same])
    simp [view, member, ClassNode.signatures, differs]

/-- One edit keeps what the descriptor sees. -/
theorem views_of_edit {classes classes' : List ClassNode} (edit : Edit d classes classes') :
    views d classes = views d classes' := by
  cases edit with
  | reorder perm => exact views_of_perm perm
  | permute front back c permMethods permFields =>
    exact views_exchange front back rfl fun _ => view_permute permMethods permFields
  | addClass front back other => simp [views, other]
  | addMethod front back _ other =>
    exact views_exchange front back rfl fun _ => view_addMethod other
  | addField front back _ other =>
    exact views_exchange front back rfl fun _ => view_addField other

/-- Any edits, made or undone, keep what the descriptor sees. -/
theorem views_of_edits {classes classes' : List ClassNode}
    (edits : Relation.EqvGen (Edit d) classes classes') : views d classes = views d classes' := by
  induction edits with
  | rel _ _ edit => exact views_of_edit edit
  | refl _ => rfl
  | symm _ _ _ inductionHypothesis => exact inductionHypothesis.symm
  | trans _ _ _ _ _ first second => exact first.trans second

end

end ReferenceDescriptor

/-! ### Answers to the same view -/

namespace Resolver

open ReferenceDescriptor

section

variable {names : TargetNames} {c c' : ClassNode} {d : ReferenceDescriptor}
  {text front name : Text} {out out' : Outcome Text}

/-- Answers with a signature agree where the signatures are the same up to order. -/
theorem SignedAnswer.congr {signature : Text}
    (answer : SignedAnswer names c text front name signature out)
    (answer' : SignedAnswer names c' text front name signature out') (named : c.name = c'.name)
    (perm : (c.signatures name).Perm (c'.signatures name)) : out = out' := by
  by_cases listed : signature ∈ c.signatures name
  · obtain ⟨m, among, is, signed⟩ := ClassNode.mem_signatures.mp listed
    obtain ⟨m', among', is', signed'⟩ := ClassNode.mem_signatures.mp (perm.subset listed)
    rw [answer.found m among is signed, answer'.found m' among' is' signed',
      methodName_congr named (is.trans is'.symm) (signed.trans signed'.symm)]
  · have absent : ∀ m ∈ c.methods, m.name = name → m.signature ≠ signature :=
      fun m among is signed => listed (ClassNode.mem_signatures.mpr ⟨m, among, is, signed⟩)
    have absent' : ∀ m ∈ c'.methods, m.name = name → m.signature ≠ signature := by
      intro m among is signed
      exact listed (perm.symm.subset (ClassNode.mem_signatures.mpr ⟨m, among, is, signed⟩))
    rw [answer.unknown absent, answer'.unknown absent', named]

/-- Answers without a signature agree where the signatures are the same up to order. -/
theorem UnsignedAnswer.congr (answer : UnsignedAnswer names c text front name out)
    (answer' : UnsignedAnswer names c' text front name out') (named : c.name = c'.name)
    (perm : (c.signatures name).Perm (c'.signatures name)) : out = out' := by
  have counted : c.overloads name = c'.overloads name := by
    rw [← c.length_signatures, ← c'.length_signatures, perm.length_eq]
  rcases Nat.lt_trichotomy (c.overloads name) 1 with none | single | several
  · have none : c.overloads name = 0 := Nat.lt_one_iff.mp none
    rw [answer.unknown none, answer'.unknown (counted ▸ none), named]
  · obtain ⟨signature, is⟩ := List.length_eq_one_iff.mp ((c.length_signatures name).trans single)
    have listed : signature ∈ c.signatures name := by rw [is]; exact List.mem_singleton_self _
    obtain ⟨m, among, is, signed⟩ := ClassNode.mem_signatures.mp listed
    obtain ⟨m', among', is', signed'⟩ := ClassNode.mem_signatures.mp (perm.subset listed)
    rw [answer.found m among is single, answer'.found m' among' is' (counted ▸ single),
      methodName_congr named (is.trans is'.symm) (signed.trans signed'.symm)]
  · obtain ⟨signatures, sorted, perm₁, refused⟩ := answer.ambiguous several
    obtain ⟨signatures', sorted', perm₂, refused'⟩ := answer'.ambiguous (counted ▸ several)
    have same : signatures = signatures' :=
      sorted.eq_of_perm sorted' (perm₁.trans (perm.trans perm₂.symm))
    rw [refused, refused', named, same]

/-- Answers about a field agree where it is declared equally often. -/
theorem FieldAnswer.congr (answer : FieldAnswer names c text front name out)
    (answer' : FieldAnswer names c' text front name out') (named : c.name = c'.name)
    (counted : c.fields.countP (·.name == name) = c'.fields.countP (·.name == name)) :
    out = out' := by
  have found {c : ClassNode} : 0 < c.fields.countP (·.name == name) ↔
      ∃ f ∈ c.fields, f.name = name := by
    simp [List.countP_pos_iff]
  by_cases present : 0 < c.fields.countP (·.name == name)
  · obtain ⟨f, among, is⟩ := found.mp present
    obtain ⟨f', among', is'⟩ := found.mp (counted ▸ present)
    rw [answer.found f among is, answer'.found f' among' is',
      fieldName_congr named (is.trans is'.symm)]
  · have absent : ∀ f ∈ c.fields, f.name ≠ name :=
      fun f among is => present (found.mpr ⟨f, among, is⟩)
    have absent' : ∀ f ∈ c'.fields, f.name ≠ name :=
      fun f among is => present (counted ▸ found.mpr ⟨f, among, is⟩)
    rw [answer.unknown absent, answer'.unknown absent', named]

/-- Equal views of a member have its signatures up to order and its fields by number. -/
theorem perm_of_view (member : d.memberName? = some name) (same : view d c = view d c') :
    (c.signatures name).Perm (c'.signatures name) ∧
      c.fields.countP (·.name == name) = c'.fields.countP (·.name == name) := by
  simp only [view, member, Prod.mk.injEq, Multiset.coe_eq_coe] at same
  exact same

/-- The symbol of a method depends on the view alone. -/
theorem symbol_method_of_view {kind : ReferenceKind} (is : d.kind = kind)
    (listed : (kind, front) ∈ methodFronts c)
    (member : d.memberName? = some (d.member.getD [])) (named : c.name = c'.name)
    (same : view d c = view d c') : symbol names c d = symbol names c' d := by
  obtain ⟨perm, -⟩ := perm_of_view member same
  subst is
  have listed' : (d.kind, front) ∈ methodFronts c' := by
    rw [methodFronts, ← named]
    exact listed
  cases signed : d.signature with
  | none =>
    exact (symbol_unsigned listed rfl signed).congr (symbol_unsigned listed' rfl signed) named perm
  | some signature =>
    exact (symbol_signed listed rfl signed).congr (symbol_signed listed' rfl signed) named perm

/-- The symbol of a field depends on the view alone. -/
theorem symbol_field_of_view {kind : ReferenceKind} (is : d.kind = kind)
    (listed : (kind, front) ∈ fieldFronts c)
    (member : d.memberName? = some (d.member.getD [])) (named : c.name = c'.name)
    (same : view d c = view d c') : symbol names c d = symbol names c' d := by
  obtain ⟨-, counted⟩ := perm_of_view member same
  subst is
  have listed' : (d.kind, front) ∈ fieldFronts c' := by
    rw [fieldFronts, ← named]
    exact listed
  exact (symbol_field listed rfl).congr (symbol_field listed' rfl) named counted

/-- The symbol of any descriptor depends on the view alone. -/
theorem symbol_of_view (named : c.name = c'.name) (same : view d c = view d c') :
    symbol names c d = symbol names c' d := by
  cases is : d.kind with
  | classRef => simp only [symbol, is, named]
  | staticInit => simp only [symbol, is, staticInit, named]
  | constructor =>
    exact symbol_method_of_view is (.head _)
      (by simp [ReferenceDescriptor.memberName?, is]) named same
  | staticMethod =>
    exact symbol_method_of_view is (.tail _ (.head _))
      (by simp [ReferenceDescriptor.memberName?, is]) named same
  | instanceMethod =>
    exact symbol_method_of_view is (.tail _ (.tail _ (.head _)))
      (by simp [ReferenceDescriptor.memberName?, is]) named same
  | staticField =>
    exact symbol_field_of_view is (.head _)
      (by simp [ReferenceDescriptor.memberName?, is]) named same
  | instanceField =>
    exact symbol_field_of_view is (.tail _ (.head _))
      (by simp [ReferenceDescriptor.memberName?, is]) named same

/-- A class is found as the first of its name. -/
theorem getClass_eq_head? (p : Program) (name : Text) :
    p.getClass name = (p.classes.filter (·.name == name)).head? :=
  List.head?_filter.symm

/-- A class that is found by its name has this name. -/
theorem name_of_filter {classes : List ClassNode} (is : classes.filter (·.name == name) = [c]) :
    c.name = name := by
  have among : c ∈ classes.filter (·.name == name) := by rw [is]; exact List.mem_singleton_self c
  exact eq_of_beq (List.mem_filter.mp among).2

/-- If at most one class has the owner's name, the reference sees all that matters. -/
theorem resolve_of_views {p q : Program}
    (single : (p.classes.filter (·.name == d.owner)).length ≤ 1)
    (same : views d p.classes = views d q.classes) :
    (Resolver.mk p names).resolve d = (Resolver.mk q names).resolve d := by
  have counted : (p.classes.filter (·.name == d.owner)).length =
      (q.classes.filter (·.name == d.owner)).length := by
    simpa [views] using congrArg Multiset.card same
  simp only [resolve, getClass_eq_head?]
  -- Either no program has a class of the owner's name or each has one, and these look the same.
  rcases Nat.le_one_iff_eq_zero_or_eq_one.mp single with none | one
  · have none' := counted.symm.trans none
    rw [List.length_eq_zero_iff.mp none, List.length_eq_zero_iff.mp none']
  · obtain ⟨c, is⟩ := List.length_eq_one_iff.mp one
    obtain ⟨c', is'⟩ := List.length_eq_one_iff.mp (counted.symm.trans one)
    have named : c.name = c'.name := (name_of_filter is).trans (name_of_filter is').symm
    have seen : view d c = view d c' := by
      simpa [views, is, is'] using same
    rw [is, is']
    exact symbol_of_view named seen

end

/-- With full names, a reference is answered alike in two programs that differ by edits which do not
touch what it speaks of, if no two classes of the program have one name. -/
theorem resolve_of_edits {d : ReferenceDescriptor} {p q : Program}
    (distinct : (p.classes.map (·.name)).Nodup)
    (edits : Relation.EqvGen (Edit d) p.classes q.classes) :
    (ofProgram p false).resolve d = (ofProgram q false).resolve d := by
  refine resolve_of_views ?_ (views_of_edits edits)
  have count := List.nodup_iff_count_le_one.mp distinct d.owner
  rwa [List.count_eq_countP, List.countP_map, List.countP_eq_length_filter] at count

/-- An overload of one method, under the given signature. -/
def addOf (signature : Text) : MethodNode := ⟨"add", signature, false, []⟩

/-- A static method without overloads. -/
def runMethod : MethodNode := ⟨"run", "()V", true, []⟩

/-- The class that is edited, with the given methods. -/
def mainOf (methods : List MethodNode) : ClassNode := ⟨"app.Main", methods, [], []⟩

/-- A class without members. -/
def emptyClass (name : Text) : ClassNode := ⟨name, [], [], []⟩

/-- A program of the given classes. -/
def programOf (classes : List ClassNode) : Program := ⟨classes, [], none⟩

/-- The programs have different classes beside the owner, the owner has a method less, and its
overloads are in another order. -/
theorem resolve_of_edits_overloads :
    let p := programOf
      [mainOf [addOf "(JJ)J", runMethod, addOf "(II)I"], emptyClass "app.Other"]
    let q := programOf [emptyClass "app.Helper", mainOf [addOf "(II)I", addOf "(JJ)J"]]
    let d : ReferenceDescriptor :=
      ⟨.instanceMethod, "app.Main", some "add", none, "METHOD:app.Main:add"⟩
    (p.classes.map (·.name)).Nodup ∧ Relation.EqvGen (Edit d) p.classes q.classes ∧
      (ofProgram p false).resolve d = (ofProgram q false).resolve d := by
  intro p q d
  have distinct : (p.classes.map (·.name)).Nodup := by decide
  have permuted : Edit d p.classes
      [mainOf [runMethod, addOf "(II)I", addOf "(JJ)J"], emptyClass "app.Other"] :=
    .permute [] _ _ (@List.perm_append_comm _ [addOf "(JJ)J"] [runMethod, addOf "(II)I"]) .rfl
  have method : Edit d [mainOf [addOf "(II)I", addOf "(JJ)J"], emptyClass "app.Other"]
      [mainOf [runMethod, addOf "(II)I", addOf "(JJ)J"], emptyClass "app.Other"] :=
    .addMethod [] _ rfl (by decide)
  have other : Edit d [mainOf [addOf "(II)I", addOf "(JJ)J"]]
      [mainOf [addOf "(II)I", addOf "(JJ)J"], emptyClass "app.Other"] :=
    .addClass [mainOf [addOf "(II)I", addOf "(JJ)J"]] [] (by decide)
  have helper : Edit d [mainOf [addOf "(II)I", addOf "(JJ)J"]] q.classes :=
    .addClass [] _ (by decide)
  have edits : Relation.EqvGen (Edit d) p.classes q.classes :=
    .trans _ _ _ (.rel _ _ permuted) (.trans _ _ _ (.symm _ _ (.rel _ _ method))
      (.trans _ _ _ (.symm _ _ (.rel _ _ other)) (.rel _ _ helper)))
  exact ⟨distinct, edits, resolve_of_edits distinct edits⟩

end Resolver

end HaxeBuild
