import Mathlib.Data.List.Forall2
import Mathlib.Data.List.Nodup
import Mathlib.Data.List.Pairwise
import HaxeBuild.Reference.Names

namespace HaxeBuild

/-! ### Letters and digits -/

/-- A letter or a digit of ASCII. -/
def Code.isPlain (c : Code) : Bool := c.isAsciiLetter || c.isAsciiDigit

namespace Text

/-- All of the text is letters and digits. -/
def IsPlain (t : Text) : Prop := ∀ c ∈ t, c.isPlain = true

/-- The texts are of one length and have the same letters and digits at the same places. -/
def Alike : Text → Text → Prop :=
  List.Forall₂ fun c d => c = d ∨ c.isPlain = false ∧ d.isPlain = false

/-- Being alike goes both ways. -/
theorem Alike.symm {t u : Text} (alike : Alike t u) : Alike u t :=
  alike.flip.imp fun _ _ here => here.imp Eq.symm And.symm

instance : DecidableRel Alike :=
  inferInstanceAs (DecidableRel (List.Forall₂ _))

instance (t : Text) : Decidable (IsPlain t) := List.decidableBAll _ t

/-- A plain text is alike to itself only. -/
theorem eq_of_alike {t u : Text} (plain : IsPlain t) (alike : Alike t u) : t = u := by
  induction alike with
  | nil => rfl
  | cons here _ inductionHypothesis =>
    obtain ⟨first, later⟩ := List.forall_mem_cons.mp plain
    rcases here with rfl | ⟨other, -⟩
    · rw [inductionHypothesis later]
    · rw [first] at other
      cases other

/-- Behind the same front, texts are alike if their rests are. -/
theorem alike_append_left_iff (t : Text) {u u' : Text} :
    Alike (t ++ u) (t ++ u') ↔ Alike u u' := by
  induction t with
  | nil => rfl
  | cons c t inductionHypothesis =>
    rw [Alike] at inductionHypothesis
    simp [Alike, inductionHypothesis]

/-- Plain texts end where the first underscore is. -/
theorem alike_append_underscore_iff {t t' u u' : Text} (plain : IsPlain t) (plain' : IsPlain t') :
    Alike (t ++ .char '_' :: u) (t' ++ .char '_' :: u') ↔ t = t' ∧ Alike u u' := by
  have mark : (Code.char '_').isPlain = false := by decide
  induction t generalizing t' with
  | nil =>
    cases t' with
    | nil => simp [Alike]
    | cons c' t' =>
      have first' := plain' c' List.mem_cons_self
      have differs : Code.char '_' ≠ c' := by
        rintro rfl
        rw [mark] at first'
        cases first'
      simp [Alike, differs, first']
  | cons c t inductionHypothesis =>
    obtain ⟨first, later⟩ := List.forall_mem_cons.mp plain
    cases t' with
    | nil =>
      have differs : c ≠ Code.char '_' := by
        rintro rfl
        rw [mark] at first
        cases first
      simp [Alike, differs, first]
    | cons c' t' =>
      obtain ⟨-, later'⟩ := List.forall_mem_cons.mp plain'
      have inner := inductionHypothesis later later'
      rw [Alike] at inner
      simp [Alike, first, inner, and_assoc]

end Text

namespace TargetNames

/-! ### Full names -/

/-- What the full name of a method is made of. -/
def spelledMethod (m : MethodNode) : Text := m.name ++ .char '_' :: m.signature

/-- The name of a field before it is escaped. -/
def spelledField (f : FieldNode) : Text := .char '_' :: f.name

/-- The names of all methods and fields of a class. -/
def memberNames (names : TargetNames) (c : ClassNode) : List Text :=
  c.methods.map (names.methodName c) ++ c.fields.map (names.fieldName c)

/-- The names of all members before they are escaped, methods first. -/
def spelledMembers (c : ClassNode) : List Text :=
  c.methods.map spelledMethod ++ c.fields.map spelledField

/-- Only letters and digits are kept; an underscore becomes itself. -/
theorem escape_eq (c : Code) :
    (if c.isMemberSafe then c else .char '_') = if c.isPlain then c else .char '_' := by
  by_cases mark : c = .char '_'
  · simp [mark]
  · simp [Code.isMemberSafe, Code.isPlain, mark]

/-- Two characters escape alike if they are equal or neither is plain. -/
theorem escape_eq_iff {c d : Code} :
    ((if c.isMemberSafe then c else .char '_') = if d.isMemberSafe then d else .char '_') ↔
      c = d ∨ c.isPlain = false ∧ d.isPlain = false := by
  have mark : (Code.char '_').isPlain = false := by decide
  rw [escape_eq, escape_eq]
  cases plain : c.isPlain <;> cases plain' : d.isPlain
  · simp
  · have differs : Code.char '_' ≠ d := fun same => by rw [← same, mark] at plain'; cases plain'
    have differs' : c ≠ d := fun same => by rw [← same, plain] at plain'; cases plain'
    simp [differs, differs']
  · have differs : c ≠ Code.char '_' := fun same => by rw [same, mark] at plain; cases plain
    have differs' : c ≠ d := fun same => by rw [same, plain'] at plain; cases plain
    simp [differs, differs']
  · simp

/-- Two texts escape alike if they are alike. -/
theorem escaped_eq_iff {t u : Text} :
    escaped Code.isMemberSafe t = escaped Code.isMemberSafe u ↔ Text.Alike t u := by
  rw [escaped, escaped, ← List.forall₂_eq_eq_eq, List.forall₂_map_left_iff,
    List.forall₂_map_right_iff, Text.Alike]
  simp only [escape_eq_iff]

/-- The name that a key was given, or else its full name. -/
def nameOf {κ : Type} [BEq κ] (named : List (κ × Text)) (full : Text) (key : κ) : Text :=
  (named.lookup key).getD full

/-- A method is named by its number or by its escaped spelling. -/
theorem methodName_eq (names : TargetNames) (c : ClassNode) (m : MethodNode) :
    names.methodName c m =
      nameOf names.methods (escaped Code.isMemberSafe (spelledMethod m)) (methodKey c m) := by
  have full : escaped Code.isMemberSafe (spelledMethod m) =
      escaped Code.isMemberSafe m.name ++ "_" ++ escaped Code.isMemberSafe m.signature := by
    rw [spelledMethod, escaped, List.map_append, List.append_assoc]
    rfl
  rw [methodName, nameOf, full]
  cases names.methods.lookup (methodKey c m) <;> rfl

/-- A field is named by its number or by its escaped spelling. -/
theorem fieldName_eq (names : TargetNames) (c : ClassNode) (f : FieldNode) :
    names.fieldName c f =
      nameOf names.fields (escaped Code.isMemberSafe (spelledField f)) (fieldKey c f) := by
  rw [fieldName, nameOf]
  cases names.fields.lookup (fieldKey c f) <;> rfl

/-- Without compaction, members are named by their escaped spellings. -/
theorem memberNames_full (p : Program) (c : ClassNode) :
    memberNames (ofProgram p false) c = (spelledMembers c).map (escaped Code.isMemberSafe) := by
  have methods := funext (methodName_eq (ofProgram p false) c)
  have fields := funext (fieldName_eq (ofProgram p false) c)
  rw [memberNames, spelledMembers, methods, fields, List.map_append, List.map_map, List.map_map]
  rfl

/-! ### Distinct names -/

/-- No name is shared if no two spellings are alike. -/
theorem nodup_memberNames_iff (p : Program) (c : ClassNode) :
    (memberNames (ofProgram p false) c).Nodup ↔
      (spelledMembers c).Pairwise fun t u => ¬ Text.Alike t u := by
  rw [memberNames_full, List.Nodup, List.pairwise_map]
  simp only [ne_eq, escaped_eq_iff]

/-- The method is a constructor or has a name of letters and digits. -/
def HasPlainName (m : MethodNode) : Prop :=
  m.name = "<init>" ∨ m.name ≠ [] ∧ m.name.IsPlain

instance (m : MethodNode) : Decidable (HasPlainName m) := instDecidableOr

/-- The first character of a constructor tells it from other methods. -/
theorem not_alike_constructor {m m' : MethodNode} (named : m.name = "<init>")
    (present : m'.name ≠ []) (plain : m'.name.IsPlain) :
    ¬ Text.Alike (spelledMethod m) (spelledMethod m') := by
  obtain ⟨c, rest, named'⟩ := List.exists_cons_of_ne_nil present
  have first : c.isPlain = true := plain c (named' ▸ List.mem_cons_self)
  rw [spelledMethod, spelledMethod, named, named']
  intro alike
  rcases (List.forall₂_cons.mp alike).1 with rfl | ⟨-, other⟩
  · exact absurd first (by decide)
  · exact absurd (first.symm.trans other) (by decide)

/-- Methods with plain names are spelled alike if they have one name and alike signatures. -/
theorem alike_spelledMethod_iff {m m' : MethodNode} (plain : HasPlainName m)
    (plain' : HasPlainName m') :
    Text.Alike (spelledMethod m) (spelledMethod m') ↔
      m.name = m'.name ∧ Text.Alike m.signature m'.signature := by
  rcases plain with named | ⟨present, plain⟩ <;> rcases plain' with named' | ⟨present', plain'⟩
  · rw [spelledMethod, spelledMethod, named, named', Text.alike_append_left_iff]
    simp [Text.Alike]
  · refine iff_of_false (not_alike_constructor named present' plain') ?_
    rintro ⟨same, -⟩
    exact absurd (plain' (.char '<') (same ▸ named ▸ List.mem_cons_self)) (by decide)
  · refine iff_of_false (fun alike => not_alike_constructor named' present plain alike.symm) ?_
    rintro ⟨same, -⟩
    exact absurd (plain (.char '<') (same ▸ named' ▸ List.mem_cons_self)) (by decide)
  · rw [spelledMethod, spelledMethod, Text.alike_append_underscore_iff plain plain']

/-- A method with a plain name is not spelled like a field. -/
theorem not_alike_spelledField {m : MethodNode} {f : FieldNode} (plain : HasPlainName m)
    (plain' : f.name.IsPlain) : ¬ Text.Alike (spelledMethod m) (spelledField f) := by
  intro alike
  rcases plain with named | ⟨present, plain⟩
  · rw [spelledMethod, named] at alike
    have later : Text.Alike ("init>" ++ .char '_' :: m.signature) f.name :=
      (List.forall₂_cons.mp alike).2
    have among : Code.char '>' ∈ f.name := by
      rw [Text.eq_of_alike plain' later.symm]
      exact List.mem_append_left _ (by decide)
    exact absurd (plain' _ among) (by decide)
  · have none : Text.IsPlain [] := List.forall_mem_nil _
    exact present ((Text.alike_append_underscore_iff plain none).mp alike).1

/-- The names of a class whose members have plain names can only be shared by overloads. -/
theorem nodup_memberNames_of_plain (p : Program) {c : ClassNode}
    (plain : ∀ m ∈ c.methods, HasPlainName m) (plain' : ∀ f ∈ c.fields, f.name.IsPlain)
    (distinct : (c.methods.map fun m => (m.name, m.signature)).Nodup)
    (distinct' : (c.fields.map (·.name)).Nodup) :
    (memberNames (ofProgram p false) c).Nodup ↔
      ∀ m ∈ c.methods, ∀ m' ∈ c.methods, m.name = m'.name →
        Text.Alike m.signature m'.signature → m.signature = m'.signature := by
  rw [nodup_memberNames_iff, spelledMembers, List.pairwise_append, List.pairwise_map,
    List.pairwise_map]
  constructor
  · rintro ⟨methods, -, -⟩ m among m' among' named alike
    by_contra signed
    have differs : m ≠ m' := fun same => signed (congrArg _ same)
    have : Std.Symm fun m m' => ¬ Text.Alike (spelledMethod m) (spelledMethod m') :=
      ⟨fun _ _ apart alike => apart alike.symm⟩
    exact methods.forall among among' differs
      ((alike_spelledMethod_iff (plain m among) (plain m' among')).mpr ⟨named, alike⟩)
  · intro apart
    refine ⟨?_, ?_, ?_⟩
    · refine (List.pairwise_map.mp distinct).imp_of_mem fun {m m'} among among' differs alike => ?_
      have ⟨named, signed⟩ :=
        (alike_spelledMethod_iff (plain m among) (plain m' among')).mp alike
      exact differs (Prod.ext named (apart m among m' among' named signed))
    · refine (List.pairwise_map.mp distinct').imp_of_mem fun {f f'} among among' differs alike => ?_
      have names : Text.Alike f.name f'.name := (List.forall₂_cons.mp alike).2
      exact differs (Text.eq_of_alike (plain' f among) names)
    · intro t spelled u spelled' alike
      obtain ⟨m, among, rfl⟩ := List.mem_map.mp spelled
      obtain ⟨f, among', rfl⟩ := List.mem_map.mp spelled'
      exact not_alike_spelledField (plain m among) (plain' f among') alike

/-- With full names, the names of all members of a class are distinct exactly if no two of them are
spelled with the same letters and digits at the same places. If the members themselves have names of
letters and digits, or are constructors, then only overloads can share a name. -/
theorem fullNames_nodup (p : Program) (c : ClassNode) :
    ((memberNames (ofProgram p false) c).Nodup ↔
      (spelledMembers c).Pairwise fun t u => ¬ Text.Alike t u) ∧
    ((∀ m ∈ c.methods, HasPlainName m) → (∀ f ∈ c.fields, f.name.IsPlain) →
      (c.methods.map fun m => (m.name, m.signature)).Nodup → (c.fields.map (·.name)).Nodup →
      ((memberNames (ofProgram p false) c).Nodup ↔
        ∀ m ∈ c.methods, ∀ m' ∈ c.methods, m.name = m'.name →
          Text.Alike m.signature m'.signature → m.signature = m'.signature)) :=
  ⟨nodup_memberNames_iff p c, nodup_memberNames_of_plain p⟩

/-- A method of an instance. -/
def methodOf (name signature : Text) : MethodNode := ⟨name, signature, false, []⟩

/-- A field of an instance. -/
def fieldOf (name : Text) : FieldNode := ⟨name, [], false, []⟩

/-- The overloads differ in a letter, and the field has the name of a method. -/
def calculator : ClassNode where
  name := "app.Calculator"
  methods := [methodOf "<init>" "()V", methodOf "add" "(II)I", methodOf "add" "(JJ)J"]
  fields := [fieldOf "add"]
  metadata := []

/-- A class with overloads and fields, whose names all differ. -/
theorem fullNames_nodup_calculator :
    (memberNames (ofProgram ⟨[calculator], [], none⟩ false) calculator).Nodup := by
  have ⟨_, overloads⟩ := fullNames_nodup ⟨[calculator], [], none⟩ calculator
  refine (overloads ?_ ?_ ?_ ?_).mpr ?_
  all_goals decide +kernel

/-- The overloads differ in a punctuation mark, and the field is spelled as the constructor is. -/
def collision : ClassNode where
  name := "app.Main"
  methods := [methodOf "<init>" "()V", methodOf "get" "(La/B;)V", methodOf "get" "(La$B;)V"]
  fields := [fieldOf "init____V"]
  metadata := []

/-- A class whose methods share names with one another and with a field. -/
theorem fullNames_shared :
    (collision.methods.map fun m => (m.name, m.signature)).Nodup ∧
      (collision.fields.map (·.name)).Nodup ∧
      memberNames (ofProgram ⟨[collision], [], none⟩ false) collision =
        ["_init____V", "get__La_B__V", "get__La_B__V", "_init____V"] ∧
      ¬ (memberNames (ofProgram ⟨[collision], [], none⟩ false) collision).Nodup := by
  refine ⟨?_, ?_, ?_, ?_⟩
  all_goals decide +kernel

end TargetNames

end HaxeBuild
