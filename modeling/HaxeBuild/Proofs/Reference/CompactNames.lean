import Mathlib.Data.List.Induction
import Mathlib.Data.List.Nodup
import HaxeBuild.Proofs.Reference.FullNames

namespace HaxeBuild

/-! ### Distinct elements and numerals -/

section

variable {κ : Type} [DecidableEq κ]

/-- A key at the end is new or comes twice. -/
theorem eraseDups_concat (keys : List κ) (key : κ) :
    (keys ++ [key]).eraseDups = if key ∈ keys then keys.eraseDups else keys.eraseDups ++ [key] := by
  rw [List.eraseDups_append]
  by_cases known : key ∈ keys <;> simp [List.removeAll, known, List.eraseDups_cons]

theorem nodup_eraseDups (keys : List κ) : keys.eraseDups.Nodup := by
  induction keys using List.reverseRecOn with
  | nil => simp
  | append_singleton keys key inductionHypothesis =>
    rw [eraseDups_concat]
    split
    · exact inductionHypothesis
    · rename_i fresh
      rw [← List.concat_eq_append]
      exact inductionHypothesis.concat (by simpa using fresh)

/-- Every key has a number. -/
theorem exists_getElem?_eraseDups {keys : List κ} {key : κ} (known : key ∈ keys) :
    ∃ n : Nat, keys.eraseDups[n]? = some key :=
  List.mem_iff_getElem?.mp (List.mem_eraseDups.mpr known)

end

/-- Different numbers are written in different ways. -/
theorem Text.ofNat_injective : Function.Injective Text.ofNat := by
  intro n m same
  have digits : Nat.toDigits 10 n = Nat.toDigits 10 m :=
    List.map_injective_iff.mpr (fun _ _ => Code.char.inj) same
  have read := congrArg (Nat.ofDigitChars 10 · 0) digits
  simpa only [Nat.ofDigitChars_ten_toDigits] using read

/-- A number has no underscore. -/
theorem Text.underscore_notMem_ofNat (n : Nat) : Code.char '_' ∉ Text.ofNat n := by
  intro among
  obtain ⟨digit, listed, is⟩ := List.mem_map.mp among
  exact Nat.underscore_not_in_toDigits (Code.char.inj is ▸ listed)

namespace TargetNames

/-! ### Numbering -/

section

variable {κ : Type} [DecidableEq κ] {letter : Text} {keys : List κ} {named : List (κ × Text)}
  {key : κ}

/-- The distinct keys are named in order by the letter and their place. -/
def Numbered (letter : Text) (keys : List κ) (named : List (κ × Text)) : Prop :=
  named = keys.eraseDups.mapIdx fun n key => (key, letter ++ Text.ofNat n)

namespace Numbered

/-- The name of a key tells its number. -/
theorem mem_iff (numbered : Numbered letter keys named) {name : Text} :
    (key, name) ∈ named ↔ ∃ n, keys.eraseDups[n]? = some key ∧ name = letter ++ Text.ofNat n := by
  rw [numbered, List.mem_iff_getElem?]
  simp only [List.getElem?_mapIdx, Option.map_eq_some_iff, Prod.mk.injEq]
  constructor
  · rintro ⟨n, key', found, rfl, rfl⟩
    exact ⟨n, found, rfl⟩
  · rintro ⟨n, found, rfl⟩
    exact ⟨n, key, found, rfl, rfl⟩

/-- Exactly the keys that did not occur have no names. -/
theorem lookup_eq_none_iff (numbered : Numbered letter keys named) :
    named.lookup key = none ↔ key ∉ keys := by
  rw [← not_iff_not, not_not, ← ne_eq, ← Option.isSome_iff_ne_none, List.lookup_isSome_iff,
    ← List.mem_eraseDups]
  constructor
  · rintro ⟨⟨key', name⟩, among, same⟩
    obtain ⟨n, found, -⟩ := numbered.mem_iff.mp among
    rw [eq_of_beq same]
    exact List.mem_of_getElem? found
  · intro among
    obtain ⟨n, found⟩ := List.mem_iff_getElem?.mp among
    exact ⟨_, numbered.mem_iff.mpr ⟨n, found, rfl⟩, beq_self_eq_true key⟩

/-- A key is found with the name of its number. -/
theorem lookup_of_getElem? (numbered : Numbered letter keys named) {n : Nat}
    (is : keys.eraseDups[n]? = some key) : named.lookup key = some (letter ++ Text.ofNat n) := by
  have known : key ∈ keys := List.mem_eraseDups.mp (List.mem_of_getElem? is)
  cases found : named.lookup key with
  | none => exact absurd known (numbered.lookup_eq_none_iff.mp found)
  | some name =>
    obtain ⟨front, back, split, -⟩ := List.lookup_eq_some_iff.mp found
    have among : (key, name) ∈ named := split ▸ List.mem_append_right _ List.mem_cons_self
    obtain ⟨n', is', rfl⟩ := numbered.mem_iff.mp among
    have bound := (List.getElem?_eq_some_iff.mp is).1
    rw [(List.getElem?_inj bound (nodup_eraseDups keys)).mp (is.trans is'.symm)]

/-- Naming one more key keeps the numbering: a known key takes no number. -/
theorem nameMember (numbered : Numbered letter keys named) (key : κ) :
    Numbered letter (keys ++ [key]) (nameMember letter named key) := by
  rw [Numbered, eraseDups_concat, TargetNames.nameMember]
  cases found : named.lookup key with
  | none =>
    have fresh := numbered.lookup_eq_none_iff.mp found
    have count : named.length = keys.eraseDups.length := by
      rw [numbered, List.length_mapIdx]
    rw [if_neg fresh, List.mapIdx_concat, ← numbered, count]
  | some name =>
    have known : key ∈ keys := by
      by_contra fresh
      rw [numbered.lookup_eq_none_iff.mpr fresh] at found
      cases found
    rw [if_pos known]
    exact numbered

/-- Further members get further numbers. -/
theorem foldl_nameMember (numbered : Numbered letter keys named) (more : List κ) :
    Numbered letter (keys ++ more) (more.foldl (TargetNames.nameMember letter) named) := by
  induction more generalizing keys named with
  | nil => simpa using numbered
  | cons key more inductionHypothesis =>
    have later := inductionHypothesis (numbered.nameMember key)
    rwa [List.append_assoc, List.singleton_append] at later

/-- A numbered key has its compact name. -/
theorem nameOf_of_getElem? (numbered : Numbered letter keys named) {n : Nat}
    (is : keys.eraseDups[n]? = some key) (full : Text) :
    nameOf named full key = letter ++ Text.ofNat n := by
  rw [nameOf, numbered.lookup_of_getElem? is, Option.getD_some]

/-- Other keys have their full names. -/
theorem nameOf_of_notMem (numbered : Numbered letter keys named) (absent : key ∉ keys)
    (full : Text) : nameOf named full key = full := by
  rw [nameOf, numbered.lookup_eq_none_iff.mpr absent, Option.getD_none]

section

variable {full full' : Text}

/-- The underscore tells full names from compact ones. -/
theorem underscore_mem_nameOf_iff (numbered : Numbered letter keys named)
    (unmarked : .char '_' ∉ letter) (marked : .char '_' ∈ full) :
    .char '_' ∈ nameOf named full key ↔ key ∉ keys := by
  by_cases known : key ∈ keys
  · obtain ⟨n, is⟩ := exists_getElem?_eraseDups known
    rw [numbered.nameOf_of_getElem? is]
    exact iff_of_false (List.not_mem_append unmarked (Text.underscore_notMem_ofNat n))
      (not_not.mpr known)
  · rw [numbered.nameOf_of_notMem known]
    exact iff_of_true marked known

/-- The name of a numbered key is the name of no other key, numbered or not. -/
theorem eq_of_nameOf (numbered : Numbered letter keys named) (unmarked : .char '_' ∉ letter)
    (marked : .char '_' ∈ full) (marked' : .char '_' ∈ full') {key' : κ} (known : key ∈ keys)
    (same : nameOf named full' key' = nameOf named full key) : key' = key := by
  have known' : key' ∈ keys := by
    by_contra absent
    have here := (numbered.underscore_mem_nameOf_iff unmarked marked').mpr absent
    exact (numbered.underscore_mem_nameOf_iff unmarked marked).mp (same ▸ here) known
  obtain ⟨n, is⟩ := exists_getElem?_eraseDups known
  obtain ⟨n', is'⟩ := exists_getElem?_eraseDups known'
  rw [numbered.nameOf_of_getElem? is, numbered.nameOf_of_getElem? is',
    List.append_cancel_left_eq] at same
  rw [Text.ofNat_injective same] at is'
  exact Option.some.inj (is'.symm.trans is)

/-- Keys of two numberings have different names if either is numbered. -/
theorem nameOf_ne {κ' : Type} [DecidableEq κ'] {letter' : Text} {keys' : List κ'}
    {named' : List (κ' × Text)} {key' : κ'} (numbered : Numbered letter keys named)
    (numbered' : Numbered letter' keys' named') (unmarked : .char '_' ∉ letter)
    (unmarked' : .char '_' ∉ letter') (apart : ∀ t u, letter ++ t ≠ letter' ++ u)
    (marked : .char '_' ∈ full) (marked' : .char '_' ∈ full')
    (known : key ∈ keys ∨ key' ∈ keys') : nameOf named full key ≠ nameOf named' full' key' := by
  intro same
  have alike : key ∉ keys ↔ key' ∉ keys' := by
    rw [← numbered.underscore_mem_nameOf_iff unmarked marked,
      ← numbered'.underscore_mem_nameOf_iff unmarked' marked', same]
  have both : key ∈ keys ∧ key' ∈ keys' := by tauto
  obtain ⟨n, is⟩ := exists_getElem?_eraseDups both.1
  obtain ⟨n', is'⟩ := exists_getElem?_eraseDups both.2
  rw [numbered.nameOf_of_getElem? is, numbered'.nameOf_of_getElem? is'] at same
  exact apart _ _ same

/-- Keys that come later change no name. -/
theorem nameOf_of_append {more : List κ} {named' : List (κ × Text)}
    (numbered : Numbered letter keys named) (numbered' : Numbered letter (keys ++ more) named')
    (known : key ∈ keys) (full : Text) : nameOf named' full key = nameOf named full key := by
  obtain ⟨n, is⟩ := exists_getElem?_eraseDups known
  have is' : (keys ++ more).eraseDups[n]? = some key := by
    rw [List.eraseDups_append, List.getElem?_append_left (List.getElem?_eq_some_iff.mp is).1, is]
  rw [numbered.nameOf_of_getElem? is, numbered'.nameOf_of_getElem? is']

end

end Numbered

end

end TargetNames

/-! ### The members of a program -/

namespace Program

/-- The keys of all methods, in the order of their declaration. -/
def methodKeys (p : Program) : List MethodKey :=
  p.classes.flatMap fun c => c.methods.map (TargetNames.methodKey c)

/-- The keys of all fields in the order of the program. -/
def fieldKeys (p : Program) : List FieldKey :=
  p.classes.flatMap fun c => c.fields.map (TargetNames.fieldKey c)

end Program

namespace TargetNames

/-- Naming classes numbers their methods and fields. -/
theorem numbered_nameClass {names : TargetNames} {methods : List MethodKey}
    {fields : List FieldKey} (numbered : Numbered "m" methods names.methods)
    (numbered' : Numbered "f" fields names.fields) (classes : List ClassNode) :
    Numbered "m" (methods ++ classes.flatMap fun c => c.methods.map (methodKey c))
        (classes.foldl nameClass names).methods ∧
      Numbered "f" (fields ++ classes.flatMap fun c => c.fields.map (fieldKey c))
        (classes.foldl nameClass names).fields := by
  -- The classes before count only through what they have named, which is any numbering.
  induction classes generalizing names methods fields with
  | nil => simpa using ⟨numbered, numbered'⟩
  | cons c classes inductionHypothesis =>
    have named : Numbered "m" (methods ++ c.methods.map (methodKey c))
        (names.nameClass c).methods := numbered.foldl_nameMember _
    have named' : Numbered "f" (fields ++ c.fields.map (fieldKey c))
        (names.nameClass c).fields := numbered'.foldl_nameMember _
    have later := inductionHypothesis named named'
    simpa only [List.flatMap_cons, List.append_assoc, List.foldl_cons] using later

/-- So the members of a program are numbered in their order. -/
theorem numbered_ofProgram (p : Program) :
    Numbered "m" p.methodKeys (ofProgram p true).methods ∧
      Numbered "f" p.fieldKeys (ofProgram p true).fields := by
  have none : Numbered "m" [] (TargetNames.mk [] []).methods := rfl
  have none' : Numbered "f" [] (TargetNames.mk [] []).fields := rfl
  exact numbered_nameClass none none' p.classes

/-! ### Names -/

/-- Escaping keeps underscores. -/
theorem underscore_mem_escaped {t : Text} (marked : .char '_' ∈ t) :
    .char '_' ∈ escaped Code.isMemberSafe t :=
  List.mem_map.mpr ⟨_, marked, rfl⟩

/-- The full name of a method has an underscore. -/
theorem underscore_mem_method (m : MethodNode) :
    .char '_' ∈ escaped Code.isMemberSafe (spelledMethod m) :=
  underscore_mem_escaped (List.mem_append_right _ List.mem_cons_self)

/-- So has the full name of a field. -/
theorem underscore_mem_field (f : FieldNode) :
    .char '_' ∈ escaped Code.isMemberSafe (spelledField f) :=
  underscore_mem_escaped List.mem_cons_self

section

variable {p : Program} {c c' : ClassNode} {m : MethodNode} {f : FieldNode}

/-- A compact name belongs to one method only. -/
theorem methodKey_of_methodName {m' : MethodNode} (known : methodKey c m ∈ p.methodKeys)
    (same : (ofProgram p true).methodName c' m' = (ofProgram p true).methodName c m) :
    methodKey c' m' = methodKey c m := by
  rw [methodName_eq, methodName_eq] at same
  exact (numbered_ofProgram p).1.eq_of_nameOf (by decide) (underscore_mem_method m)
    (underscore_mem_method m') known same

/-- A compact name belongs to one field only. -/
theorem fieldKey_of_fieldName {f' : FieldNode} (known : fieldKey c f ∈ p.fieldKeys)
    (same : (ofProgram p true).fieldName c' f' = (ofProgram p true).fieldName c f) :
    fieldKey c' f' = fieldKey c f := by
  rw [fieldName_eq, fieldName_eq] at same
  exact (numbered_ofProgram p).2.eq_of_nameOf (by decide) (underscore_mem_field f)
    (underscore_mem_field f') known same

/-- A method and a field have different names if either is of the program. -/
theorem methodName_ne_fieldName
    (known : methodKey c m ∈ p.methodKeys ∨ fieldKey c' f ∈ p.fieldKeys) :
    (ofProgram p true).methodName c m ≠ (ofProgram p true).fieldName c' f := by
  have apart (t u : Text) : ("m" : Text) ++ t ≠ ("f" : Text) ++ u := fun same =>
    absurd (congrArg List.head? same) (by simp [Text.ofString])
  rw [methodName_eq, fieldName_eq]
  exact (numbered_ofProgram p).1.nameOf_ne (numbered_ofProgram p).2 (by decide) (by decide) apart
    (underscore_mem_method m) (underscore_mem_field f) known

/-- Further classes do not change the names of methods. -/
theorem methodName_of_append (known : methodKey c m ∈ p.methodKeys) (extra : List ClassNode) :
    (ofProgram { p with classes := p.classes ++ extra } true).methodName c m =
      (ofProgram p true).methodName c m := by
  have numbered := (numbered_ofProgram { p with classes := p.classes ++ extra }).1
  rw [Program.methodKeys, List.flatMap_append] at numbered
  rw [methodName_eq, methodName_eq]
  exact (numbered_ofProgram p).1.nameOf_of_append numbered known _

/-- Neither do they change the names of fields. -/
theorem fieldName_of_append (known : fieldKey c f ∈ p.fieldKeys) (extra : List ClassNode) :
    (ofProgram { p with classes := p.classes ++ extra } true).fieldName c f =
      (ofProgram p true).fieldName c f := by
  have numbered := (numbered_ofProgram { p with classes := p.classes ++ extra }).2
  rw [Program.fieldKeys, List.flatMap_append] at numbered
  rw [fieldName_eq, fieldName_eq]
  exact (numbered_ofProgram p).2.nameOf_of_append numbered known _

end

/-- With compact names, the distinct keys of a program's methods are numbered in program order, and
so are those of its fields. Hence a name of the program stands for one member, whatever members are
named beside it, and classes that are declared behind it do not change it. -/
theorem compactNames_numbered (p : Program) :
    (∀ n c m, p.methodKeys.eraseDups[n]? = some (methodKey c m) →
      (ofProgram p true).methodName c m = "m" ++ Text.ofNat n) ∧
    (∀ n c f, p.fieldKeys.eraseDups[n]? = some (fieldKey c f) →
      (ofProgram p true).fieldName c f = "f" ++ Text.ofNat n) ∧
    (∀ c m, methodKey c m ∈ p.methodKeys →
      (∀ c' m', (ofProgram p true).methodName c' m' = (ofProgram p true).methodName c m →
        methodKey c' m' = methodKey c m) ∧
      (∀ c' f, (ofProgram p true).fieldName c' f ≠ (ofProgram p true).methodName c m) ∧
      ∀ extra, (ofProgram { p with classes := p.classes ++ extra } true).methodName c m =
        (ofProgram p true).methodName c m) ∧
    (∀ c f, fieldKey c f ∈ p.fieldKeys →
      (∀ c' f', (ofProgram p true).fieldName c' f' = (ofProgram p true).fieldName c f →
        fieldKey c' f' = fieldKey c f) ∧
      (∀ c' m, (ofProgram p true).methodName c' m ≠ (ofProgram p true).fieldName c f) ∧
      ∀ extra, (ofProgram { p with classes := p.classes ++ extra } true).fieldName c f =
        (ofProgram p true).fieldName c f) := by
  refine ⟨?_, ?_, ?_, ?_⟩
  · intro n c m is
    rw [methodName_eq]
    exact (numbered_ofProgram p).1.nameOf_of_getElem? is _
  · intro n c f is
    rw [fieldName_eq]
    exact (numbered_ofProgram p).2.nameOf_of_getElem? is _
  · intro c m known
    exact ⟨fun c' m' => methodKey_of_methodName known,
      fun c' f => (methodName_ne_fieldName (.inl known)).symm, methodName_of_append known⟩
  · intro c f known
    exact ⟨fun c' f' => fieldKey_of_fieldName known,
      fun c' m => methodName_ne_fieldName (.inr known), fieldName_of_append known⟩

/-- A class that has one of its methods twice. -/
def repeated : ClassNode where
  name := "app.Main"
  methods := [⟨"run", "()V", true, []⟩, ⟨"add", "(II)I", false, []⟩, ⟨"run", "()V", true, []⟩]
  fields := [⟨"total", "I", false, []⟩]
  metadata := []

/-- The class is declared twice and then extended by a method and a field. -/
def repeatedProgram : Program where
  classes := [repeated, repeated,
    { repeated with
      methods := [⟨"add", "(II)I", false, []⟩, ⟨"stop", "()V", true, []⟩]
      fields := [⟨"count", "I", false, []⟩] }]
  resources := []
  resourcesDir := none

theorem compactNames_numbered_repeated :
    (ofProgram repeatedProgram true).methodName repeated ⟨"stop", "()V", true, []⟩ = "m2" ∧
      (ofProgram repeatedProgram true).fieldName repeated ⟨"count", "I", false, []⟩ = "f1" ∧
      (∀ c f, (ofProgram repeatedProgram true).fieldName c f ≠
        (ofProgram repeatedProgram true).methodName repeated ⟨"add", "(II)I", false, []⟩) ∧
      ∀ c m, (ofProgram repeatedProgram true).methodName c m ≠
        (ofProgram repeatedProgram true).fieldName repeated ⟨"total", "I", false, []⟩ := by
  obtain ⟨methods, fields, method, field⟩ := compactNames_numbered repeatedProgram
  exact ⟨methods 2 repeated _ (by decide +kernel), fields 1 repeated _ (by decide +kernel),
    (method repeated _ (by decide +kernel)).2.1, (field repeated _ (by decide +kernel)).2.1⟩

end TargetNames

end HaxeBuild
