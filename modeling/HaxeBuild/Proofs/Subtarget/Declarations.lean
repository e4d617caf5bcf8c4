import Mathlib.Data.List.Sort
import HaxeBuild.Subtarget.Catalog
import HaxeBuild.Proofs.Effect
import HaxeBuild.Proofs.Program.Sites

namespace HaxeBuild

namespace Subtarget

/-- The subtarget has the name itself or as an alias. -/
def Matches (requested : Text) (s : Subtarget) : Prop :=
  requested = s.name ∨ requested ∈ s.aliases

/-- A subtarget answers to the requests that it matches. -/
theorem answersTo_iff {s : Subtarget} {requested : Text} :
    s.answersTo requested = true ↔ s.Matches requested := by
  simp [answersTo, Matches]

/-- A subtarget with the kind and the site of its declaration. -/
structure Declaration where
  site : Site
  kind : MetadataKind
  subtarget : Subtarget
  deriving DecidableEq

end Subtarget

open Subtarget

namespace Program

/-- The program declares a subtarget at the site. -/
def Declares (p : Program) (d : Declaration) : Prop :=
  Catalog.declares d.kind = true ∧
    ∃ v, p.declaredAt d.site = some (d.kind, v) ∧ Subtarget.ofValue v = .valid d.subtarget

/-- Whatever is declared as a subtarget is one. -/
def IsValid (p : Program) : Prop :=
  ∀ site kind v, p.declaredAt site = some (kind, v) → Catalog.declares kind = true →
    ∃ s, Subtarget.ofValue v = .valid s

/-- The subtarget that stands for a declared value. -/
def declaration? (found : Site × MetadataKind × Value) : Option Declaration :=
  (Subtarget.ofValue found.2.2).orFail.toOption.map fun s => ⟨found.1, found.2.1, s⟩

/-- All subtargets that the program declares. -/
def subtargets (p : Program) : List Declaration :=
  (p.sites Catalog.declares).filterMap declaration?

variable {p p' : Program}

/-- A declaration is a subtarget that is read at a site. -/
theorem declaration?_eq_some {found : Site × MetadataKind × Value} {d : Declaration} :
    declaration? found = some d ↔
      found.1 = d.site ∧ found.2.1 = d.kind ∧ Subtarget.ofValue found.2.2 = .valid d.subtarget := by
  obtain ⟨site, kind, s⟩ := d
  cases read : Subtarget.ofValue found.2.2 with
  | invalid issues => simp [declaration?, read, Checked.orFail, Except.toOption]
  | valid s' => simp [declaration?, read, Checked.orFail, Except.toOption]

/-- The subtargets of a program are those that it declares. -/
theorem mem_subtargets {d : Declaration} : d ∈ p.subtargets ↔ p.Declares d := by
  simp only [subtargets, List.mem_filterMap, declaration?_eq_some, Declares]
  constructor
  · rintro ⟨⟨site, kind, v⟩, among, rfl, rfl, read⟩
    have ⟨declared, is⟩ := mem_sites.mp among
    exact ⟨is, v, declared, read⟩
  · rintro ⟨is, v, declared, read⟩
    exact ⟨(d.site, d.kind, v), mem_sites.mpr ⟨declared, is⟩, rfl, rfl, read⟩

/-- A program is valid if every declared value is read as a subtarget. -/
theorem isValid_iff : p.IsValid ↔
    ∀ x ∈ p.sites Catalog.declares, ∃ s, Subtarget.ofValue x.2.2 = .valid s := by
  constructor
  · rintro valid ⟨site, kind, v⟩ among
    have ⟨declared, is⟩ := mem_sites.mp among
    exact valid site kind v declared is
  · intro all site kind v declared is
    exact all (site, kind, v) (mem_sites.mpr ⟨declared, is⟩)

/-- The subtargets of a program come in the order of their sites. -/
theorem ordered_subtargets (p : Program) :
    p.subtargets.Pairwise fun a b => a.site < b.site := by
  refine List.pairwise_filterMap.mpr ((p.ordered_sites Catalog.declares).imp ?_)
  intro x y before a isFirst b isSecond
  rw [← (declaration?_eq_some.mp isFirst).1, ← (declaration?_eq_some.mp isSecond).1]
  exact before

/-- The subtargets of a program are the values that can be read. -/
theorem map_subtargets (found : List (Site × MetadataKind × Value)) :
    (found.filterMap declaration?).map (·.subtarget) =
      (found.map (fun x => x.2.2)).filterMap fun v => (Subtarget.ofValue v).orFail.toOption := by
  rw [List.map_filterMap, List.filterMap_map]
  congr 1
  funext x
  simp only [declaration?, Option.map_map, Function.comp_def, Option.map_id']

/-- Of the subtargets those that a kind declares are kept. -/
theorem filter_subtargets {kind : MetadataKind} (is : Catalog.declares kind = true) :
    p.subtargets.filter (·.kind == kind) = (p.sites (· == kind)).filterMap declaration? := by
  rw [subtargets, List.filter_filterMap, ← filter_sites is, List.filterMap_filter]
  congr 1
  funext x
  rw [declaration?]
  cases (Subtarget.ofValue x.2.2).orFail.toOption with
  | none => simp
  | some s => simp [Option.filter]

end Program

namespace Subtarget.Catalog

/-- Declared values are read one by one, up to the first refusal. -/
theorem read_eq_mapM (vs : List Value) :
    read vs = vs.mapM fun v => (Subtarget.ofValue v).orFail := by
  induction vs with
  | nil => rfl
  | cons v vs inductionHypothesis => rw [read, List.mapM_cons, inductionHypothesis]

/-- Where all declared values are subtargets, they are the ones that are read. -/
theorem read_of_valid {found : List (Site × MetadataKind × Value)}
    (valid : ∀ x ∈ found, ∃ s, Subtarget.ofValue x.2.2 = .valid s) :
    read (found.map fun x => x.2.2) =
      .ok ((found.filterMap Program.declaration?).map (·.subtarget)) := by
  have readable : ∀ v ∈ found.map (fun x => x.2.2), ∃ s, (Subtarget.ofValue v).orFail = .ok s := by
    intro v among
    obtain ⟨x, held, rfl⟩ := List.mem_map.mp among
    obtain ⟨s, is⟩ := valid x held
    exact ⟨s, Checked.orFail_eq_ok.mpr is⟩
  obtain ⟨subtargets, done⟩ := except_mapM_exists.mpr readable
  rw [read_eq_mapM, done, Program.map_subtargets, toOption_of_mapM done]

variable {p p' : Program} {c c' : Catalog} {requested : Text}

/-- The catalog of a valid program ends with what the program declares. -/
theorem ofProgram_of_valid (valid : p.IsValid) (standard : List Subtarget) :
    ofProgram p standard = .ok (standard ++ p.subtargets.map (·.subtarget)) := by
  have known := read_of_valid (Program.isValid_iff.mp valid)
  rw [Program.map_sites] at known
  exact except_bind_ok.mpr ⟨_, known, rfl⟩

/-- What a kind declares is what its metadata are read as. -/
theorem read_allMetadata (valid : p.IsValid) (keyed : p.IsKeyed) {kind : MetadataKind}
    (is : declares kind = true) :
    read (Value.flattenAll (p.allMetadata kind)) =
      .ok ((p.subtargets.filter (·.kind == kind)).map (·.subtarget)) := by
  have readable : ∀ x ∈ p.sites (· == kind), ∃ s, Subtarget.ofValue x.2.2 = .valid s := by
    rintro ⟨site, other, v⟩ among
    have ⟨declared, same⟩ := Program.mem_sites.mp among
    rw [← eq_of_beq same] at is
    exact valid site other v declared is
  rw [Program.flattenAll_allMetadata keyed, read_of_valid readable, Program.filter_subtargets is]

/-- The last subtarget that matches is the answer; otherwise the names of all are reported. -/
structure AnswersLast (c : Catalog) (requested : Text) : Prop where
  found : ∀ s, c.resolve requested = .ok s ↔
    ∃ before after, c = before ++ s :: after ∧ s.Matches requested ∧
      ∀ later ∈ after, ¬ later.Matches requested
  unknown : ∀ e, c.resolve requested = .error e ↔
    e = .unknownSubtarget requested (c.map (·.name)) ∧ ∀ s ∈ c, ¬ s.Matches requested

/-- Only the subtargets that match matter for the answer. -/
theorem resolve_eq_ok {s : Subtarget} :
    c.resolve requested = .ok s ↔ (c.filter (·.answersTo requested)).getLast? = some s := by
  rw [List.getLast?_filter, resolve]
  cases c.reverse.find? (·.answersTo requested) <;> simp

/-- A request is refused only where nothing answers to it, and all names are told. -/
theorem resolve_eq_error {e : BuildError} :
    c.resolve requested = .error e ↔
      e = .unknownSubtarget requested c.names ∧ c.filter (·.answersTo requested) = [] := by
  rw [← List.getLast?_eq_none_iff, List.getLast?_filter, resolve]
  cases c.reverse.find? (·.answersTo requested) <;> simp [eq_comm]

/-- The last one that answers to a request is the one that is found. -/
theorem answersLast (c : Catalog) (requested : Text) : AnswersLast c requested where
  found := by
    intro s
    rw [resolve_eq_ok, List.getLast?_filter, List.find?_eq_some_iff_append, answersTo_iff]
    constructor
    · rintro ⟨matching, later, earlier, split, others⟩
      refine ⟨earlier.reverse, later.reverse, ?_, matching, fun other among => ?_⟩
      · rw [← List.reverse_reverse c, split]
        simp
      · have differs := others other (List.mem_reverse.mp among)
        rw [← answersTo_iff]
        simpa using differs
    · rintro ⟨before, after, rfl, matching, others⟩
      refine ⟨matching, after.reverse, before.reverse, by simp, fun other among => ?_⟩
      have differs := others other (List.mem_reverse.mp among)
      rw [← answersTo_iff] at differs
      simpa using differs
  unknown := by
    intro e
    rw [resolve_eq_error, List.filter_eq_nil_iff]
    simp only [answersTo_iff]
    rfl

/-- A declaration after which no other matches is the answer. -/
theorem resolve_of_last {d : Declaration} (declares : p.Declares d)
    (matching : d.subtarget.Matches requested)
    (last : ∀ later, p.Declares later → d.site < later.site → ¬ later.subtarget.Matches requested)
    (standard : List Subtarget) :
    resolve (standard ++ p.subtargets.map (·.subtarget)) requested = .ok d.subtarget := by
  obtain ⟨before, after, split⟩ := List.append_of_mem (Program.mem_subtargets.mpr declares)
  have ordered := p.ordered_subtargets
  rw [split] at ordered
  have later := (List.pairwise_cons.mp (List.pairwise_append.mp ordered).2.1).1
  refine ((answersLast _ requested).found d.subtarget).mpr
    ⟨standard ++ before.map (·.subtarget), after.map (·.subtarget), ?_, matching, ?_⟩
  · rw [split, List.map_append, List.map_cons, List.append_assoc]
  · intro s among
    obtain ⟨other, held, rfl⟩ := List.mem_map.mp among
    have too : other ∈ p.subtargets := by simp [split, held]
    exact last other (Program.mem_subtargets.mp too) (later other held)

end Subtarget.Catalog

/-! ### Further declarations -/

namespace Program

/-- Another program declares the same subtargets in the same order, and elsewhere only subtargets
that do not match. -/
structure IsExtended (p : Program) (requested : Text) (move : Site → Site) (p' : Program) :
    Prop where
  ordered : ∀ a b, p.Declares a → p.Declares b → a.site < b.site → move a.site < move b.site
  kept : ∀ d, p.Declares d → p'.Declares { d with site := move d.site }
  others : ∀ d, p'.Declares d → ¬ d.subtarget.Matches requested ∨
    ∃ origin, p.Declares origin ∧ d = { origin with site := move origin.site }

/-- An extension keeps what answers to the request, at its moved sites. -/
theorem IsExtended.filter_eq {p p' : Program} {requested : Text} {move : Site → Site}
    (extended : p.IsExtended requested move p') :
    (p'.subtargets.filter (·.subtarget.answersTo requested)) =
      (p.subtargets.filter (·.subtarget.answersTo requested)).map
        fun d => { d with site := move d.site } := by
  let Before (a b : Declaration) : Prop := a.site < b.site
  have irreflexive : Std.Irrefl Before := ⟨fun a => List.lt_irrefl a.site⟩
  have antisymmetric : Std.Antisymm Before := ⟨fun a b first second =>
    absurd second (List.lt_asymm first)⟩
  have moved : ((p.subtargets.filter (·.subtarget.answersTo requested)).map
      fun d => { d with site := move d.site }).Pairwise Before := by
    refine List.pairwise_map.mpr ((p.ordered_subtargets.filter _).imp_of_mem ?_)
    intro a b first second before
    exact extended.ordered a b (mem_subtargets.mp (List.mem_filter.mp first).1)
      (mem_subtargets.mp (List.mem_filter.mp second).1) before
  refine (p'.ordered_subtargets.filter _).eq_of_mem_iff moved fun d => ?_
  simp only [List.mem_filter, List.mem_map, mem_subtargets, answersTo_iff]
  constructor
  · rintro ⟨declares, matching⟩
    rcases extended.others d declares with differs | ⟨origin, first, rfl⟩
    · exact absurd matching differs
    · exact ⟨origin, ⟨first, matching⟩, rfl⟩
  · rintro ⟨origin, ⟨declares, matching⟩, rfl⟩
    exact ⟨extended.kept origin declares, matching⟩

end Program

namespace Subtarget.Catalog

variable {p p' : Program} {requested : Text}

/-- An extension does not change the answer to the request. -/
theorem resolve_of_extended {move : Site → Site} (extended : p.IsExtended requested move p')
    (standard : List Subtarget) (s : Subtarget) :
    resolve (standard ++ p'.subtargets.map (·.subtarget)) requested = .ok s ↔
      resolve (standard ++ p.subtargets.map (·.subtarget)) requested = .ok s := by
  have same : (p'.subtargets.map (·.subtarget)).filter (·.answersTo requested) =
      (p.subtargets.map (·.subtarget)).filter (·.answersTo requested) := by
    have moved := congrArg (List.map (·.subtarget)) extended.filter_eq
    rw [List.map_map] at moved
    rw [List.filter_map, List.filter_map]
    exact moved
  rw [resolve_eq_ok, resolve_eq_ok, List.filter_append, List.filter_append, same]

/-- A catalog lists the standard subtargets and then each declared one in the order of their sites.
The last one that matches answers to a name. Other declarations do not matter. -/
theorem answers_last_declared (valid : p.IsValid) (standard : List Subtarget) :
    ∃ (catalog : Catalog) (own : List Declaration), ofProgram p standard = .ok catalog ∧
      catalog = standard ++ own.map (·.subtarget) ∧
      own.Pairwise (fun a b => a.site < b.site) ∧ (∀ d, d ∈ own ↔ p.Declares d) ∧
      (p.IsKeyed → ∀ kind, declares kind = true →
        read (Value.flattenAll (p.allMetadata kind)) =
          .ok ((own.filter (·.kind == kind)).map (·.subtarget))) ∧
      ∀ requested, AnswersLast catalog requested ∧
        (∀ d, p.Declares d → d.subtarget.Matches requested →
          (∀ later, p.Declares later → d.site < later.site →
            ¬ later.subtarget.Matches requested) →
          catalog.resolve requested = .ok d.subtarget) ∧
        ∀ p' move, p'.IsValid → p.IsExtended requested move p' →
          ∃ other, ofProgram p' standard = .ok other ∧
            ∀ s, other.resolve requested = .ok s ↔ catalog.resolve requested = .ok s := by
  refine ⟨_, p.subtargets, ofProgram_of_valid valid standard, rfl, p.ordered_subtargets,
    fun d => Program.mem_subtargets, fun keyed kind is => read_allMetadata valid keyed is,
    fun requested => ⟨answersLast _ requested, ?_, ?_⟩⟩
  · intro d declares matching last
    exact resolve_of_last declares matching last standard
  · intro p' move others extended
    exact ⟨_, ofProgram_of_valid others standard, resolve_of_extended extended standard⟩

namespace Small

/-- A subtarget that takes the name of a standard one. -/
def custom : Subtarget := ⟨"js", ["es6"], "-js", "deno", ""⟩

/-- A subtarget that does not answer to the request. -/
def other : Subtarget := ⟨"cpp", [], "-cpp", "", ""⟩

/-- A class declares two subtargets at once and its method another one. -/
def declaring (vs : List Value) : Program where
  classes := [⟨"app.Main", [⟨"main", "()V", true, [(.addSubtarget, [.subtarget other])]⟩], [],
    [(.addSubtargetList, vs)]⟩]
  resources := []
  resourcesDir := none

/-- A program with both subtargets in one list. -/
def program : Program := declaring [.list [.subtarget custom, .subtarget other]]

/-- The class declares one more in front of the others. -/
def extended : Program := declaring [.subtarget other, .list [.subtarget custom, .subtarget other]]

/-- Where the declarations of the program stand after the extension. -/
def move : Site → Site
  | 0 :: 0 :: 0 :: value :: item => 0 :: 0 :: 0 :: (value + 1) :: item
  | site => site

/-- The extension declares the other subtarget once more, in front. -/
theorem subtargets_extended : extended.subtargets =
    ⟨[0, 0, 0, 0, 0], .addSubtargetList, other⟩ ::
      program.subtargets.map fun d => { d with site := move d.site } := by
  decide +kernel

/-- Values that all are read make a valid program. -/
theorem isValid_declaring {vs : List Value}
    (read : ∀ x ∈ (declaring vs).sites declares, (Program.declaration? x).isSome = true) :
    (declaring vs).IsValid := by
  refine Program.isValid_iff.mpr fun x among => ?_
  obtain ⟨d, is⟩ := Option.isSome_iff_exists.mp (read x among)
  exact ⟨d.subtarget, (Program.declaration?_eq_some.mp is).2.2⟩

/-- The extension is one for this request. -/
theorem isExtended_extended : program.IsExtended "js" move extended where
  ordered := by
    have all : ∀ a ∈ program.subtargets, ∀ b ∈ program.subtargets,
        a.site < b.site → move a.site < move b.site := by decide +kernel
    intro a b first second
    exact all a (Program.mem_subtargets.mpr first) b (Program.mem_subtargets.mpr second)
  kept := by
    intro d declares
    rw [← Program.mem_subtargets, subtargets_extended]
    exact List.mem_cons_of_mem _ (List.mem_map_of_mem (Program.mem_subtargets.mpr declares))
  others := by
    intro d declares
    rw [← Program.mem_subtargets, subtargets_extended] at declares
    rcases List.mem_cons.mp declares with rfl | moved
    · left
      rw [← answersTo_iff]
      decide
    · obtain ⟨origin, held, rfl⟩ := List.mem_map.mp moved
      exact .inr ⟨origin, Program.mem_subtargets.mp held, rfl⟩

end Small

/-- A request with two declarations that answer to it, before and after. -/
theorem answers_last_declared_extended :
    ∃ catalog other, ofProgram Small.program standard = .ok catalog ∧
      ofProgram Small.extended standard = .ok other ∧
      catalog.resolve "js" = .ok Small.custom ∧ other.resolve "js" = .ok Small.custom ∧
      ∃ own : List Declaration, catalog = standard ++ own.map (·.subtarget) ∧
        read (Value.flattenAll (Small.program.allMetadata .addSubtargetList)) =
          .ok ((own.filter (·.kind == .addSubtargetList)).map (·.subtarget)) := by
  have valid : Small.program.IsValid := Small.isValid_declaring (by decide +kernel)
  have keyed : Small.program.IsKeyed := by
    show ∀ c ∈ Small.program.classes, ∀ m ∈ c.nodes, (m.map (·.1)).Nodup
    decide +kernel
  obtain ⟨catalog, own, listed, split, -, -, kinds, answers⟩ := answers_last_declared valid standard
  have ⟨_, answer, insertion⟩ := answers "js"
  have declares : Small.program.Declares ⟨[0, 0, 0, 0, 0], .addSubtargetList, Small.custom⟩ := by
    rw [← Program.mem_subtargets]
    decide +kernel
  have matching : Small.custom.Matches "js" := answersTo_iff.mp (by decide)
  have others : ∀ later ∈ Small.program.subtargets, [0, 0, 0, 0, 0] < later.site →
      later.subtarget.answersTo "js" = false := by decide +kernel
  have found := answer _ declares matching fun later declared after => by
    rw [← answersTo_iff, others later (Program.mem_subtargets.mpr declared) after]
    exact Bool.false_ne_true
  obtain ⟨other, listed', same⟩ := insertion Small.extended Small.move
    (Small.isValid_declaring (by decide +kernel)) Small.isExtended_extended
  exact ⟨catalog, other, listed, listed', found, (same Small.custom).mpr found, own, split,
    kinds keyed .addSubtargetList rfl⟩

end Subtarget.Catalog

end HaxeBuild
