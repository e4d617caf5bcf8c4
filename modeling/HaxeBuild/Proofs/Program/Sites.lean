import Mathlib.Data.List.Basic
import HaxeBuild.Program.Basic

namespace HaxeBuild

abbrev Site := List Nat

namespace Site

variable {α β : Type} {inner : α → List (Site × β)} {as : List α}

/-- What all items hold, with the number of the item in front of its site. -/
def numbered (inner : α → List (Site × β)) (as : List α) : List (Site × β) :=
  as.zipIdx.flatMap fun (a, number) => (inner a).map fun (site, b) => (number :: site, b)

theorem mem_numbered {site : Site} {b : β} :
    (site, b) ∈ numbered inner as ↔
      ∃ number a rest, as[number]? = some a ∧ site = number :: rest ∧ (rest, b) ∈ inner a := by
  simp only [numbered, List.mem_flatMap, List.mem_map]
  constructor
  · rintro ⟨⟨a, number⟩, among, ⟨rest, _⟩, held, is⟩
    cases is
    exact ⟨number, a, rest, List.mem_zipIdx_iff_getElem?.mp among, rfl, held⟩
  · rintro ⟨number, a, rest, found, rfl, held⟩
    exact ⟨(a, number), List.mem_zipIdx_iff_getElem?.mpr found, (rest, b), held, rfl⟩

/-- What is numbered is in order if it is in order within each item. -/
theorem ordered_numbered (each : ∀ a ∈ as, (inner a).Pairwise fun x y => x.1 < y.1) :
    (numbered inner as).Pairwise fun x y => x.1 < y.1 := by
  rw [numbered, List.pairwise_flatMap]
  constructor
  · rintro ⟨a, number⟩ among
    refine List.pairwise_map.mpr ((each a ?_).imp ?_)
    · exact List.mem_of_getElem? (List.mem_zipIdx_iff_getElem?.mp among)
    · intro x y before
      exact List.cons_lt_cons_iff.mpr (.inr ⟨rfl, before⟩)
  · have numbers : (as.zipIdx.map (·.2)).Pairwise (· < ·) := by
      rw [List.zipIdx_map_snd]
      exact List.pairwise_lt_range'
    refine (List.pairwise_map.mp numbers).imp ?_
    intro a b before x first y second
    obtain ⟨x, -, rfl⟩ := List.mem_map.mp first
    obtain ⟨y, -, rfl⟩ := List.mem_map.mp second
    exact List.cons_lt_cons_iff.mpr (.inl before)

theorem flatMap_zipIdx {γ : Type} (f : α → List γ) (as : List α) :
    as.zipIdx.flatMap (fun x => f x.1) = as.flatMap f := by
  rw [← List.flatMap_map, List.zipIdx_map_fst]

theorem map_numbered {γ : Type} (f : β → γ) :
    (numbered inner as).map (fun x => f x.2) =
      as.flatMap fun a => (inner a).map fun x => f x.2 := by
  simp only [numbered, List.map_flatMap, List.map_map]
  exact flatMap_zipIdx (fun a => (inner a).map fun x => f x.2) as

theorem filter_numbered (keep : β → Bool) :
    (numbered inner as).filter (fun x => keep x.2) =
      numbered (fun a => (inner a).filter fun x => keep x.2) as := by
  simp only [numbered, List.filter_flatMap, List.filter_map]
  rfl

end Site

/-! ### Declared values -/

namespace Metadata

/-- The values that stand under one key. -/
def entrySites (entry : MetadataKind × List Value) : List (Site × MetadataKind × Value) :=
  Site.numbered (fun v => Site.numbered (fun item => [([], entry.1, item)]) v.flattened) entry.2

theorem mem_entrySites {entry : MetadataKind × List Value} {site : Site} {kind : MetadataKind}
    {v : Value} : (site, kind, v) ∈ entrySites entry ↔ kind = entry.1 ∧
      ∃ value whole, entry.2[value]? = some whole ∧
        ∃ item, whole.flattened[item]? = some v ∧ site = [value, item] := by
  simp only [entrySites, Site.mem_numbered, List.mem_singleton]
  constructor
  · rintro ⟨value, whole, _, isValue, rfl, item, found, _, isItem, rfl, is⟩
    cases is
    exact ⟨rfl, value, whole, isValue, item, isItem, rfl⟩
  · rintro ⟨rfl, value, whole, isValue, item, isItem, rfl⟩
    exact ⟨value, whole, [item], isValue, rfl, item, v, [], isItem, rfl, rfl⟩

theorem ordered_entrySites (entry : MetadataKind × List Value) :
    (entrySites entry).Pairwise fun x y => x.1 < y.1 :=
  Site.ordered_numbered fun _ _ => Site.ordered_numbered fun _ _ => List.pairwise_singleton _ _

theorem map_entrySites (entry : MetadataKind × List Value) :
    (entrySites entry).map (fun x => x.2.2) = Value.flattenAll entry.2 := by
  simp only [entrySites, Site.map_numbered fun x : MetadataKind × Value => x.2, List.map_cons,
    List.map_nil, List.flatMap_singleton', Value.flattenAll]

theorem filter_entrySites (entry : MetadataKind × List Value) (kind : MetadataKind) :
    (entrySites entry).filter (fun x => x.2.1 == kind) =
      if entry.1 == kind then entrySites entry else [] := by
  split
  · rename_i same
    refine List.filter_eq_self.mpr fun ⟨site, k, v⟩ among => ?_
    rw [(mem_entrySites.mp among).1]
    exact same
  · rename_i differs
    refine List.filter_eq_nil_iff.mpr fun ⟨site, k, v⟩ among => ?_
    rw [(mem_entrySites.mp among).1]
    exact differs

/-- A kind that has one key has the values under it. -/
theorem flatMap_entry {m : Metadata} (keyed : (m.map (·.1)).Nodup) (kind : MetadataKind) :
    (m.flatMap fun entry => if entry.1 == kind then Value.flattenAll entry.2 else []) =
      Value.flattenAll (m.values kind) := by
  induction m with
  | nil => rfl
  | cons entry rest inductionHypothesis =>
    obtain ⟨k, vs⟩ := entry
    have ⟨unused, keyed⟩ := List.nodup_cons.mp keyed
    rw [List.flatMap_cons, inductionHypothesis keyed]
    by_cases same : k = kind
    · subst same
      have absent : values rest k = [] := by
        rw [values, List.lookup_eq_none_iff.mpr, Option.getD_none]
        intro other among
        rw [bne_iff_ne]
        rintro rfl
        exact unused (List.mem_map.mpr ⟨other, among, rfl⟩)
      have here : values ((k, vs) :: rest) k = vs := by simp [values]
      rw [if_pos (beq_self_eq_true k), absent, here]
      exact List.append_nil _
    · have here : values ((k, vs) :: rest) kind = values rest kind := by
        simp [values, List.lookup_cons, beq_false_of_ne (Ne.symm same)]
      rw [if_neg (by simp [same]), here, List.nil_append]

end Metadata

namespace Program

/-- The declared values of the wanted kinds with their sites. -/
def sites (wanted : MetadataKind → Bool) (p : Program) : List (Site × MetadataKind × Value) :=
  Site.numbered (fun c : ClassNode => Site.numbered (fun m : Metadata =>
    Site.numbered (fun entry : MetadataKind × List Value =>
      if wanted entry.1 then Metadata.entrySites entry else []) m) c.nodes) p.classes

/-- What is declared at a site. -/
def declaredAt (p : Program) : Site → Option (MetadataKind × Value)
  | [clazz, node, entry, value, item] => do
    let c ← p.classes[clazz]?
    let m ← c.nodes[node]?
    let (kind, vs) ← m[entry]?
    let v ← vs[value]?
    let found ← v.flattened[item]?
    return (kind, found)
  | _ => none

variable {p : Program} {wanted : MetadataKind → Bool}

theorem declaredAt_eq_some {site : Site} {kind : MetadataKind} {v : Value} :
    p.declaredAt site = some (kind, v) ↔
      ∃ clazz c, p.classes[clazz]? = some c ∧ ∃ node m, c.nodes[node]? = some m ∧
        ∃ entry vs, m[entry]? = some (kind, vs) ∧ ∃ value whole, vs[value]? = some whole ∧
          ∃ item, whole.flattened[item]? = some v ∧ site = [clazz, node, entry, value, item] := by
  constructor
  · intro declared
    rcases site with _ | ⟨clazz, _ | ⟨node, _ | ⟨entry, _ | ⟨value, _ | ⟨item, _ | _⟩⟩⟩⟩⟩
    all_goals try cases declared
    simp only [declaredAt, Option.bind_eq_bind, Option.bind_eq_some_iff, Option.pure_def,
      Option.some.injEq] at declared
    obtain ⟨c, isClass, m, isNode, ⟨_, vs⟩, isEntry, whole, isValue, found, isItem, is⟩ := declared
    cases is
    exact ⟨clazz, c, isClass, node, m, isNode, entry, vs, isEntry, value, whole, isValue, item,
      isItem, rfl⟩
  · rintro ⟨clazz, c, isClass, node, m, isNode, entry, vs, isEntry, value, whole, isValue, item,
      isItem, rfl⟩
    simp only [declaredAt, isClass, isNode, isEntry, isValue, isItem, Option.bind_eq_bind,
      Option.bind_some, Option.pure_def]

theorem mem_sites {site : Site} {kind : MetadataKind} {v : Value} :
    (site, kind, v) ∈ p.sites wanted ↔
      p.declaredAt site = some (kind, v) ∧ wanted kind = true := by
  simp only [sites, Site.mem_numbered, declaredAt_eq_some]
  constructor
  · rintro ⟨clazz, c, _, isClass, rfl, node, m, _, isNode, rfl, entry, ⟨k, vs⟩, _, isEntry, rfl,
      among⟩
    cases is : wanted k with
    | false =>
      rw [is] at among
      cases among
    | true =>
      rw [is, if_pos rfl, Metadata.mem_entrySites] at among
      obtain ⟨rfl, value, whole, isValue, item, isItem, rfl⟩ := among
      exact ⟨⟨clazz, c, isClass, node, m, isNode, entry, vs, isEntry, value, whole, isValue, item,
        isItem, rfl⟩, is⟩
  · rintro ⟨⟨clazz, c, isClass, node, m, isNode, entry, vs, isEntry, value, whole, isValue, item,
      isItem, rfl⟩, is⟩
    refine ⟨clazz, c, _, isClass, rfl, node, m, _, isNode, rfl, entry, (kind, vs), _, isEntry, rfl,
      ?_⟩
    rw [is, if_pos rfl, Metadata.mem_entrySites]
    exact ⟨rfl, value, whole, isValue, item, isItem, rfl⟩

/-- The values are in the order of their sites. -/
theorem ordered_sites (p : Program) (wanted : MetadataKind → Bool) :
    (p.sites wanted).Pairwise fun x y => x.1 < y.1 := by
  refine Site.ordered_numbered fun c _ => Site.ordered_numbered fun m _ =>
    Site.ordered_numbered fun entry _ => ?_
  split
  · exact Metadata.ordered_entrySites entry
  · exact List.Pairwise.nil

theorem map_sites (p : Program) (wanted : MetadataKind → Bool) :
    (p.sites wanted).map (fun x => x.2.2) =
      p.classes.flatMap fun c => c.nodes.flatMap fun m => m.flatMap fun entry =>
        if wanted entry.1 then Value.flattenAll entry.2 else [] := by
  simp only [sites, Site.map_numbered fun x : MetadataKind × Value => x.2, apply_ite (List.map _),
    Metadata.map_entrySites, List.map_nil]

/-- Of several wanted kinds only one is kept. -/
theorem filter_sites {kind : MetadataKind} (is : wanted kind = true) (p : Program) :
    (p.sites wanted).filter (fun x => x.2.1 == kind) = p.sites (· == kind) := by
  have each (entry : MetadataKind × List Value) :
      (if wanted entry.1 then Metadata.entrySites entry else []).filter (fun x => x.2.1 == kind) =
        if entry.1 == kind then Metadata.entrySites entry else [] := by
    rw [apply_ite (List.filter _), Metadata.filter_entrySites, List.filter_nil]
    cases same : entry.1 == kind with
    | true => rw [eq_of_beq same, is, if_pos rfl]
    | false => exact ite_self []
  simp only [sites, Site.filter_numbered fun x : MetadataKind × Value => x.1 == kind, each]

/-- Each node has its values of a kind under one key, as a dictionary has. -/
def IsKeyed (p : Program) : Prop :=
  ∀ c ∈ p.classes, ∀ m ∈ c.nodes, (m.map (·.1)).Nodup

theorem flattenAll_allMetadata (keyed : p.IsKeyed) (kind : MetadataKind) :
    Value.flattenAll (p.allMetadata kind) = (p.sites (· == kind)).map (fun x => x.2.2) := by
  rw [map_sites, allMetadata, Value.flattenAll, List.flatMap_assoc]
  refine List.flatMap_congr fun c isClass => ?_
  rw [List.flatMap_assoc]
  refine List.flatMap_congr fun m isNode => ?_
  exact (Metadata.flatMap_entry (keyed c isClass m isNode) kind).symm

end Program

end HaxeBuild
