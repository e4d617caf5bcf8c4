import HaxeBuild.Proofs.Effect
import HaxeBuild.Proofs.Files.Persistence

namespace HaxeBuild

open Effect FileTree

namespace FileTree

variable {t : FileTree} {p root : Path} {relative : Text} {l : Location} {e : Entry}

theorem leads_of_probe (probed : t.probe p = .ok (some (l, e))) :
    askable p = .ok () ∧ ∃ n, Leads t n (t.startOf p) p.parts l :=
  have found := locate_of_probe probed
  ⟨(locate_eq_ok.mp found).1, (walks_of_locate found).leads⟩

/-- An entry at the end of a path is at the location that the path is resolved to. -/
theorem resolve_of_probe (probed : t.probe p = .ok (some (l, e))) : t.resolve p = .ok l := by
  have ⟨asked, n, leads⟩ := leads_of_probe probed
  exact leads.resolve_eq asked

theorem resolve_root_of_probe (probed : t.probe (root.under relative) = .ok (some (l, e))) :
    ∃ inside, t.resolve root = .ok inside := by
  have ⟨asked, n, leads⟩ := leads_of_probe probed
  exact leads.resolve_root asked

theorem inside_iff_of_resolve {inside : Location} (resolved : t.resolve root = .ok inside) :
    Inside t root l ↔ inside <+: l := by
  constructor
  · intro ⟨other, same, below⟩
    rw [resolved] at same
    cases same
    exact below
  · intro below
    exact ⟨inside, resolved, below⟩

/-- The check answers for every path that leads to an entry. -/
theorem contained_of_probe (probed : t.probe (root.under relative) = .ok (some (l, e))) :
    Inside t root l ∧ t.contained root relative = .ok (root.under relative) ∨
      ¬ Inside t root l ∧
        t.contained root relative = .error (.unsafePath relative root.toText) := by
  obtain ⟨inside, resolvedRoot⟩ := resolve_root_of_probe probed
  rw [inside_iff_of_resolve resolvedRoot,
    contained_of_resolve (resolve_of_probe probed) resolvedRoot]
  by_cases below : inside <+: l
  · exact .inl ⟨below, if_pos below⟩
  · exact .inr ⟨below, if_neg below⟩

end FileTree

namespace Program

variable {p : Program} {t : FileTree} {directory : Path} {path : Text} {content : Bytes}

/-- What is in memory for a path: first under the path without its leading slashes, then under the
path as it is written. -/
def stored? (p : Program) (path : Text) : Option Bytes :=
  (p.resources.lookup (Text.dropLeading (.char '/') path)).or (p.resources.lookup path)

/-- Where the bytes of a resource come from. -/
inductive Origin (p : Program) (t : FileTree) (directory : Path) (path : Text) (content : Bytes) :
    Prop where
  | memory (stored : p.stored? path = some content)
  | within {l : Location} (unknown : p.stored? path = none)
      (leads : t.resolve (directory.under path) = .ok l)
      (there : t.get? l = some (.file content)) (inside : Inside t directory l)
      (accepted : t.contained directory path = .ok (directory.under path))
  | outside {l : Location} (unknown : p.stored? path = none)
      (leads : t.resolve (directory.under path) = .ok l)
      (there : t.get? l = some (.file content)) (outside : ¬ Inside t directory l)
      (refused : t.contained directory path = .error (.unsafePath path directory.toText))

/-- Reading the path answers with the bytes of a file outside the resource directory. -/
def Discloses (p : Program) (t : FileTree) (path : Text) : Prop :=
  ∃ directory l content, p.resourcesDir = some directory ∧ p.stored? path = none ∧
    p.resource t path = .ok content ∧ t.resolve (directory.under path) = .ok l ∧
      t.get? l = some (.file content) ∧ ¬ Inside t directory l

theorem resource_eq_ok_iff (searched : p.resourcesDir = some directory) :
    p.resource t path = .ok content ↔ p.stored? path = some content ∨
      p.stored? path = none ∧ ∃ l, t.probe (directory.under path) = .ok (some (l, .file content)) := by
  rw [resource_eq_ok]
  simp [stored?, searched, Path.under]

theorem origin_of_resource (searched : p.resourcesDir = some directory)
    (read : p.resource t path = .ok content) : p.Origin t directory path content := by
  rcases (resource_eq_ok_iff searched).mp read with stored | ⟨unknown, l, probed⟩
  · exact .memory stored
  · have leads := resolve_of_probe probed
    have there := file_of_probe probed
    rcases contained_of_probe probed with ⟨inside, accepted⟩ | ⟨outside, refused⟩
    · exact .within unknown leads there inside accepted
    · exact .outside unknown leads there outside refused

theorem discloses_iff (searched : p.resourcesDir = some directory) :
    p.Discloses t path ↔ p.stored? path = none ∧ t.isFile (directory.under path) = true ∧
      t.contained directory path = .error (.unsafePath path directory.toText) := by
  constructor
  · intro ⟨directory', l, content, searched', unknown, read, leads, there, outside⟩
    rw [searched] at searched'
    cases searched'
    rcases (resource_eq_ok_iff searched).mp read with stored | ⟨-, l', probed⟩
    · rw [unknown] at stored
      cases stored
    · have same := resolve_of_probe probed
      rw [leads] at same
      cases same
      rcases contained_of_probe probed with ⟨inside, -⟩ | ⟨-, refused⟩
      · exact absurd inside outside
      · have file : t.isFile (directory.under path) = true := by
          rw [isFile, content?_eq_some.mpr ⟨l, probed⟩]
          rfl
        exact ⟨unknown, file, refused⟩
  · intro ⟨unknown, file, refused⟩
    obtain ⟨content, found⟩ := Option.isSome_iff_exists.mp file
    obtain ⟨l, probed⟩ := content?_eq_some.mp found
    have read := (resource_eq_ok_iff searched).mpr (.inr ⟨unknown, l, probed⟩)
    rcases contained_of_probe probed with ⟨-, accepted⟩ | ⟨outside, -⟩
    · rw [refused] at accepted
      cases accepted
    · exact ⟨directory, l, content, searched, unknown, read, resolve_of_probe probed,
        file_of_probe probed, outside⟩

/-- The bytes of a resource come from memory or from the file that its path is resolved to. This file
is outside the resource directory exactly if the containment check would refuse the path there. -/
theorem resource_origin (searched : p.resourcesDir = some directory) (t : FileTree) (path : Text) :
    (∀ content, p.resource t path = .ok content → p.Origin t directory path content) ∧
      (p.Discloses t path ↔ p.stored? path = none ∧ t.isFile (directory.under path) = true ∧
        t.contained directory path = .error (.unsafePath path directory.toText)) :=
  ⟨fun _ => origin_of_resource searched, discloses_iff searched⟩

/-- A program whose asset is named by a path out of the resource directory. -/
def prying : Program where
  classes := [⟨"app.Main", [], [], [(.addAssets, [.text "../etc/passwd"])]⟩]
  resources := []
  resourcesDir := some (Path.ofText "/res")

/-- A tree with a file in the resource directory and one elsewhere. -/
def shared : FileTree where
  entries := [([("res" : Text)], .directory), ([("res" : Text), "icon.png"], .file [137]),
    ([("etc" : Text)], .directory), ([("etc" : Text), "passwd"], .file [42])]
  cwd := []

theorem resource_origin_icon :
    prying.resourcesDir = some (Path.ofText "/res") ∧
      prying.Origin shared (Path.ofText "/res") "icon.png" [137] ∧
        ¬ prying.Discloses shared "icon.png" := by
  have searched : prying.resourcesDir = some (Path.ofText "/res") := rfl
  have ⟨origin, discloses⟩ := resource_origin searched shared "icon.png"
  refine ⟨searched, origin [137] (by decide +kernel), ?_⟩
  rw [discloses]
  decide +kernel

/-- A path that the staging directory accepts discloses a file, which is then staged. -/
theorem stageEmbedded_discloses :
    shared.contained (Path.ofText "/out/etc") "../etc/passwd" =
        .ok (Path.ofText "/out/etc/../etc/passwd") ∧
      prying.Discloses shared "../etc/passwd" ∧
        (perform (AssetStager.stageEmbedded prying)
          (.new (some (Path.ofText "/out/etc")), .ofFiles shared)).2.2.files.get?
            [("out" : Text), "etc", "passwd"] = some (.file [42]) := by
  refine ⟨by decide +kernel, ?_, by decide +kernel⟩
  apply (discloses_iff (by rfl)).mpr
  decide +kernel

end Program

end HaxeBuild
