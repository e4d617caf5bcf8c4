import HaxeBuild.Proofs.Build.Staging
import HaxeBuild.Proofs.Build.Writes

namespace HaxeBuild

open Effect HaxeBuild.Action

namespace AssetStager

open FileTree (Later)

/-- The latest of the writes to a location. -/
def latestWrite? (before : List Write) (l : Location) : Option Write :=
  before.reverse.find? (·.location == l)

/-- What should be logged at a write: a warning if another source wrote last to the same file. -/
def due? (before : List Write) (x : Write) : Option Text := do
  let previous ← latestWrite? before x.location
  if previous.source = x.source then none else some (x.toClaim.overwriting previous.source)

/-! ### A destination is one file -/

/-- What was written is where its destination leads to. -/
def Landed (t : FileTree) (writes : List Write) : Prop :=
  ∀ x ∈ writes, ∃ content,
    t.probe (copyPath t x.destination) = .ok (some (x.location, .file content))

section Landed

variable {t u : FileTree} {writes : List Write} {d : Path} {l : Location} {content : Bytes}

theorem copyPath_of_isDirectory_eq (same : u.isDirectory d = t.isDirectory d) :
    copyPath u d = copyPath t d := by
  rw [copyPath, copyPath, same]

theorem copyPath_later (later : Later t u)
    (probed : t.probe (copyPath t d) = .ok (some (l, .file content))) :
    copyPath u d = copyPath t d := by
  refine copyPath_of_isDirectory_eq ?_
  cases directory : t.isDirectory d with
  | true => exact later.isDirectory directory
  | false =>
    rw [copyPath, directory, if_neg Bool.false_ne_true] at probed
    obtain ⟨now, -, probed⟩ := later.probe_file probed
    rw [FileTree.isDirectory, FileTree.entry?, probed]

theorem Landed.later (landed : Landed t writes) (later : Later t u) : Landed u writes := by
  intro x among
  obtain ⟨content, probed⟩ := landed x among
  rw [copyPath_later later probed]
  obtain ⟨now, -, probed⟩ := later.probe_file probed
  exact ⟨now, probed⟩

/-- A file is found where it was written. -/
theorem probe_of_opens (opens : t.Opens (copyPath t d) l) (content : Bytes) :
    (t.set l (.file content)).probe (copyPath (t.set l (.file content)) d) =
      .ok (some (l, .file content)) := by
  have there : (t.set l (.file content)).get? l = some (.file content) := by
    rw [FileTree.get?_set t l l _ opens.named, if_pos rfl]
  have later := Later.write opens content
  rw [copyPath_of_isDirectory_eq (later.isDirectory_eq opens there), FileTree.probe,
    later.opens opens there]

theorem steady_landed : Steady Landed where
  later := fun later landed => landed.later later
  write := fun content opens landed => by
    refine List.forall_mem_append.mpr ⟨landed.later (.write opens content), ?_⟩
    exact List.forall_mem_singleton.mpr ⟨content, probe_of_opens opens content⟩

theorem Landed.location_eq (landed : Landed t writes) {x y : Write} (first : x ∈ writes)
    (second : y ∈ writes) (same : x.destination = y.destination) : x.location = y.location := by
  obtain ⟨_, found⟩ := landed x first
  obtain ⟨_, found'⟩ := landed y second
  rw [same, found'] at found
  have is := Option.some.inj (Except.ok.inj found)
  exact (congrArg Prod.fst is).symm

end Landed

/-! ### Warnings at writes -/

/-- The latest write to a file is the latest claim to its destination, if this is spelled alike. -/
theorem latest?_of_latestWrite? {before : List Write} {x previous : Write}
    (one : ∀ y ∈ before, y.destination = x.destination → y.location = x.location)
    (last : latestWrite? before x.location = some previous)
    (alike : previous.destination = x.destination) :
    latest? (before.map (·.toClaim)) x.destination = some previous.toClaim := by
  rw [latest?, ← List.map_reverse, List.find?_map, Option.map_eq_some_iff]
  refine ⟨previous, ?_, rfl⟩
  rw [latestWrite?, List.find?_eq_some_iff_append] at last
  obtain ⟨-, later, earlier, split, others⟩ := last
  rw [List.find?_eq_some_iff_append]
  refine ⟨beq_iff_eq.mpr alike, later, earlier, split, fun y among => ?_⟩
  have elsewhere := others y among
  simp only [Function.comp, Bool.not_eq_true', beq_eq_false_iff_ne] at elsewhere ⊢
  refine fun same => elsewhere (one y ?_ same)
  rw [← List.mem_reverse, split]
  exact List.mem_append_left _ among

/-- A write has the warning that is due, unless the latest write to the same file had another
destination, or its source was another one that is spelled alike. -/
theorem warning?_eq_due? {before : List Write} {x : Write}
    (one : ∀ y ∈ before, y.destination = x.destination → y.location = x.location) :
    warning? (before.map (·.toClaim)) x.toClaim = due? before x ∨
      ∃ previous, latestWrite? before x.location = some previous ∧
        (previous.destination ≠ x.destination ∨
          previous.source ≠ x.source ∧ previous.source.text = x.source.text) := by
  cases last : latestWrite? before x.location with
  | none =>
    have unclaimed : latest? (before.map (·.toClaim)) x.destination = none := by
      rw [latestWrite?, List.find?_eq_none] at last
      rw [latest?, List.find?_eq_none]
      intro c among same
      obtain ⟨y, earlier, rfl⟩ := List.mem_map.mp (List.mem_reverse.mp among)
      exact last y (List.mem_reverse.mpr earlier) (beq_iff_eq.mpr (one y earlier (eq_of_beq same)))
    left
    rw [warning?, unclaimed, due?, last]
    rfl
  | some previous =>
    by_cases alike : previous.destination = x.destination
    · by_cases other : previous.source ≠ x.source ∧ previous.source.text = x.source.text
      · exact .inr ⟨previous, rfl, .inr other⟩
      · left
        have texts : previous.source.text = x.source.text ↔ previous.source = x.source :=
          ⟨fun same => by_contra fun differ => other ⟨differ, same⟩, congrArg _⟩
        rw [warning?, latest?_of_latestWrite? one last alike, due?, last]
        simp only [Option.bind_eq_bind, Option.bind_some, texts]
    · exact .inr ⟨previous, rfl, .inl alike⟩

/-- A staging reports what it writes. It logs a warning at a write exactly if another source wrote
last to the same file, unless that write had another destination or its source is spelled alike. -/
theorem warnings_of_stage {p : Program} {s : Settings} {a a' : AssetStager} {w w' : World}
    {directory : Path} {o : Outcome (List Path)} (configured : a.staging = some directory)
    (performed : perform (stage p s) (a, w) = (o, (a', w'))) :
    ∃ writes finish, Stages p s directory w.files writes finish w'.files ∧
      Answers id writes finish o ∧
      w'.log.warnings = w.log.warnings ++ warnings [] (claimed writes finish) ∧
      ∀ before x after, writes = before ++ x :: after →
        warning? (before.map (·.toClaim)) x.toClaim = due? before x ∨
          ∃ previous, latestWrite? before x.location = some previous ∧
            (previous.destination ≠ x.destination ∨
              previous.source ≠ x.source ∧ previous.source.text = x.source.text) := by
  obtain ⟨writes, finish, answers, left⟩ := reports_stage (p := p) (s := s) configured w
  rw [performed] at answers left
  refine ⟨writes, finish, left.goes, answers, left.warned, ?_⟩
  rintro before x after rfl
  have landed := steady_landed.stages left.goes [] (List.forall_mem_nil _)
  refine warning?_eq_due? fun y among same => landed.location_eq ?_ ?_ same
  · exact List.mem_append_right _ (List.mem_append_left _ among)
  · exact List.mem_append_right _ (List.mem_append_right _ List.mem_cons_self)

/-- Both resources are overwritten by files of the trees, and each time there is a warning. -/
theorem warnings_of_stage_trees :
    ∃ writes finish,
      Stages Small.program (Small.settings Small.assets) Small.directory Small.icons writes finish
        Small.after ∧
      warnings [] (claimed writes finish) = [
        "Asset /assets/a.png from /icons/a.png overwrites resource:a.png",
        "Asset /assets/b.png from b.png overwrites resource:/./b.png"] := by
  have logged : (Small.staged Small.assets Small.icons).2.2.log.warnings = [
      "Asset /assets/a.png from /icons/a.png overwrites resource:a.png",
      "Asset /assets/b.png from b.png overwrites resource:/./b.png"] := by
    decide +kernel
  have configured : (AssetStager.new (some Small.directory)).staging = some Small.directory := rfl
  rw [Small.after]
  rcases performed : Small.staged Small.assets Small.icons with ⟨o, a, w⟩
  rw [performed] at logged
  obtain ⟨writes, finish, stages, -, warned, -⟩ := warnings_of_stage configured performed
  exact ⟨writes, finish, stages, warned.symm.trans logged⟩

namespace Small

/-- Two resources with paths that lead to the same file. -/
def roundabout : Program where
  classes := [⟨"app.Main", [], [], [(.addAssets, [.text "x/../a.png", .text "a.png"])]⟩]
  resources := [("x/../a.png", [1]), ("a.png", [2])]
  resourcesDir := none

end Small

/-- The second resource overwrites the first one without a warning. -/
theorem stage_overwrites_silently :
    let result := perform (stage Small.roundabout (Small.settings []))
      (.new (some Small.directory), .ofFiles ⟨[], []⟩)
    result.1.toOption = some [Path.ofText "/assets/x/../a.png", Path.ofText "/assets/a.png"] ∧
      (result.2.2.files.resolve (Path.ofText "/assets/x/../a.png")).toOption =
        some (["assets", "a.png"] : Location) ∧
      result.2.2.files.bytesAt ["assets", "a.png"] = some [2] ∧
      result.2.2.log.warnings = [] := by
  decide +kernel

end AssetStager

end HaxeBuild
