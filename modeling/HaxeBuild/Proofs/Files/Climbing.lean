import HaxeBuild.Proofs.Files.Confinement
import HaxeBuild.Proofs.Files.Plain
import HaxeBuild.Proofs.Text.Pieces

namespace HaxeBuild

namespace Path

/-- The names between the slashes of a text. Empty names and single dots are no steps. -/
def steps (t : Text) : List Text :=
  (Text.splitOn (.char '/') t).filter fun name => name != [] && name != "."

theorem parts_ofText (t : Text) : (ofText t).parts = steps t := by
  apply List.filter_congr
  intro name _
  rw [isIdle, Bool.not_or]
  rfl

theorem steps_slash (t : Text) : steps (.char '/' :: t) = steps t := by
  simp [steps, Text.splitOn]

@[simp] theorem steps_dropLeading (t : Text) :
    steps (Text.dropLeading (.char '/') t) = steps t := by
  induction t with
  | nil => rfl
  | cons c rest inductionHypothesis =>
    by_cases slash : c = .char '/'
    · subst slash
      rw [steps_slash, ← inductionHypothesis]
      simp [Text.dropLeading]
    · simp [Text.dropLeading, slash]

/-- What is left out between the steps are slashes and dots. -/
theorem forall_mem_steps {holds : Code → Prop} (atSlash : holds (.char '/'))
    (atDot : holds (.char '.')) {t : Text} :
    (∀ name ∈ steps t, ∀ c ∈ name, holds c) ↔ ∀ c ∈ t, holds c := by
  rw [← Text.forall_mem_splitOn atSlash]
  constructor
  · intro all name among
    by_cases idle : name = [] ∨ name = "."
    · rcases idle with rfl | rfl
      · simp
      · simpa [Text.ofString] using atDot
    · have ⟨present, noDot⟩ := not_or.mp idle
      exact all name (List.mem_filter.mpr ⟨among, by simp [present, noDot]⟩)
  · intro all name among
    exact all name (List.mem_of_mem_filter among)

end Path

namespace FileTree

/-! ### Walks that climb -/

theorem onPaper_concat (l : Location) (steps : List Text) (name : Text) :
    onPaper l (steps ++ [name]) =
      if name == ".." then (onPaper l steps).dropLast else onPaper l steps ++ [name] := by
  rw [onPaper_append]
  rfl

/-- A walk ends at a beginning of the location where it started, and then some of the names of its
steps, in order. -/
theorem exists_onPaper (l : Location) (steps : List Text) :
    ∃ kept added, onPaper l steps = kept ++ added ∧ kept <+: l ∧ added.Sublist steps := by
  -- A step changes the end of the location, so the steps are taken off at their end.
  induction steps using List.reverseRecOn with
  | nil => exact ⟨l, [], by simp [onPaper]⟩
  | append_singleton steps name inductionHypothesis =>
    obtain ⟨kept, added, is, above, among⟩ := inductionHypothesis
    rw [onPaper_concat, is]
    cases name == ".." with
    | false =>
      refine ⟨kept, added ++ [name], ?_, above, among.append_right [name]⟩
      simp
    | true =>
      rw [if_pos rfl]
      -- Going up drops a name that was added, or else one that was kept.
      by_cases none : added = []
      · subst none
        exact ⟨kept.dropLast, [], by simp, (List.dropLast_prefix kept).trans above, by simp⟩
      · refine ⟨kept, added.dropLast, List.dropLast_append_of_ne_nil none, above, ?_⟩
        exact (List.dropLast_sublist added).trans (among.trans (List.sublist_append_left _ _))

/-- A walk from above a directory that ends inside names everything between, in order. -/
theorem sublist_of_prefix_onPaper {outside climbed : Location} {steps : List Text}
    (inside : outside ++ climbed <+: onPaper outside steps) : climbed.Sublist steps := by
  obtain ⟨kept, added, is, ⟨dropped, rfl⟩, among⟩ := exists_onPaper outside steps
  rw [is, List.append_assoc, List.prefix_append_right_inj] at inside
  calc
    climbed.Sublist (dropped ++ climbed) := List.sublist_append_right _ _
    List.Sublist _ added := inside.sublist
    List.Sublist _ steps := among

/-- A directory is no beginning of what is in another one beside it. -/
theorem not_prefix_beside {outside below : Location} {name suffix : Text} (more : suffix ≠ []) :
    ¬ outside ++ [name] <+: outside ++ (name ++ suffix) :: below := by
  rw [List.prefix_append_right_inj, List.cons_prefix_cons]
  intro ⟨same, _⟩
  exact more (List.self_eq_append_right.mp same)

/-! ### The check on paper -/

section

variable {t : FileTree} {root : Path} {relative : Text}

theorem place_under (t : FileTree) (root : Path) (relative : Text) :
    t.place (root.under relative) = onPaper (t.place root) (Path.steps relative) := by
  rw [Path.under_eq, Path.parts_ofText, Path.steps_dropLeading, place, onPaper_append]
  rfl

theorem forall_mem_under (holds : Code → Prop) (atSlash : holds (.char '/'))
    (atDot : holds (.char '.')) :
    (∀ part ∈ (root.under relative).parts, ∀ c ∈ part, holds c) ↔
      (∀ part ∈ root.parts, ∀ c ∈ part, holds c) ∧ ∀ c ∈ relative, holds c := by
  rw [Path.under_eq, Path.parts_ofText, Path.steps_dropLeading, List.forall_mem_append,
    Path.forall_mem_steps atSlash atDot]

theorem encodable_under :
    (∀ part ∈ (root.under relative).parts, IsEncodable part) ↔
      (∀ part ∈ root.parts, IsEncodable part) ∧ IsEncodable relative :=
  forall_mem_under (fun c => c.nameOctets?.isSome = true) rfl rfl

theorem whole_under :
    (∀ part ∈ (root.under relative).parts, .char '\x00' ∉ part) ↔
      (∀ part ∈ root.parts, .char '\x00' ∉ part) ∧ .char '\x00' ∉ relative := by
  simp only [← List.forall_mem_ne']
  exact forall_mem_under (fun c => ¬ c = .char '\x00') (by decide) (by decide)

theorem askable_under_iff :
    askable (root.under relative) = .ok () ↔
      ((∀ part ∈ root.parts, IsEncodable part) ∧ IsEncodable relative) ∧
        (∀ part ∈ root.parts, .char '\x00' ∉ part) ∧ .char '\x00' ∉ relative := by
  simp only [askable_iff, isAskable_iff, imp_and, forall_and, encodable_under, whole_under]

/-- A path that has no octets is not compared with anything. -/
theorem contained_of_unencodable (t : FileTree)
    (wholeRoot : ∀ part ∈ root.parts, .char '\x00' ∉ part) (whole : .char '\x00' ∉ relative)
    (unencodable : ¬ ((∀ part ∈ root.parts, IsEncodable part) ∧ IsEncodable relative)) :
    t.contained root relative = .error (.fault .unencodable) := by
  have refused : t.resolve (root.under relative) = .error .unencodable := by
    rw [resolve, askableInTurn_of_unencodable (whole_under.mpr ⟨wholeRoot, whole⟩)
      (mt encodable_under.mp unencodable)]
    rfl
  rw [Path.under] at refused
  rw [contained, refused]
  rfl

/-- In a tree without links, the check compares two locations on paper. -/
theorem contained_of_askable (noLinks : ∀ l target, t.get? l ≠ some (.link target))
    (asked : askable (root.under relative) = .ok ()) :
    t.resolve root = .ok (t.place root) ∧
      t.contained root relative =
        if t.place root <+: onPaper (t.place root) (Path.steps relative) then
          .ok (root.under relative)
        else .error (.unsafePath relative root.toText) := by
  have begins : root.parts <+: (root.under relative).parts := by
    rw [Path.under_eq]
    exact List.prefix_append _ _
  have resolvedRoot := resolve_eq_place noLinks (askable_of_begins begins asked)
  have resolved := resolve_eq_place noLinks asked
  rw [place_under] at resolved
  exact ⟨resolvedRoot, contained_of_resolve resolved resolvedRoot⟩

end

/-- In a tree without links, a path is accepted exactly if its steps, followed on paper from the
location of the directory, end there or below. So a directory beside it whose name only begins with
its name is refused, and a path that climbs above the directory is accepted only if it names again,
in order, whatever it climbed over. A path that has no octets cannot be checked. -/
theorem contained_on_paper {t : FileTree} (noLinks : ∀ l target, t.get? l ≠ some (.link target))
    (root : Path) (wholeRoot : ∀ part ∈ root.parts, .char '\x00' ∉ part) (relative : Text)
    (whole : .char '\x00' ∉ relative) :
    let inside := t.place root
    let steps := Path.steps relative
    let encodable := (∀ part ∈ root.parts, IsEncodable part) ∧ IsEncodable relative
    let refusal : Outcome Path := .error (.unsafePath relative root.toText)
    (¬ encodable → t.contained root relative = .error (.fault .unencodable)) ∧
      (encodable → t.resolve root = .ok inside ∧
        (t.contained root relative = .ok (root.under relative) ↔ inside <+: onPaper inside steps) ∧
        (t.contained root relative = refusal ↔ ¬ inside <+: onPaper inside steps) ∧
        (∀ outside name suffix below, inside = outside ++ [name] → suffix ≠ [] →
          onPaper inside steps = outside ++ (name ++ suffix) :: below →
            t.contained root relative = refusal) ∧
        ∀ before after outside climbed, steps = before ++ after → inside = outside ++ climbed →
          onPaper inside before = outside →
            t.contained root relative = .ok (root.under relative) → climbed.Sublist after) := by
  intro inside steps encodable refusal
  refine ⟨contained_of_unencodable t wholeRoot whole, fun possible => ?_⟩
  obtain ⟨resolvedRoot, answer⟩ :=
    contained_of_askable noLinks (askable_under_iff.mpr ⟨possible, wholeRoot, whole⟩)
  change t.contained root relative =
    if inside <+: onPaper inside steps then .ok (root.under relative) else refusal at answer
  have accepted : t.contained root relative = .ok (root.under relative) ↔
      inside <+: onPaper inside steps := by
    rw [answer]
    split <;> simp [*, refusal]
  have refused : t.contained root relative = refusal ↔ ¬ inside <+: onPaper inside steps := by
    rw [answer]
    split <;> simp [*, refusal]
  refine ⟨resolvedRoot, accepted, refused, ?_, ?_⟩
  · intro outside name suffix below named more beside
    apply refused.mpr
    rw [beside, named]
    exact not_prefix_beside more
  · intro before after outside climbed cut above up done
    have ends := accepted.mp done
    rw [cut, onPaper_append, up, above] at ends
    exact sublist_of_prefix_onPaper ends

/-- Two directories beside each other; the name of the second one begins with that of the first. -/
def siblings : FileTree where
  entries := [(["srv"], .directory), (["srv", "out"], .directory),
    (["srv", "out", "a.txt"], .file []), (["srv", "out2"], .directory)]
  cwd := ["srv"]

theorem noLinks_siblings : ∀ l target, siblings.get? l ≠ some (.link target) := by
  have plain : siblings.Plain := by
    refine plain_of_entries ?_ ?_ ?_ ?_ ?_ <;> decide +kernel
  exact plain.noLinks

/-- The first path climbs beyond the root of the tree and comes back, the second one ends beside the
directory. -/
theorem contained_on_paper_around :
    let root := Path.ofText "out"
    let around : Text := "/../../../srv/.//out/b/../a.txt/c"
    let beside : Text := "../out2/c"
    (∀ l target, siblings.get? l ≠ some (.link target)) ∧
      (∀ part ∈ root.parts, .char '\x00' ∉ part) ∧ .char '\x00' ∉ around ∧ .char '\x00' ∉ beside ∧
        siblings.contained root around = .ok (root.under around) ∧
        ([("srv" : Text), "out"] : Location).Sublist ["srv", "out", "b", "..", "a.txt", "c"] ∧
        siblings.contained root beside = .error (.unsafePath beside "out") := by
  intro root around beside
  have wholeRoot : ∀ part ∈ root.parts, .char '\x00' ∉ part := by decide +kernel
  have whole : .char '\x00' ∉ around := by decide +kernel
  have wholeBeside : .char '\x00' ∉ beside := by decide +kernel
  have ⟨_, checks⟩ := contained_on_paper noLinks_siblings root wholeRoot around whole
  have ⟨_, checksBeside⟩ := contained_on_paper noLinks_siblings root wholeRoot beside wholeBeside
  obtain ⟨-, accepted, -, -, again⟩ := checks (by decide +kernel)
  obtain ⟨-, -, -, refused, -⟩ := checksBeside (by decide +kernel)
  have done := accepted.mpr (by decide +kernel)
  refine ⟨noLinks_siblings, wholeRoot, whole, wholeBeside, done, ?_, ?_⟩
  · exact again ["..", "..", ".."] _ [] ["srv", "out"] (by decide +kernel) (by decide +kernel)
      (by decide +kernel) done
  · exact refused ["srv"] "out" "2" ["c"] (by decide +kernel) (by decide +kernel)
      (by decide +kernel)

/-- A half that has no octets makes the check fail, though the path ends below the directory. -/
theorem contained_unencodable :
    let root := Path.ofText "out"
    let relative : Text := [.half ⟨0, by decide⟩]
    (∀ l target, siblings.get? l ≠ some (.link target)) ∧ .char '\x00' ∉ relative ∧
      siblings.place root <+: onPaper (siblings.place root) (Path.steps relative) ∧
        siblings.contained root relative = .error (.fault .unencodable) := by
  refine ⟨noLinks_siblings, ?_, ?_, ?_⟩ <;> decide +kernel

end FileTree

end HaxeBuild
