import HaxeBuild.Proofs.Build.Compilation
import HaxeBuild.Proofs.Files.Confinement

namespace HaxeBuild

open Effect HaxeBuild.Action FileTree

/-- What the file tree has to allow so that a value can be written below a directory. -/
def Places {γ : Type} (write : Path → γ → Disk Unit) (kept : FileTree → Prop) (directory : Path)
    (v : Value) : Prop :=
  ∀ path t destination, AssetStager.pathText v = .ok path → kept t →
    t.contained directory path = .ok destination →
      Keeps kept (fun _ => True) (Disk.ensureDirectory destination.parent) ∧
        ∀ content, Keeps kept (fun _ => True) (write destination content)

section Places

variable {γ : Type} {write : Path → γ → Disk Unit} {t : FileTree} {directory : Path}
  {declared : List Value} {v : Value} {l : Location}

theorem places_confined (among : v ∈ declared)
    (writes : ∀ destination content, Accepts t directory declared destination →
      Keeps (Confined t directory declared) (fun _ => True) (write destination content)) :
    Places write (Confined t directory declared) directory v := by
  intro path t' destination is confined contained
  have accepted := confined.accepted among is contained
  exact ⟨keeps_ensureDirectory accepted, fun content => writes destination content accepted⟩

theorem places_present
    (writes : ∀ p content, Keeps (Present l) (fun _ => True) (write p content)) :
    Places write (Present l) directory v :=
  fun _ _ destination _ _ _ => ⟨keeps_present_ensureDirectory, writes destination⟩

end Places

section Accepted

variable {γ σ α : Type} {good : σ → Prop} {write : Path → γ → Disk Unit}
  {kept finish : FileTree → Prop} {t : FileTree} {directory destination : Path}
  {declared : List Value} {v : Value} {path : Text} {next : Text → Path → Action σ α}

/-- Once the destination of a value is accepted, directories can be made on the way to it, and it can
be written. -/
theorem keepsFiles_accepted (places : Places write kept directory v)
    (rest : ∀ path destination,
      Keeps kept (fun _ => True) (Disk.ensureDirectory destination.parent) →
        (∀ content, Keeps kept (fun _ => True) (write destination content)) →
          Keeps (OnFiles good kept) (fun _ => True) (next path destination)) :
    Keeps (OnFiles good kept) (fun _ => True) (do
      let path ← ofOutcome (AssetStager.pathText v)
      let destination ← ofOutcome ((← files).contained directory path)
      next path destination) := by
  refine (keepsFiles_ofOutcome fun path is => is).bind fun path is => ?_
  refine keepsFiles_files.bind fun t known => ?_
  refine (keepsFiles_ofOutcome fun destination => places path t destination is known).bind ?_
  intro destination ⟨makes, writes⟩
  exact rest path destination makes writes

/-- The destination of a value is the same later. -/
theorem ensuresFiles_accepted (is : AssetStager.pathText v = .ok path)
    (contained : t.contained directory path = .ok destination)
    (rest : Ensures (OnFiles good (Confined t directory declared)) (OnFiles good finish)
      (next path destination)) :
    Ensures (OnFiles good (Confined t directory declared)) (OnFiles good finish) (do
      let path ← ofOutcome (AssetStager.pathText v)
      let destination ← ofOutcome ((← files).contained directory path)
      next path destination) := by
  rw [is]
  refine (keepsFiles_ofOutcome fun _ same => same).ensures fun path' same => ?_
  cases same
  refine keepsFiles_files.ensures fun t' confined => ?_
  refine (keepsFiles_ofOutcome fun _ done => done).ensures fun destination' done => ?_
  have same := (contained_eq_ok.mp done).1.trans (contained_eq_ok.mp contained).1.symm
  subst same
  exact rest

end Accepted

namespace AssetStager

variable {kept : FileTree → Prop} {t : FileTree} {directory : Path} {declared : List Value}
  {v : Value} {l : Location}

theorem keepsFiles_claim (destination : Path) (source : Text) :
    Keeps (OnFiles Any kept) (fun _ => True) (claim destination source) := by
  intro ⟨a, w⟩ known
  obtain ⟨log, claimed⟩ := perform_claim destination source a w
  rw [claimed]
  exact ⟨known, fun _ _ => trivial⟩

theorem keeps_stageResource (p : Program) (places : Places Disk.writeFile kept directory v) :
    Keeps (OnFiles Any kept) (fun _ => True) (stageResource p directory v) := by
  refine (keepsFiles_log _ _).bind fun _ _ => ?_
  refine keepsFiles_accepted places fun path destination makes writes => ?_
  refine (keepsFiles_claim _ _).bind fun _ _ => ?_
  refine (keepsFiles_onDisk makes).bind fun _ _ => ?_
  refine keepsFiles_files.bind fun t' _ => ?_
  refine (keepsFiles_ofOutcome fun _ _ => trivial).bind fun content _ => ?_
  exact (keepsFiles_onDisk (writes content)).bind fun _ _ => keeps_pure trivial

theorem keeps_stageResources (p : Program) {vs : List Value}
    (places : ∀ v ∈ vs, Places Disk.writeFile kept directory v) :
    Keeps (OnFiles Any kept) (fun _ => True) (stageResources p directory vs) := by
  induction vs with
  | nil => exact keeps_pure trivial
  | cons v vs inductionHypothesis =>
    have ⟨first, rest⟩ := List.forall_mem_cons.mp places
    refine (keeps_stageResource p first).bind fun _ _ => ?_
    exact (inductionHypothesis rest).bind fun _ _ => keeps_pure trivial

theorem places_staged (among : v ∈ declared) :
    Places Disk.writeFile (Confined t directory declared) directory v :=
  places_confined among fun _ content accepted => keeps_writeFile accepted content

/-- A value that is staged has all directories that it needs. -/
theorem ensures_stageResource (p : Program) {path : Text} {destination : Path}
    (among : v ∈ declared) (is : pathText v = .ok path)
    (contained : t.contained directory path = .ok destination) (needs : Needs t destination l) :
    Ensures (OnFiles Any (Confined t directory declared)) (OnFiles Any (Present l))
      (stageResource p directory v) := by
  have accepted : Accepts t directory declared destination := ⟨v, among, path, is, contained⟩
  refine (keepsFiles_log _ _).ensures fun _ _ => ?_
  refine ensuresFiles_accepted is contained ?_
  refine (keepsFiles_claim _ _).ensures fun _ _ => ?_
  refine (ensuresFiles_onDisk (ensures_ensureDirectory accepted needs)).bind fun _ => ?_
  refine keepsFiles_files.bind fun t'' _ => ?_
  refine (keepsFiles_ofOutcome fun _ _ => trivial).bind fun content _ => ?_
  exact (keepsFiles_onDisk (keeps_present_writeFile content)).bind fun _ _ => keeps_pure trivial

theorem ensures_stageResources (p : Program) {vs : List Value} (all : ∀ v ∈ vs, v ∈ declared)
    {path : Text} {destination : Path} (among : v ∈ vs) (is : pathText v = .ok path)
    (contained : t.contained directory path = .ok destination) (needs : Needs t destination l) :
    Ensures (OnFiles Any (Confined t directory declared)) (OnFiles Any (Present l))
      (stageResources p directory vs) := by
  induction vs with
  | nil => cases among
  | cons first vs inductionHypothesis =>
    have ⟨here, rest⟩ := List.forall_mem_cons.mp all
    rcases List.mem_cons.mp among with rfl | later
    · refine (ensures_stageResource p here is contained needs).bind fun _ => ?_
      have places (v : Value) : Places Disk.writeFile (Present l) directory v :=
        places_present fun _ => keeps_present_writeFile
      exact (keeps_stageResources p fun v _ => places v).bind fun _ _ => keeps_pure trivial
    · refine (keeps_stageResource p (places_staged here)).ensures fun _ _ => ?_
      exact (inductionHypothesis rest later).bind fun _ => keeps_pure trivial

end AssetStager

namespace Session

open AssetStager

variable {kept : FileTree → Prop} {t : FileTree} {declared : List Value} {v : Value}
  {l : Location}

theorem keepsFiles_renderLogged (s : Session) (template : Text) :
    Keeps (OnFiles (· = s) kept) (fun _ => True) (renderLogged template) := by
  intro ⟨s', w⟩ known
  rw [perform_renderLogged]
  exact ⟨known, fun _ _ => trivial⟩

theorem keeps_renderFile (s : Session) (places : Places Disk.writeText kept s.plan.srcFolder v) :
    Keeps (OnFiles (· = s) kept) (fun _ => True) (renderFile v) := by
  refine keepsFiles_state.bind fun s' same => ?_
  subst same
  refine (keepsFiles_log _ _).bind fun _ _ => ?_
  refine keepsFiles_accepted places fun path destination makes writes => ?_
  refine (keepsFiles_onDisk makes).bind fun _ _ => ?_
  refine keepsFiles_files.bind fun t' _ => ?_
  refine (keepsFiles_ofOutcome fun _ _ => trivial).bind fun template _ => ?_
  refine (keepsFiles_renderLogged s' template).bind fun rendered _ => ?_
  exact keepsFiles_onDisk (writes rendered)

theorem keeps_renderFiles (s : Session) {vs : List Value}
    (places : ∀ v ∈ vs, Places Disk.writeText kept s.plan.srcFolder v) :
    Keeps (OnFiles (· = s) kept) (fun _ => True) (renderFiles vs) := by
  induction vs with
  | nil => exact keeps_pure trivial
  | cons v vs inductionHypothesis =>
    have ⟨first, rest⟩ := List.forall_mem_cons.mp places
    exact (keeps_renderFile s first).bind fun _ _ => inductionHypothesis rest

theorem places_rendered {directory : Path} (among : v ∈ declared) :
    Places Disk.writeText (Confined t directory declared) directory v :=
  places_confined among fun _ text accepted => keeps_writeText accepted text

/-- A value that is rendered has all directories that it needs. -/
theorem ensures_renderFile (s : Session) {path : Text} {destination : Path}
    (among : v ∈ declared) (is : pathText v = .ok path)
    (contained : t.contained s.plan.srcFolder path = .ok destination)
    (needs : Needs t destination l) :
    Ensures (OnFiles (· = s) (Confined t s.plan.srcFolder declared)) (OnFiles (· = s) (Present l))
      (renderFile v) := by
  have accepted : Accepts t s.plan.srcFolder declared destination :=
    ⟨v, among, path, is, contained⟩
  refine keepsFiles_state.ensures fun s' same => ?_
  subst same
  refine (keepsFiles_log _ _).ensures fun _ _ => ?_
  refine ensuresFiles_accepted is contained ?_
  refine (ensuresFiles_onDisk (ensures_ensureDirectory accepted needs)).bind fun _ => ?_
  refine keepsFiles_files.bind fun t'' _ => ?_
  refine (keepsFiles_ofOutcome fun _ _ => trivial).bind fun template _ => ?_
  refine (keepsFiles_renderLogged s' template).bind fun rendered _ => ?_
  exact keepsFiles_onDisk (keeps_present_writeText rendered)

theorem ensures_renderFiles (s : Session) {vs : List Value} (all : ∀ v ∈ vs, v ∈ declared)
    {path : Text} {destination : Path} (among : v ∈ vs) (is : pathText v = .ok path)
    (contained : t.contained s.plan.srcFolder path = .ok destination)
    (needs : Needs t destination l) :
    Ensures (OnFiles (· = s) (Confined t s.plan.srcFolder declared)) (OnFiles (· = s) (Present l))
      (renderFiles vs) := by
  induction vs with
  | nil => cases among
  | cons first vs inductionHypothesis =>
    have ⟨here, rest⟩ := List.forall_mem_cons.mp all
    rcases List.mem_cons.mp among with rfl | later
    · refine (ensures_renderFile s here is contained needs).bind fun _ => ?_
      exact keeps_renderFiles s fun _ _ => places_present fun _ => keeps_present_writeText
    · refine (keeps_renderFile s (places_rendered here)).ensures fun _ _ => ?_
      exact inductionHypothesis rest later

end Session

/-- What was written for declared paths below a directory. Outside of it there can be new directories
that accepted paths need, and nothing leaves the directory unless one of these was made. If everything
was written, all of them were. -/
structure Containment (t : FileTree) (root : Path) (declared : List Value) (succeeded : Prop)
    (t' : FileTree) : Prop where
  outside : ∀ l, ¬ Inside t root l → t'.get? l = t.get? l ∨
    t.get? l = none ∧ t'.get? l = some .directory ∧
      ∃ destination, Accepts t root declared destination ∧ Needs t destination l
  stays : StaysInside t t' root ↔ ∀ l, Detour t root declared l → t'.get? l = none
  exact : succeeded → (StaysInside t t' root ↔ ¬ ∃ l, Detour t root declared l)

theorem FileTree.Confined.containment {t t' : FileTree} {root : Path} {declared : List Value}
    {succeeded : Prop} (confined : Confined t root declared t')
    (complete : succeeded → ∀ destination l, Accepts t root declared destination →
      Needs t destination l → Present l t') : Containment t root declared succeeded t' := by
  have stays : StaysInside t t' root ↔ ∀ l, Detour t root declared l → t'.get? l = none := by
    constructor
    · rintro stays l ⟨⟨destination, accepted, needs⟩, outside, notAbove⟩
      rcases stays l outside with same | ⟨above, -⟩
      · exact same.trans needs.missing
      · exact absurd above notAbove
    · intro unmade l outside
      cases confined.changes l with
      | same same => exact .inl same
      | made accepted needed made =>
        by_cases above : Above t root l
        · exact .inr ⟨above, needed.missing, made⟩
        · have missing := unmade l ⟨⟨_, accepted, needed⟩, outside, above⟩
          rw [made] at missing
          cases missing
      | written is => exact absurd is outside
  refine ⟨?_, stays, ?_⟩
  · intro l outside
    cases confined.changes l with
    | same same => exact .inl same
    | made accepted needed made => exact .inr ⟨needed.missing, made, _, accepted, needed⟩
    | written is => exact absurd is outside
  · intro done
    rw [stays]
    constructor
    · rintro unmade ⟨l, detour⟩
      have ⟨⟨destination, accepted, needs⟩, _⟩ := detour
      exact complete done destination l accepted needs (unmade l detour)
    · intro direct l detour
      exact absurd ⟨l, detour⟩ direct

theorem AssetStager.containment_stageEmbedded (p : Program) {a : AssetStager} {directory : Path}
    (configured : a.staging = some directory) (w : World) :
    Containment w.files directory (Value.flattenAll (p.metadata .addAssets))
      (∃ paths, (perform (stageEmbedded p) (a, w)).1 = .ok paths)
      (perform (stageEmbedded p) (a, w)).2.2.files := by
  rw [stageEmbedded, perform_bind_ok (perform_state a w)]
  simp only [configured]
  rw [perform_bind_ok (perform_log ..)]
  have keeps : Keeps
      (OnFiles Any (Confined w.files directory (Value.flattenAll (p.metadata .addAssets))))
      (fun _ => True) (stageResources p directory (Value.flattenAll (p.metadata .addAssets))) :=
    keeps_stageResources p fun v among => places_staged among
  have start := confined_refl w.files directory (Value.flattenAll (p.metadata .addAssets))
  generalize same : { w with log := _ } = logged
  rw [show w.files = logged.files by rw [← same]] at start keeps ⊢
  refine (keeps (a, logged) ⟨trivial, start⟩).1.2.containment ?_
  rintro ⟨paths, done⟩ destination l ⟨v, among, path, is, contained⟩ needs
  have ensures := ensures_stageResources p (fun _ => id) among is contained needs
  exact (ensures (a, logged) ⟨trivial, start⟩ paths done).2

theorem Session.containment_renderFiles (s : Session) (w : World) :
    Containment w.files s.plan.srcFolder (prebuildFiles s.plan)
      ((perform (renderFiles (prebuildFiles s.plan)) (s, w)).1 = .ok ())
      (perform (renderFiles (prebuildFiles s.plan)) (s, w)).2.2.files := by
  have keeps : Keeps
      (OnFiles (· = s) (Confined w.files s.plan.srcFolder (prebuildFiles s.plan)))
      (fun _ => True) (renderFiles (prebuildFiles s.plan)) :=
    keeps_renderFiles s fun v among => places_rendered among
  have start := confined_refl w.files s.plan.srcFolder (prebuildFiles s.plan)
  refine (keeps (s, w) ⟨rfl, start⟩).1.2.containment ?_
  rintro done destination l ⟨v, among, path, is, contained⟩ needs
  have ensures := ensures_renderFiles s (fun _ => id) among is contained needs
  exact (ensures (s, w) ⟨rfl, start⟩ () done).2

/-- Staging the declared resources and rendering the declared files write inside their directories,
unless a directory is made elsewhere that an accepted path passes. -/
theorem declared_contained (p : Program) (a : AssetStager) (s : Session) (w : World) :
    (match a.staging with
      | none => (perform (AssetStager.stageEmbedded p) (a, w)).2.2.files = w.files
      | some directory =>
        Containment w.files directory (Value.flattenAll (p.metadata .addAssets))
          (∃ paths, (perform (AssetStager.stageEmbedded p) (a, w)).1 = .ok paths)
          (perform (AssetStager.stageEmbedded p) (a, w)).2.2.files) ∧
      Containment w.files s.plan.srcFolder (Session.prebuildFiles s.plan)
        ((perform (Session.renderFiles (Session.prebuildFiles s.plan)) (s, w)).1 = .ok ())
        (perform (Session.renderFiles (Session.prebuildFiles s.plan)) (s, w)).2.2.files := by
  refine ⟨?_, s.containment_renderFiles w⟩
  split
  · rename_i idle
    rw [AssetStager.stageEmbedded, perform_bind_ok (perform_state a w)]
    simp only [idle, perform_pure]
  · rename_i directory configured
    exact AssetStager.containment_stageEmbedded p configured w

namespace AssetStager

/-- A program with a resource whose path leaves its directory and comes back. -/
def roundabout : Program where
  classes := [⟨"app.Main", [], [], [(.addAssets, [.text "../aside/../assets/icon.png"])]⟩]
  resources := [("../aside/../assets/icon.png", [])]
  resourcesDir := none

/-- The program is staged where there is nothing yet. -/
def staged : Outcome (List Path) × AssetStager × World :=
  perform (stageEmbedded roundabout) (.new (some (Path.ofText "/assets")), .ofFiles ⟨[], []⟩)

/-- The path is accepted, but a directory is made outside. -/
theorem stageEmbedded_leaves :
    staged.1.toBool = true ∧ ¬ StaysInside ⟨[], []⟩ staged.2.2.files (Path.ofText "/assets") := by
  refine ⟨by decide +kernel, fun stays => ?_⟩
  have resolved {inside : Location}
      (is : resolve ⟨[], []⟩ (Path.ofText "/assets") = .ok inside) :
      inside = [("assets" : Text)] := by
    have there : (resolve ⟨[], []⟩ (Path.ofText "/assets")).toOption =
        some [("assets" : Text)] := by
      decide +kernel
    rw [is] at there
    cases there
    rfl
  have outside : ¬ Inside ⟨[], []⟩ (Path.ofText "/assets") ["aside"] := by
    rintro ⟨inside, is, below⟩
    cases resolved is
    revert below
    decide +kernel
  rcases stays ["aside"] outside with same | ⟨⟨inside, is, above⟩, -⟩
  · revert same
    decide +kernel
  · cases resolved is
    revert above
    decide +kernel

end AssetStager

end HaxeBuild
