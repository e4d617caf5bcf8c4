import HaxeBuild.Proofs.Files.Confinement
import HaxeBuild.Proofs.Files.Listing

namespace HaxeBuild

open Effect

/-- A spot as it is found later: a free name may be taken, and a file may have another content. -/
def Spot.now (u : FileTree) : Spot → Spot
  | .entry l .directory => .entry l .directory
  | .entry l (.link target) => .entry l (.link target)
  | .entry l (.file _) | .free l =>
    match u.get? l with
    | some e => .entry l e
    | none => .free l

namespace FileTree

/-- On the way to what is below it, a directory is resolved itself. -/
theorem Leads.resolve_root {t : FileTree} {root : Path} {relative : Text} {n : Nat} {l : Location}
    (leads : Leads t n (t.startOf (root.under relative)) (root.under relative).parts l)
    (asked : askable (root.under relative) = .ok ()) : ∃ inside, t.resolve root = .ok inside := by
  rw [Path.under_eq] at leads asked
  obtain ⟨k, -, inside, -, first, -⟩ := leads.split
  exact ⟨inside, first.resolve_eq (askable_of_begins (List.prefix_append _ _) asked)⟩

/-- What stands at a location other than the root is listed. -/
theorem mem_listed {t : FileTree} {l : Location} {e : Entry} (named : l ≠ [])
    (there : t.get? l = some e) : l ∈ t.entries.map (·.1) := by
  rw [get?, List.isEmpty_eq_false_iff.mpr named, if_neg Bool.false_ne_true] at there
  obtain ⟨before, after, split, -⟩ := List.lookup_eq_some_iff.mp there
  exact List.mem_map.mpr ⟨(l, e), by rw [split]; simp, rfl⟩

/-- Everything is still there, under the names that it had. -/
structure Later (t u : FileTree) : Prop extends Extends t u where
  files : ∀ l content, t.get? l = some (.file content) → ∃ now, u.get? l = some (.file now)
  listed : (t.entries.map (·.1)).Sublist (u.entries.map (·.1))

namespace Later

variable {t u v : FileTree} {p : Path} {l : Location}

/-- Every tree is a later state of itself. -/
theorem refl (t : FileTree) : Later t t where
  cwd := rfl
  links := fun _ _ => .rfl
  directories := fun _ => id
  files := fun _ content there => ⟨content, there⟩
  listed := .refl _

/-- What came later than a later tree came later. -/
theorem trans (first : Later t u) (second : Later u v) : Later t v where
  cwd := second.cwd.trans first.cwd
  links := fun l target => (second.links l target).trans (first.links l target)
  directories := fun l there => second.directories l (first.directories l there)
  files := fun l content there => by
    obtain ⟨now, there⟩ := first.files l content there
    exact second.files l now there
  listed := first.listed.trans second.listed

/-- Setting an entry keeps every location that was listed. -/
theorem listed_set (t : FileTree) (l : Location) (e : Entry) :
    (t.entries.map (·.1)).Sublist ((t.set l e).entries.map (·.1)) := by
  rw [set, map_fst_setIn]
  split
  · exact .refl _
  · exact List.sublist_append_left _ _

/-- A directory can be made where nothing is. -/
theorem make (missing : t.get? l = none) : Later t (t.set l .directory) where
  toExtends := extends_set (.inl missing) nofun
  files := fun l' content there => by
    have named : l ≠ [] := by
      rintro rfl
      cases missing
    have other : l' ≠ l := by
      rintro rfl
      rw [missing] at there
      cases there
    exact ⟨content, by rw [get?_set t l l' _ named, if_neg other, there]⟩
  listed := listed_set t l _

/-- A file can be written where nothing or a file is. -/
theorem write (opens : t.Opens p l) (content : Bytes) : Later t (t.set l (.file content)) where
  toExtends := extends_set opens.old nofun
  files := fun l' old there => by
    rw [get?_set t l l' _ opens.named]
    split
    · exact ⟨content, rfl⟩
    · exact ⟨old, there⟩
  listed := listed_set t l _

section Walks

variable (later : Later t u)

include later

/-- A walk that ended at a free name. -/
theorem walkWith_missing {followLast : Bool} {onLink : Location → List Text → Except Refusal Spot}
    {here : Location} {name : Text} (down : (name == "..") = false)
    (short : isTooLong name = false) (missing : t.get? (here ++ [name]) = none) :
    FileTree.walkWith u followLast onLink here [name] =
      .ok ((Spot.free (here ++ [name])).now u) := by
  rw [Spot.now]
  rcases there : u.get? (here ++ [name]) with _ | _ | content | target
  · exact FirstStep.walkWith_eq (.free down short there)
  · exact FirstStep.walkWith_eq (.directory down short there rfl)
  · exact FirstStep.walkWith_eq (.file down short there)
  · rw [later.links, missing] at there
    cases there

/-- A walk that found something finds the same in a later tree. -/
theorem walkWith {followLast : Bool} {onLink onLink' : Location → List Text → Except Refusal Spot}
    (onLinks : ∀ l steps spot, onLink l steps = .ok spot → onLink' l steps = .ok (spot.now u))
    {steps : List Text} {spot : Spot} (found : walkWith t followLast onLink l steps = .ok spot) :
    FileTree.walkWith u followLast onLink' l steps = .ok (spot.now u) := by
  induction steps generalizing l with
  | nil =>
    cases found
    rfl
  | cons name rest inductionHypothesis =>
    cases firstStep found with
    | up further => exact FirstStep.walkWith_eq (.up (inductionHypothesis further))
    | directory down short there further =>
      exact FirstStep.walkWith_eq
        (.directory down short (later.directories _ there) (inductionHypothesis further))
    | link down short there followed further =>
      exact FirstStep.walkWith_eq
        (.link down short ((later.links _ _).mpr there) followed (onLinks _ _ _ further))
    | file down short there =>
      obtain ⟨now, there⟩ := later.files _ _ there
      rw [Spot.now, there]
      exact FirstStep.walkWith_eq (.file down short there)
    | lastLink down short there kept =>
      exact FirstStep.walkWith_eq (.lastLink down short ((later.links _ _).mpr there) kept)
    | free down short missing => exact later.walkWith_missing down short missing

/-- The walk of bounded many links, likewise. -/
theorem walk {followLast : Bool} {links : Nat} {steps : List Text} {spot : Spot}
    (found : walk t followLast links l steps = .ok spot) :
    FileTree.walk u followLast links l steps = .ok (spot.now u) := by
  induction links generalizing l steps spot with
  | zero =>
    refine later.walkWith (fun _ _ _ impossible => ?_) found
    cases impossible
  | succ links inductionHypothesis =>
    exact later.walkWith (fun _ _ _ => inductionHypothesis) found

/-- A path leads to the same location in a later tree. -/
theorem locate {followLast : Bool} {spot : Spot} (found : t.locate followLast p = .ok spot) :
    u.locate followLast p = .ok (spot.now u) := by
  obtain ⟨asked, found⟩ := locate_eq_ok.mp found
  refine locate_eq_ok.mpr ⟨asked, ?_⟩
  rw [startOf, later.cwd]
  exact later.walk found

/-- A directory stays one. -/
theorem probe_directory (found : t.probe p = .ok (some (l, .directory))) :
    u.probe p = .ok (some (l, .directory)) := by
  rw [probe, later.locate (locate_of_probe found)]
  rfl

/-- A file stays a file at its location, with the content of the day. -/
theorem probe_file {content : Bytes} (found : t.probe p = .ok (some (l, .file content))) :
    ∃ now, u.get? l = some (.file now) ∧ u.probe p = .ok (some (l, .file now)) := by
  obtain ⟨now, there⟩ := later.files l content (file_of_probe found)
  refine ⟨now, there, ?_⟩
  rw [probe, later.locate (locate_of_probe found), Spot.now, there]

/-- What is there stays there. -/
theorem probe_there {found : Location × Entry} (there : t.probe p = .ok (some found)) :
    ∃ now, u.probe p = .ok (some now) := by
  obtain ⟨l, e⟩ := found
  rw [probe, later.locate (locate_of_probe there)]
  cases e with
  | directory => exact ⟨_, rfl⟩
  | file content =>
    obtain ⟨now, file⟩ := later.files l content (file_of_probe there)
    rw [Spot.now, file]
    exact ⟨_, rfl⟩
  | link target => exact ⟨_, rfl⟩

/-- The check for a directory stays positive. -/
theorem isDirectory (directory : t.isDirectory p = true) : u.isDirectory p = true := by
  obtain ⟨l, found⟩ := isDirectory_iff.mp directory
  exact isDirectory_iff.mpr ⟨l, later.probe_directory found⟩

/-- The check for a file stays positive. -/
theorem isFile (file : t.isFile p = true) : u.isFile p = true := by
  obtain ⟨content, read⟩ := Option.isSome_iff_exists.mp file
  obtain ⟨l, found⟩ := content?_eq_some.mp read
  obtain ⟨now, -, found⟩ := later.probe_file found
  exact Option.isSome_iff_exists.mpr ⟨now, content?_eq_some.mpr ⟨l, found⟩⟩

/-- A path that opens a file for writing still leads to it. -/
theorem opens {content : Bytes} (opens : t.Opens p l) (there : u.get? l = some (.file content)) :
    u.locate true p = .ok (.entry l (.file content)) := by
  cases opens with
  | free found => rw [later.locate found, Spot.now, there]
  | file found => rw [later.locate found, Spot.now, there]

/-- Where a file was written, or in the directory that was there, no directory was made. -/
theorem isDirectory_eq {q : Path} {content : Bytes}
    (opens : t.Opens (if t.isDirectory p then q else p) l)
    (there : u.get? l = some (.file content)) : u.isDirectory p = t.isDirectory p := by
  cases directory : t.isDirectory p with
  | true => exact later.isDirectory directory
  | false =>
    rw [directory, if_neg Bool.false_ne_true] at opens
    exact Opens.isDirectory_eq (.file (later.opens opens there))

/-- What is contained in a directory stays so if it can be written. -/
theorem contained {root destination : Path} {relative : Text}
    (inside : t.contained root relative = .ok destination) (opens : u.Opens destination l) :
    u.contained root relative = .ok destination := by
  obtain ⟨rfl, there, above, resolved, resolvedRoot, below⟩ := contained_eq_ok.mp inside
  obtain ⟨asked, n, leads⟩ := opens.leads
  obtain ⟨m, resolvedNow⟩ := leads.resolve_root asked
  have same := later.resolve_eq resolvedNow
  rw [resolvedRoot] at same
  cases same
  have same := later.resolve_eq opens.resolve_eq
  rw [resolved] at same
  cases same
  exact contained_eq_ok.mpr ⟨rfl, _, _, opens.resolve_eq, resolvedNow, below⟩

/-- The files below a directory are still listed, in the same order. -/
theorem filesBelow (p : Path) : (Disk.filesBelow t p).Sublist (Disk.filesBelow u p) := by
  have ordered (t : FileTree) (l : Location) := Path.ordered_mergeSort id ((t.below l).map (·.1))
  rw [Disk.filesBelow]
  split
  · rename_i l there
    have probed : t.probe p = .ok (some (l, .directory)) := probe_of_found there
    rw [Disk.filesBelow, entry?, later.probe_directory probed]
    have more : ((t.below l).map (·.1)).Subperm ((u.below l).map (·.1)) := by
      rw [map_fst_below, map_fst_below]
      exact (later.listed.filterMap _).subperm
    have names := (ordered t l).sublist (ordered u l)
      (((List.mergeSort_perm _ _).subperm.trans more).trans (List.mergeSort_perm _ _).symm.subperm)
    exact ((names.map _).filter _).trans
      (List.monotone_filter_right _ fun _ file => later.isFile file)
  · exact List.nil_sublist _

end Walks

end Later

/-! ### Directories that are there -/

section LastLink

variable (t : FileTree) {l : Location} {steps : List Text}

/-- To follow the last link or not makes a difference only if there is one. -/
theorem walkWith_last {onLink onLink' : Location → List Text → Except Refusal Spot}
    (onLinks : ∀ l steps, onLink l steps = onLink' l steps ∨
      ∃ m target, onLink l steps = .ok (.entry m (.link target))) :
    walkWith t false onLink l steps = walkWith t true onLink' l steps ∨
      ∃ m target, walkWith t false onLink l steps = .ok (.entry m (.link target)) := by
  induction steps generalizing l with
  | nil => exact .inl rfl
  | cons name rest inductionHypothesis =>
    rw [walkWith, walkWith]
    split
    · exact inductionHypothesis
    · split
      · exact .inl rfl
      · split
        · exact .inl rfl
        · exact inductionHypothesis
        · exact .inl rfl
        · simp only [Bool.not_true, Bool.and_false, Bool.not_false, Bool.and_true,
            Bool.false_eq_true, if_false]
          split
          · exact .inr ⟨_, _, rfl⟩
          · exact onLinks _ _

/-- Whether a last link is followed only matters if the walk ends at one. -/
theorem walk_last (links : Nat) (l : Location) (steps : List Text) :
    walk t false links l steps = walk t true links l steps ∨
      ∃ m target, walk t false links l steps = .ok (.entry m (.link target)) := by
  induction links generalizing l steps with
  | zero => exact walkWith_last t fun _ _ => .inl rfl
  | succ links inductionHypothesis => exact walkWith_last t inductionHypothesis

/-- Whether a last link is followed only matters if the path ends at one. -/
theorem locate_last (p : Path) :
    t.locate false p = t.locate true p ∨
      ∃ m target, t.locate false p = .ok (.entry m (.link target)) := by
  rcases asked : askable p with f | _
  · have failed (followLast : Bool) : t.locate followLast p = .error f := by
      rw [locate, asked]
      rfl
    exact .inl ((failed false).trans (failed true).symm)
  · rcases walk_last t maxLinks (t.startOf p) p.parts with same | ⟨m, target, found⟩
    · refine .inl ?_
      rw [locate, locate, same]
    · exact .inr ⟨m, target, locate_eq_ok.mpr ⟨asked, found⟩⟩

end LastLink

end FileTree

namespace Disk

open FileTree

variable {t : FileTree} {p : Path} {l : Location}

/-- A directory that has been made is there. -/
theorem ensures_directory_makeDirectory (p : Path) :
    Ensures (fun _ => True) (fun t => ∃ l, t.probe p = .ok (some (l, .directory)))
      (makeDirectory p) := by
  intro t _ _ made
  rw [perform_makeDirectory] at made ⊢
  split at made
  · rename_i l found
    have missing := (walks_of_locate found).free_missing rfl
    have named : l ≠ [] := by
      rintro rfl
      cases missing
    rcases locate_last t p with same | ⟨m, target, link⟩
    · refine ⟨l, ?_⟩
      have there : (t.set l .directory).get? l = some .directory := by
        rw [get?_set t l l _ named, if_pos rfl]
      rw [FileTree.probe, (Later.make missing).locate (same ▸ found), Spot.now, there]
    · rw [found] at link
      cases link
  · cases made
  · cases made

/-- A directory that is accepted is there. -/
theorem ensures_directory_acceptDirectory (p : Path) (f : Fault) :
    Ensures (fun _ => True) (fun t => ∃ l, t.probe p = .ok (some (l, .directory)))
      (acceptDirectory p f) := by
  intro t _ _ accepted
  rcases perform_acceptDirectory p f t with ⟨f', failed⟩ | ⟨l, probed, done⟩
  · rw [failed] at accepted
    cases accepted
  · rw [done]
    exact ⟨l, probed⟩

/-- A directory that has been ensured is there. -/
theorem directory_of_ensureDirectory {t' : FileTree}
    (made : perform (ensureDirectory p) t = (.ok (), t')) :
    ∃ l, t'.probe p = .ok (some (l, .directory)) := by
  have there := ensures_makeDirectories (ensures_directory_makeDirectory p)
    (ensures_directory_acceptDirectory p) (p.parts.length + 1) t trivial ()
  rw [ensureDirectory] at made
  rw [made] at there
  exact there rfl

/-- Ensuring a directory only adds to the tree, even where it fails. -/
theorem later_of_ensureDirectory {t' : FileTree} {o : Except Fault Unit}
    (made : perform (ensureDirectory p) t = (o, t')) : Later t t' := by
  have keeps : Keeps (Later t) (fun _ => True) (ensureDirectory p) :=
    keeps_ensureDirectory fun _ _ _ _ later found =>
      later.trans (.make ((walks_of_locate found).free_missing rfl))
  have later := (keeps t (.refl t)).1
  rwa [made] at later

/-- A directory that is there is left alone. -/
theorem perform_ensureDirectory_there (there : t.probe p = .ok (some (l, .directory))) :
    perform (ensureDirectory p) t = (.ok (), t) := by
  have refused : perform (makeDirectory p) t = (.error (.refused .alreadyExists), t) := by
    rw [perform_makeDirectory]
    rcases locate_last t p with same | ⟨m, target, link⟩
    · rw [same, locate_of_probe there]
    · rw [link]
  rw [ensureDirectory, makeDirectories, perform_tryCatch, refused]
  simp only
  rw [acceptDirectory, perform_bind_ok ((perform_probe p t).trans (congrArg (·, t) there))]
  rfl

end Disk

end HaxeBuild
