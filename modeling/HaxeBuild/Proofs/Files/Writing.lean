import HaxeBuild.Files.Disk
import HaxeBuild.Proofs.Effect
import HaxeBuild.Proofs.Files.Walking

namespace HaxeBuild

open Effect

namespace FileTree

/-- A path is located if it can be asked about and its walk comes to an end. -/
theorem locate_eq_ok {t : FileTree} {followLast : Bool} {p : Path} {spot : Spot} :
    t.locate followLast p = .ok spot ↔
      askable p = .ok () ∧ walk t followLast maxLinks (t.startOf p) p.parts = .ok spot := by
  rw [locate]
  cases askable p with
  | error f =>
    constructor
    · intro impossible
      cases impossible
    · rintro ⟨impossible, -⟩
      cases impossible
  | ok _ =>
    dsimp only [bind, Except.bind, pure, Except.pure]
    cases walk t followLast maxLinks (t.startOf p) p.parts with
    | ok found => simp
    | error why => simp [throw, throwThe, MonadExceptOf.throw]

/-- Whoever locates a path has walked it. -/
theorem walks_of_locate {t : FileTree} {followLast : Bool} {p : Path} {spot : Spot}
    (found : t.locate followLast p = .ok spot) :
    Walks t followLast (t.startOf p) p.parts spot :=
  walks_of_walk (locate_eq_ok.mp found).2

/-- What is probed is located with links followed. -/
theorem locate_of_probe {t : FileTree} {p : Path} {l : Location} {e : Entry}
    (probed : t.probe p = .ok (some (l, e))) : t.locate true p = .ok (.entry l e) := by
  rw [probe] at probed
  split at probed
  · rename_i found
    cases probed
    exact found
  · cases probed
  · cases probed

/-- What is found behind links is no link. -/
theorem Walks.ne_link {t : FileTree} {followLast : Bool} {l m : Location} {steps : List Text}
    {spot : Spot} {target : Text} (walks : Walks t followLast l steps spot)
    (followed : followLast = true) : spot ≠ .entry m (.link target) := by
  induction walks with
  | here => nofun
  | up _ inductionHypothesis => exact inductionHypothesis
  | directory _ _ _ inductionHypothesis => exact inductionHypothesis
  | link _ _ _ _ inductionHypothesis => exact inductionHypothesis
  | file => nofun
  | lastLink _ _ kept =>
    rw [followed] at kept
    cases kept
  | free => nofun

/-- At the end of a path that is probed there is no link. -/
theorem probe_ne_link {t : FileTree} {p : Path} {l : Location} {target : Text} :
    t.probe p ≠ .ok (some (l, .link target)) :=
  fun probed => (walks_of_locate (locate_of_probe probed)).ne_link rfl rfl

theorem content?_of_locate {t : FileTree} {p : Path} {l : Location} {content : Bytes}
    (found : t.locate true p = .ok (.entry l (.file content))) : t.content? p = some content := by
  rw [content?, entry?, probe, found]

/-- What a probe finds is the entry of the path. -/
theorem found_of_probe {t : FileTree} {p : Path} {found : Option (Location × Entry)}
    (probed : t.probe p = .ok found) : t.entry? p = found := by
  unfold entry?
  rw [probed]

/-- The entry of a path is what a probe finds. -/
theorem probe_of_found {t : FileTree} {p : Path} {found : Location × Entry}
    (there : t.entry? p = some found) : t.probe p = .ok (some found) := by
  unfold entry? at there
  split at there
  · rename_i probed
    rw [probed, there]
  · cases there

/-- A path is a directory exactly if a probe finds one. -/
theorem isDirectory_iff {t : FileTree} {p : Path} :
    t.isDirectory p = true ↔ ∃ l, t.probe p = .ok (some (l, .directory)) := by
  rw [isDirectory, entry?]
  rcases t.probe p with f | _ | ⟨l, content | content | target⟩ <;> simp

/-- A path has content exactly if a probe finds a file with it. -/
theorem content?_eq_some {t : FileTree} {p : Path} {content : Bytes} :
    t.content? p = some content ↔ ∃ l, t.probe p = .ok (some (l, .file content)) := by
  rw [content?, entry?]
  rcases t.probe p with f | _ | ⟨l, there | there | target⟩ <;> simp

/-- The file that a probe finds is in the tree. -/
theorem file_of_probe {t : FileTree} {p : Path} {l : Location} {content : Bytes}
    (probed : t.probe p = .ok (some (l, .file content))) : t.get? l = some (.file content) :=
  (walks_of_locate (locate_of_probe probed)).file_there rfl

/-- The last of two entries at a location counts. -/
theorem set_set (t : FileTree) (l : Location) (e e' : Entry) :
    (t.set l e).set l e' = t.set l e' := by
  have twice (entries : List (Location × Entry)) :
      setIn l e' (setIn l e entries) = setIn l e' entries := by
    induction entries with
    | nil => simp [setIn]
    | cons entry rest inductionHypothesis =>
      obtain ⟨l', old⟩ := entry
      cases same : l' == l <;> simp [setIn, same, inductionHypothesis]
  rw [set, set, twice]
  rfl

/-- A name that is free or a file's can get another entry, unless this is a link. -/
theorem extends_set {t : FileTree} {l : Location} {e : Entry}
    (old : t.get? l = none ∨ ∃ content, t.get? l = some (.file content))
    (noLink : ∀ target, e ≠ .link target) : Extends t (t.set l e) := by
  have below : l ≠ [] := by
    rintro rfl
    rcases old with missing | ⟨content, file⟩
    · cases missing
    · cases file
  refine ⟨rfl, fun l' target => ?_, fun l' directory => ?_⟩
  · rw [get?_set t l l' e below]
    by_cases same : l' = l
    · subst same
      rw [if_pos rfl]
      constructor
      · intro link
        cases link
        exact absurd rfl (noLink target)
      · intro link
        rw [link] at old
        rcases old with missing | ⟨content, file⟩
        · cases missing
        · cases file
    · rw [if_neg same]
  · rw [get?_set t l l' e below]
    by_cases same : l' = l
    · subst same
      rw [directory] at old
      rcases old with missing | ⟨content, file⟩
      · cases missing
      · cases file
    · rw [if_neg same, directory]

/-- A file can be written where the path leads to a free name or to a file. -/
inductive Opens (t : FileTree) (p : Path) (l : Location) : Prop where
  | free (found : t.locate true p = .ok (.free l))
  | file {content : Bytes} (found : t.locate true p = .ok (.entry l (.file content)))

namespace Opens

variable {t : FileTree} {p : Path} {l : Location}

/-- Where a file is opened there is nothing, or an older file. -/
theorem old (opens : Opens t p l) :
    t.get? l = none ∨ ∃ content, t.get? l = some (.file content) := by
  cases opens with
  | free found => exact .inl ((walks_of_locate found).free_missing rfl)
  | file found => exact .inr ⟨_, (walks_of_locate found).file_there rfl⟩

/-- A file that can be opened is no directory. -/
theorem ne_directory (opens : Opens t p l) : t.get? l ≠ some .directory := by
  rcases opens.old with missing | ⟨content, file⟩
  · rw [missing]
    nofun
  · rw [file]
    nofun

/-- The root is no file. -/
theorem named (opens : Opens t p l) : l ≠ [] := by
  rintro rfl
  exact opens.ne_directory rfl

/-- The path leads to where the file is opened. -/
theorem leads (opens : Opens t p l) :
    askable p = .ok () ∧ ∃ n, Leads t n (t.startOf p) p.parts l := by
  cases opens with
  | free found => exact ⟨(locate_eq_ok.mp found).1, (walks_of_locate found).leads⟩
  | file found => exact ⟨(locate_eq_ok.mp found).1, (walks_of_locate found).leads⟩

/-- So the path is resolved to that location. -/
theorem resolve_eq (opens : Opens t p l) : t.resolve p = .ok l := by
  have ⟨asked, n, leads⟩ := opens.leads
  exact leads.resolve_eq asked

end Opens

/-- Both paths lead to the same place. -/
def SameFile (t : FileTree) (p q : Path) : Prop :=
  ∃ l e e', t.entry? p = some (l, e) ∧ t.entry? q = some (l, e')

/-- A path at which a file can be opened is no directory. -/
theorem Opens.isDirectory_eq {t : FileTree} {p : Path} {l : Location} (opens : Opens t p l) :
    t.isDirectory p = false := by
  cases opens with
  | free found => rw [isDirectory, entry?, probe, found]
  | file found => rw [isDirectory, entry?, probe, found]

/-- A file that can be written is another one if it is at another location. -/
theorem Opens.sameFile_iff {t : FileTree} {p q : Path} {l origin : Location} {content : Bytes}
    (opens : Opens t q l) (found : t.probe p = .ok (some (origin, .file content))) :
    t.SameFile p q ↔ origin = l := by
  have there := found_of_probe found
  cases opens with
  | free free =>
    constructor
    · rintro ⟨_, _, _, -, taken⟩
      have absent : t.entry? q = none := found_of_probe (by rw [probe, free])
      cases absent.symm.trans taken
    · rintro rfl
      have missing := (walks_of_locate free).free_missing rfl
      rw [file_of_probe found] at missing
      cases missing
  | @file old file =>
    have taken : t.entry? q = some (l, .file old) := found_of_probe (by rw [probe, file])
    constructor
    · rintro ⟨_, _, _, found, found'⟩
      rw [there] at found
      rw [taken] at found'
      cases found
      cases found'
      rfl
    · rintro rfl
      exact ⟨_, _, _, there, taken⟩

/-- A file can be copied to another location: that of the destination, or of its own name in the
directory that is there. -/
structure Delivers (t : FileTree) (source destination : Path) (l : Location) (content : Bytes) :
    Prop where
  opens : t.Opens
    (if t.isDirectory destination then destination.child source.name else destination) l
  read : ∃ origin, t.probe source = .ok (some (origin, .file content)) ∧ origin ≠ l

end FileTree

namespace Disk

variable {t : FileTree} {p : Path} {l : Location}

/-- Locating changes nothing. -/
theorem perform_locate (followLast : Bool) (p : Path) (t : FileTree) :
    perform (locate followLast p) t = (t.locate followLast p, t) := by
  rw [locate, perform_bind_ok (perform_get t)]
  exact perform_lift _ t

/-- A directory is made where a path is free, and nowhere else. -/
theorem perform_makeDirectory (p : Path) (t : FileTree) :
    perform (makeDirectory p) t =
      match t.locate false p with
      | .ok (.free l) => (.ok (), t.set l .directory)
      | .ok (.entry ..) => (.error (.refused .alreadyExists), t)
      | .error f => (.error f, t) := by
  rw [makeDirectory, perform_bind, perform_locate]
  rcases t.locate false p with f | ⟨l, e⟩ | l <;> rfl

/-- A file that is opened is empty at first; one that is not leaves no trace. -/
theorem perform_openFile (p : Path) (t : FileTree) :
    (∃ f, perform (openFile p) t = (.error f, t)) ∨
      ∃ l, t.Opens p l ∧ perform (openFile p) t = (.ok l, t.set l (.file [])) := by
  rw [openFile, perform_bind, perform_locate]
  rcases found : t.locate true p with f | ⟨l, content | content | target⟩ | l
  · exact .inl ⟨f, rfl⟩
  · exact .inl ⟨_, rfl⟩
  · exact .inr ⟨l, .file found, rfl⟩
  · exact .inl ⟨_, rfl⟩
  · exact .inr ⟨l, .free found, rfl⟩

/-- A file is written where it is opened. -/
theorem opens_of_writeFile {t' : FileTree} {content : Bytes}
    (written : perform (writeFile p content) t = (.ok (), t')) :
    ∃ l, t.Opens p l ∧ t' = t.set l (.file content) := by
  rcases perform_openFile p t with ⟨f, failed⟩ | ⟨l, opens, done⟩
  · rw [writeFile, perform_bind_error failed] at written
    cases written
  · rw [writeFile, perform_bind_ok done, put, perform_modify, FileTree.set_set] at written
    cases written
    exact ⟨l, opens, rfl⟩

/-- A text is written as its encoding. -/
theorem opens_of_writeText {t' : FileTree} {text : Text}
    (written : perform (writeText p text) t = (.ok (), t')) :
    ∃ content l, Text.utf8? text = some content ∧ t.Opens p l ∧ t' = t.set l (.file content) := by
  rcases perform_openFile p t with ⟨f, failed⟩ | ⟨l, opens, done⟩
  · rw [writeText, perform_bind_error failed] at written
    cases written
  · rw [writeText, perform_bind_ok done] at written
    cases encoded : Text.utf8? text with
    | none =>
      rw [encoded] at written
      cases written
    | some content =>
      rw [encoded] at written
      simp only [put, perform_modify, FileTree.set_set] at written
      cases written
      exact ⟨content, l, rfl, opens, rfl⟩

/-- Reading changes nothing and gives the content. -/
theorem content_of_readFile {t' : FileTree} {content : Bytes}
    (read : perform (readFile p) t = (.ok content, t')) :
    t' = t ∧ t.content? p = some content := by
  rw [readFile, perform_bind, perform_locate] at read
  rcases found : t.locate true p with f | ⟨l, here | here | target⟩ | l
  all_goals
    rw [found] at read
    cases read
  exact ⟨rfl, FileTree.content?_of_locate found⟩

/-- A file that is there can be read. -/
theorem perform_readFile {content : Bytes}
    (found : t.locate true p = .ok (.entry l (.file content))) :
    perform (readFile p) t = (.ok content, t) := by
  rw [readFile, perform_bind, perform_locate, found]
  rfl

/-- A file that can be opened can be written. -/
theorem perform_writeFile (opens : t.Opens p l) (content : Bytes) :
    perform (writeFile p content) t = (.ok (), t.set l (.file content)) := by
  have opened : perform (openFile p) t = (.ok l, t.set l (.file [])) := by
    rw [openFile, perform_bind, perform_locate]
    cases opens with
    | free found =>
      rw [found]
      rfl
    | file found =>
      rw [found]
      rfl
  rw [writeFile, perform_bind_ok opened, put, perform_modify, FileTree.set_set]

/-- A copy is read and written, unless both paths lead to the same file; a directory that is there
gets it under the name of its source. -/
theorem perform_copyFile (source : Path) {destination place : Path}
    (is : (if t.isDirectory destination then destination.child source.name else destination) =
      place) :
    (t.SameFile source place ∧ perform (copyFile source destination) t = (.error .sameFile, t)) ∨
      ¬ t.SameFile source place ∧ perform (copyFile source destination) t =
        perform (readFile source >>= writeFile place) t := by
  rw [copyFile, perform_bind_ok (perform_get t)]
  dsimp only
  rw [is]
  split
  · rename_i l e l' e' there there'
    split
    · rename_i same
      rw [← eq_of_beq same] at there'
      exact .inl ⟨⟨l, e, e', there, there'⟩, rfl⟩
    · rename_i other
      refine .inr ⟨?_, rfl⟩
      rintro ⟨_, _, _, found, found'⟩
      rw [there] at found
      rw [there'] at found'
      cases found
      cases found'
      exact other (beq_self_eq_true _)
  · rename_i none
    refine .inr ⟨?_, rfl⟩
    rintro ⟨l, e, e', found, found'⟩
    exact none l e l e' found found'

/-- A copy is written to the destination, or in the directory that is there. -/
theorem perform_copyFile_eq_ok {source destination : Path} {t' : FileTree} :
    perform (copyFile source destination) t = (.ok (), t') ↔
      ∃ l content, t.Delivers source destination l content ∧ t' = t.set l (.file content) := by
  generalize is : (if t.isDirectory destination then destination.child source.name
    else destination) = place
  constructor
  · intro copied
    rcases perform_copyFile source is with ⟨-, refused⟩ | ⟨apart, performed⟩
    · rw [refused] at copied
      cases copied
    · rw [performed] at copied
      obtain ⟨content, t1, read, written⟩ := perform_bind_eq_ok.mp copied
      obtain ⟨rfl, there⟩ := content_of_readFile read
      obtain ⟨l, opens, done⟩ := opens_of_writeFile written
      obtain ⟨origin, found⟩ := FileTree.content?_eq_some.mp there
      refine ⟨l, content, ⟨is ▸ opens, origin, found, fun same => apart ?_⟩, done⟩
      exact (opens.sameFile_iff found).mpr same
  · rintro ⟨l, content, ⟨opens, origin, found, other⟩, rfl⟩
    rw [is] at opens
    rcases perform_copyFile source is with ⟨same, -⟩ | ⟨-, performed⟩
    · exact absurd ((opens.sameFile_iff found).mp same) other
    · rw [performed, perform_bind_ok (perform_readFile (FileTree.locate_of_probe found)),
        perform_writeFile opens]

/-- A copy is written where it is opened, with the content of its source. -/
theorem opens_of_copyFile {source destination : Path} {t' : FileTree}
    (copied : perform (copyFile source destination) t = (.ok (), t')) :
    ∃ content l, t.content? source = some content ∧
      t.Opens (if t.isDirectory destination then destination.child source.name else destination) l ∧
        t' = t.set l (.file content) := by
  obtain ⟨l, content, ⟨opens, origin, found, -⟩, is⟩ := perform_copyFile_eq_ok.mp copied
  exact ⟨content, l, FileTree.content?_eq_some.mpr ⟨origin, found⟩, opens, is⟩

/-- A file that cannot be opened is not changed. -/
theorem spares_writeFile {kept : FileTree → Prop} (p : Path) (content : Bytes) :
    Spares kept (writeFile p content) := by
  intro t known f failed
  rcases perform_openFile p t with ⟨f', refused⟩ | ⟨l, -, opened⟩
  · rw [writeFile, perform_bind_error refused]
    exact known
  · rw [writeFile, perform_bind_ok opened] at failed
    cases failed

/-- A file is read before its copy is opened. -/
theorem spares_copyFile {kept : FileTree → Prop} (source destination : Path) :
    Spares kept (copyFile source destination) := by
  have reads : Keeps kept (fun _ => True) (readFile source) := by
    intro t known
    refine ⟨?_, fun _ _ => trivial⟩
    rw [readFile, perform_bind, perform_locate]
    rcases t.locate true source with f | ⟨l, content | content | target⟩ | l <;> exact known
  intro t known f failed
  rcases perform_copyFile source rfl with ⟨-, same⟩ | ⟨-, performed⟩
  · rw [same]
    exact known
  · rw [performed] at failed ⊢
    exact reads.spares (fun content _ => spares_writeFile _ content) t known f failed

/-- Whether a directory is accepted is only asked. -/
theorem perform_acceptDirectory (p : Path) (f : Fault) (t : FileTree) :
    (∃ f', perform (acceptDirectory p f) t = (.error f', t)) ∨
      ∃ l, t.probe p = .ok (some (l, .directory)) ∧
        perform (acceptDirectory p f) t = (.ok (), t) := by
  unfold acceptDirectory
  split
  · rw [perform_bind, perform_probe]
    rcases probed : t.probe p with f' | _ | ⟨l, content | content | target⟩
    · exact .inl ⟨f', rfl⟩
    · exact .inl ⟨_, rfl⟩
    · exact .inr ⟨l, rfl, rfl⟩
    · exact .inl ⟨_, rfl⟩
    · exact .inl ⟨_, rfl⟩
  · exact .inl ⟨f, rfl⟩

section Keeps

variable {kept : FileTree → Prop}

/-- What one more directory keeps is kept by making it. -/
theorem keeps_makeDirectory
    (makes : ∀ t l, kept t → t.locate false p = .ok (.free l) → kept (t.set l .directory)) :
    Keeps kept (fun _ => True) (makeDirectory p) := by
  intro t known
  refine ⟨?_, fun _ _ => trivial⟩
  rw [perform_makeDirectory]
  split
  · exact makes t _ known ‹_›
  · exact known
  · exact known

/-- Whether a refusal is accepted changes nothing. -/
theorem keeps_acceptDirectory (f : Fault) : Keeps kept (fun _ => True) (acceptDirectory p f) := by
  intro t known
  refine ⟨?_, fun _ _ => trivial⟩
  rcases perform_acceptDirectory p f t with ⟨f', done⟩ | ⟨l, -, done⟩
  · rw [done]
    exact known
  · rw [done]
    exact known

/-- The path is another path or one of the directories above it. -/
def IsOnWay (p q : Path) : Prop := q.slashes = p.slashes ∧ q.parts <+: p.parts

theorem isOnWay_refl (p : Path) : IsOnWay p p := ⟨rfl, List.prefix_refl _⟩

/-- What is on the way to the parent is on the way to the path. -/
theorem IsOnWay.of_parent {p q : Path} (above : IsOnWay p.parent q) : IsOnWay p q :=
  ⟨above.1, above.2.trans (List.dropLast_prefix _)⟩

/-- Directories are only made at free names on the way of the path. -/
theorem keeps_makeDirectories {depth : Nat}
    (makes : ∀ q, IsOnWay p q → ∀ t l, kept t → t.locate false q = .ok (.free l) →
      kept (t.set l .directory)) : Keeps kept (fun _ => True) (makeDirectories depth p) := by
  induction depth generalizing p with
  | zero => exact keeps_makeDirectory (makes p (isOnWay_refl p))
  | succ depth inductionHypothesis =>
    have self := keeps_makeDirectory (makes p (isOnWay_refl p))
    refine self.tryCatch fun f => ?_
    split
    · split
      · exact keeps_throw _
      · have above := inductionHypothesis fun q onWay => makes q onWay.of_parent
        refine above.bind fun _ _ => self.tryCatch fun f => ?_
        split
        · exact keeps_throw _
        · exact keeps_acceptDirectory _
    · exact keeps_acceptDirectory _

/-- What every directory on the way keeps is kept by making all of them. -/
theorem keeps_ensureDirectory
    (makes : ∀ q, IsOnWay p q → ∀ t l, kept t → t.locate false q = .ok (.free l) →
      kept (t.set l .directory)) : Keeps kept (fun _ => True) (ensureDirectory p) :=
  keeps_makeDirectories makes

/-- A file is only written where the path leads. -/
theorem keeps_writeFile {content : Bytes}
    (writes : ∀ t l content, kept t → t.Opens p l → kept (t.set l (.file content))) :
    Keeps kept (fun _ => True) (writeFile p content) := by
  intro t known
  refine ⟨?_, fun _ _ => trivial⟩
  rcases perform_openFile p t with ⟨f, failed⟩ | ⟨l, opens, done⟩
  · rw [writeFile, perform_bind_error failed]
    exact known
  · rw [writeFile, perform_bind_ok done, put, perform_modify, FileTree.set_set]
    exact writes t l content known opens

/-- What one more file keeps is kept by writing a text. -/
theorem keeps_writeText {text : Text}
    (writes : ∀ t l content, kept t → t.Opens p l → kept (t.set l (.file content))) :
    Keeps kept (fun _ => True) (writeText p text) := by
  intro t known
  refine ⟨?_, fun _ _ => trivial⟩
  rcases perform_openFile p t with ⟨f, failed⟩ | ⟨l, opens, done⟩
  · rw [writeText, perform_bind_error failed]
    exact known
  · rw [writeText, perform_bind_ok done]
    split
    · rw [put, perform_modify, FileTree.set_set]
      exact writes t l _ known opens
    · exact writes t l [] known opens

end Keeps

/-- Every name of the path is there. -/
def IsThere (p : Path) (t : FileTree) : Prop :=
  ∀ before (name : Text) after, p.parts = before ++ name :: after → (name == "..") = false →
    ∃ n here, FileTree.Leads t n (t.startOf p) before here ∧ t.get? (here ++ [name]) ≠ none

section Ensures

/-- A directory that was made is there. -/
theorem ensures_makeDirectory (p : Path) :
    Ensures (fun _ => True) (IsThere p) (makeDirectory p) := by
  intro t _ _ made
  rw [perform_makeDirectory] at made ⊢
  split at made
  · rename_i l found
    intro before name after split down
    have walks := FileTree.walks_of_locate found
    obtain ⟨_, _, _, _, _, _, _, is, missing⟩ := walks.free_name rfl
    have extend : FileTree.Extends t (t.set l .directory) :=
      FileTree.extends_set (.inl missing) nofun
    obtain ⟨n, here, leads, there⟩ := walks.passes split down
    refine ⟨n, here, extend.links.leads leads, ?_⟩
    have below : l ≠ [] := by
      rw [is]
      exact List.append_ne_nil_of_right_ne_nil _ (List.cons_ne_nil _ _)
    rw [FileTree.get?_set t l _ _ below]
    split
    · nofun
    · rename_i other
      rcases there with there | free
      · exact there
      · cases free
        exact absurd rfl other
  · cases made
  · cases made

/-- A refusal is accepted only where the directory is there. -/
theorem ensures_acceptDirectory (p : Path) (f : Fault) :
    Ensures (fun _ => True) (IsThere p) (acceptDirectory p f) := by
  intro t _ _ accepted
  rcases perform_acceptDirectory p f t with ⟨f', failed⟩ | ⟨l, probed, done⟩
  · rw [failed] at accepted
    cases accepted
  · rw [done]
    intro before name after split down
    have found := FileTree.locate_of_probe probed
    obtain ⟨n, here, leads, there⟩ := (FileTree.walks_of_locate found).passes split down
    refine ⟨n, here, leads, ?_⟩
    rcases there with there | free
    · exact there
    · cases free

/-- In the end the directory itself was made or accepted. -/
theorem ensures_makeDirectories {finish : FileTree → Prop}
    (makes : Ensures (fun _ => True) finish (makeDirectory p))
    (accepts : ∀ f, Ensures (fun _ => True) finish (acceptDirectory p f)) (depth : Nat) :
    Ensures (fun _ => True) finish (makeDirectories depth p) := by
  cases depth with
  | zero => exact makes
  | succ depth =>
    refine makes.tryCatch fun f => ?_
    split
    · split
      · exact ensures_throw _
      · have above : Keeps (fun _ => True) (fun _ => True) (makeDirectories depth p.parent) :=
          fun _ _ => ⟨trivial, fun _ _ => trivial⟩
        refine above.ensures fun _ _ => makes.tryCatch fun f => ?_
        split
        · exact ensures_throw _
        · exact accepts _
    · exact accepts _

/-- A directory that was made without an error is there, with all directories above it. -/
theorem ensures_ensureDirectory (p : Path) :
    Ensures (fun _ => True) (IsThere p) (ensureDirectory p) :=
  ensures_makeDirectories (ensures_makeDirectory p) (ensures_acceptDirectory p) _

end Ensures

end Disk

end HaxeBuild
