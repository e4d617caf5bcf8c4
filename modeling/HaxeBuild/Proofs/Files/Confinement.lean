import Mathlib.Data.List.TakeWhile
import HaxeBuild.Build.Assets
import HaxeBuild.Proofs.Files.Writing

namespace HaxeBuild

open Effect

/-- Where a declared path is looked for, or written, below a directory. -/
def Path.under (root : Path) (relative : Text) : Path :=
  root ++ Path.ofText (Text.dropLeading (.char '/') relative)

/-- Without leading slashes, a path has no root of its own. -/
theorem Path.under_eq (root : Path) (relative : Text) :
    root.under relative =
      ⟨root.slashes,
        root.parts ++ (Path.ofText (Text.dropLeading (.char '/') relative)).parts⟩ := by
  have noRoot : (Path.ofText (Text.dropLeading (.char '/') relative)).isAbsolute = false := by
    have nothing : (Text.dropLeading (.char '/') relative).takeWhile (· == .char '/') = [] :=
      List.takeWhile_eq_nil_iff.mpr (List.dropWhile_get_zero_not _ relative)
    simp [Path.isAbsolute, Path.ofText, nothing]
  change append root _ = _
  rw [append, noRoot]
  rfl

namespace FileTree

/-- The location is the directory or below it. -/
def Inside (t : FileTree) (root : Path) (l : Location) : Prop :=
  ∃ inside, t.resolve root = .ok inside ∧ inside <+: l

/-- The location is the directory or above it. -/
def Above (t : FileTree) (root : Path) (l : Location) : Prop :=
  ∃ inside, t.resolve root = .ok inside ∧ l <+: inside

/-- One of the declared paths stands for the destination. -/
def Accepts (t : FileTree) (root : Path) (declared : List Value) (destination : Path) : Prop :=
  ∃ v ∈ declared, ∃ relative, AssetStager.pathText v = .ok relative ∧
    t.contained root relative = .ok destination

/-- Before anything can be written to the destination, the location has to be made a directory: it
is missing, and a name on the way stands for it. -/
inductive Needs (t : FileTree) (destination : Path) : Location → Prop where
  | intro {before after : List Text} {name : Text} {here : Location}
      (way : destination.parts = before ++ name :: after) (more : after ≠ [])
      (down : (name == "..") = false)
      (resolved : t.resolve ⟨destination.slashes, before⟩ = .ok here)
      (missing : t.get? (here ++ [name]) = none) : Needs t destination (here ++ [name])

theorem Needs.missing {t : FileTree} {destination : Path} {l : Location}
    (needs : Needs t destination l) : t.get? l = none := by
  obtain ⟨-, -, -, -, missing⟩ := needs
  exact missing

/-- A location outside the directory that an accepted path needs. -/
def Detour (t : FileTree) (root : Path) (declared : List Value) (l : Location) : Prop :=
  (∃ destination, Accepts t root declared destination ∧ Needs t destination l) ∧
    ¬ Inside t root l ∧ ¬ Above t root l

/-- Outside the directory nothing is different, except that the way to it may have been made. -/
def StaysInside (t t' : FileTree) (root : Path) : Prop :=
  ∀ l, ¬ Inside t root l → t'.get? l = t.get? l ∨
    Above t root l ∧ t.get? l = none ∧ t'.get? l = some .directory

/-- What can become of a location. -/
inductive Change (t : FileTree) (root : Path) (declared : List Value) (t' : FileTree)
    (l : Location) : Prop where
  | same (same : t'.get? l = t.get? l)
  | made {destination : Path} (accepted : Accepts t root declared destination)
      (needed : Needs t destination l) (made : t'.get? l = some .directory)
  | written {content : Bytes} (inside : Inside t root l)
      (old : t.get? l = none ∨ ∃ content, t.get? l = some (.file content))
      (written : t'.get? l = some (.file content))

/-- Only such changes were made. -/
structure Confined (t : FileTree) (root : Path) (declared : List Value) (t' : FileTree) : Prop where
  cwd : t'.cwd = t.cwd
  changes : ∀ l, Change t root declared t' l

theorem confined_refl (t : FileTree) (root : Path) (declared : List Value) :
    Confined t root declared t := ⟨rfl, fun _ => .same rfl⟩

theorem ofFault_eq_ok {α : Type} {o : Except Fault α} {a : α} :
    Outcome.ofFault o = .ok a ↔ o = .ok a := by
  cases o with
  | error f => constructor <;> intro impossible <;> cases impossible
  | ok b => constructor <;> intro same <;> cases same <;> rfl

/-- The check compares the locations that the two paths are resolved to. -/
theorem contained_of_resolve {t : FileTree} {root : Path} {relative : Text}
    {there inside : Location} (resolved : t.resolve (root.under relative) = .ok there)
    (resolvedRoot : t.resolve root = .ok inside) :
    t.contained root relative =
      if inside <+: there then .ok (root.under relative)
      else .error (.unsafePath relative root.toText) := by
  rw [Path.under] at resolved ⊢
  rw [contained, resolved, resolvedRoot]
  by_cases below : inside <+: there
  · have isPrefix := List.isPrefixOf_iff_prefix.mpr below
    simp [below, isPrefix, Outcome.ofFault, bind, Except.bind, pure, Except.pure]
  · have noPrefix : inside.isPrefixOf there = false :=
      Bool.eq_false_iff.mpr fun isPrefix => below (List.isPrefixOf_iff_prefix.mp isPrefix)
    simp [below, noPrefix, Outcome.ofFault, bind, Except.bind, throw, throwThe,
      MonadExceptOf.throw]

theorem contained_eq_ok {t : FileTree} {root destination : Path} {relative : Text} :
    t.contained root relative = .ok destination ↔
      destination = root.under relative ∧
        ∃ there inside, t.resolve destination = .ok there ∧ t.resolve root = .ok inside ∧
          inside <+: there := by
  constructor
  · intro accepted
    rw [contained] at accepted
    obtain ⟨there, resolved, accepted⟩ := except_bind_ok.mp accepted
    obtain ⟨inside, resolvedRoot, accepted⟩ := except_bind_ok.mp accepted
    split at accepted
    · rename_i below
      cases accepted
      exact ⟨rfl, there, inside, ofFault_eq_ok.mp resolved, ofFault_eq_ok.mp resolvedRoot,
        List.isPrefixOf_iff_prefix.mp below⟩
    · cases accepted
  · rintro ⟨rfl, there, inside, resolved, resolvedRoot, below⟩
    rw [contained_of_resolve resolved resolvedRoot, if_pos below]

/-- A resource is in memory, or else a file of the resource directory. -/
theorem resource_eq_ok {p : Program} {t : FileTree} {path : Text} {content : Bytes} :
    p.resource t path = .ok content ↔
      let stored := (p.resources.lookup (Text.dropLeading (.char '/') path)).or
        (p.resources.lookup path)
      stored = some content ∨ stored = none ∧ ∃ directory, p.resourcesDir = some directory ∧
        ∃ l, t.probe (directory ++ Path.ofText (Text.dropLeading (.char '/') path)) =
          .ok (some (l, .file content)) := by
  rw [Program.resource, Program.findResource]
  rcases (p.resources.lookup (Text.dropLeading (.char '/') path)).or (p.resources.lookup path)
    with _ | stored
  · rcases p.resourcesDir with _ | directory
    · constructor
      · nofun
      · rintro (impossible | ⟨-, _, impossible, -⟩)
        · cases impossible
        · cases impossible
    · rcases probed : t.probe (directory ++ Path.ofText (Text.dropLeading (.char '/') path))
        with f | _ | ⟨l, content' | content' | target⟩
      all_goals simp [probed, Outcome.ofFault, Outcome.fail, bind, Except.bind, pure, Except.pure]
  · simp [Outcome.ofFault, bind, Except.bind, pure, Except.pure]

/-- A template is the text that a resource encodes. -/
theorem resourceText_eq_ok {p : Program} {t : FileTree} {path template : Text} :
    p.resourceText t path = .ok template ↔
      ∃ content, p.resource t path = .ok content ∧ Text.ofUtf8? content = some template := by
  rw [Program.resourceText, except_bind_ok]
  refine exists_congr fun content => and_congr_right fun _ => ?_
  cases Text.ofUtf8? content with
  | none => exact ⟨nofun, nofun⟩
  | some text => exact ⟨fun same => congrArg _ (Except.ok.inj same),
      fun same => congrArg _ (Option.some.inj same)⟩

namespace Confined

variable {t t' : FileTree} {root destination : Path} {declared : List Value} {l : Location}

/-- Links stay, and so do directories. -/
theorem extend (confined : Confined t root declared t') : Extends t t' := by
  refine ⟨confined.cwd, fun l target => ?_, fun l directory => ?_⟩
  · cases confined.changes l with
    | same same => rw [same]
    | made accepted needed made =>
      rw [made, needed.missing]
      simp only [reduceCtorEq, Option.some.injEq]
    | written inside old written =>
      rw [written]
      rcases old with missing | ⟨content, file⟩
      · rw [missing]
        simp only [reduceCtorEq, Option.some.injEq]
      · rw [file]
        simp only [reduceCtorEq, Option.some.injEq]
  · cases confined.changes l with
    | same same => rw [same, directory]
    | made accepted needed made => exact made
    | written inside old written =>
      rw [directory] at old
      rcases old with missing | ⟨content, file⟩
      · cases missing
      · cases file

/-- What is not there was not there before. -/
theorem missing (confined : Confined t root declared t') (missing : t'.get? l = none) :
    t.get? l = none := by
  cases confined.changes l with
  | same same => rw [← same, missing]
  | made accepted needed made => exact needed.missing
  | written inside old written =>
    rw [missing] at written
    cases written

theorem accepted (confined : Confined t root declared t') {v : Value} {relative : Text}
    (among : v ∈ declared) (path : AssetStager.pathText v = .ok relative)
    (contained : t'.contained root relative = .ok destination) :
    Accepts t root declared destination := by
  obtain ⟨is, there, inside, resolved, resolvedRoot, below⟩ := contained_eq_ok.mp contained
  refine ⟨v, among, relative, path, contained_eq_ok.mpr ⟨is, there, inside, ?_, ?_, below⟩⟩
  · exact confined.extend.resolve_eq resolved
  · exact confined.extend.resolve_eq resolvedRoot

/-- A change of one more location leaves the other changes as they are. -/
theorem set (confined : Confined t root declared t') {e : Entry} (named : l ≠ [])
    (change : (t'.set l e).get? l = some e → Change t root declared (t'.set l e) l) :
    Confined t root declared (t'.set l e) := by
  refine ⟨confined.cwd, fun l' => ?_⟩
  have now := get?_set t' l l' e named
  by_cases same : l' = l
  · subst same
    rw [if_pos rfl] at now
    exact change now
  · rw [if_neg same] at now
    cases confined.changes l' with
    | same same => exact .same (now.trans same)
    | made accepted needed made => exact .made accepted needed (now.trans made)
    | written inside old written => exact .written inside old (now.trans written)

/-- A directory on the way of an accepted path can be made. -/
theorem make (confined : Confined t root declared t')
    (accepted : Accepts t root declared destination) {q : Path}
    (onWay : Disk.IsOnWay destination.parent q) (found : t'.locate false q = .ok (.free l)) :
    Confined t root declared (t'.set l .directory) := by
  have walks := walks_of_locate found
  obtain ⟨before, name, n, here, way, down, leads, rfl, missing⟩ := walks.free_name rfl
  have below : here ++ [name] ≠ [] := List.append_ne_nil_of_right_ne_nil _ (List.cons_ne_nil _ _)
  have needed : Needs t destination (here ++ [name]) := by
    obtain ⟨slashes, rest, split⟩ := onWay
    have more : destination.parts ≠ [] := by
      intro none
      rw [Path.parent, none, way] at split
      simp at split
    have whole := List.dropLast_concat_getLast more
    change q.parts ++ rest = destination.parts.dropLast at split
    rw [← split, way, List.append_assoc, List.append_assoc] at whole
    refine .intro whole.symm ?_ down ?_ (confined.missing missing)
    · simp
    · have asked := (locate_eq_ok.mp found).1
      have begins : before <+: q.parts := ⟨[name], way.symm⟩
      have start : t'.startOf q = t.startOf ⟨destination.slashes, before⟩ := by
        rw [startOf, startOf, Path.isAbsolute, Path.isAbsolute, confined.cwd, slashes]
        rfl
      rw [start] at leads
      exact (confined.extend.links.symm.leads leads).resolve_eq (askable_of_begins begins asked)
  exact confined.set below fun made => .made accepted needed made

/-- A file can be written where an accepted path leads. -/
theorem write (confined : Confined t root declared t')
    (accepted : Accepts t root declared destination) (opens : t'.Opens destination l)
    (content : Bytes) : Confined t root declared (t'.set l (.file content)) := by
  obtain ⟨v, among, relative, path, contained⟩ := accepted
  obtain ⟨is, there, inside, resolved, resolvedRoot, below⟩ := contained_eq_ok.mp contained
  have same := confined.extend.resolve_eq opens.resolve_eq
  rw [resolved] at same
  cases same
  have old : t.get? l = none ∨ ∃ content, t.get? l = some (.file content) := by
    rcases opens.old with missing | ⟨content, file⟩
    · exact .inl (confined.missing missing)
    · cases confined.changes l with
      | same same => exact .inr ⟨content, same ▸ file⟩
      | made accepted needed made => exact .inl needed.missing
      | written inside old written => exact old
  have named : l ≠ [] := by
    rintro rfl
    rcases old with missing | ⟨content, file⟩
    · cases missing
    · cases file
  exact confined.set named fun written => .written ⟨inside, resolvedRoot, below⟩ old written

end Confined

/-- Something is at the location. -/
def Present (l : Location) (t : FileTree) : Prop := t.get? l ≠ none

/-- Nothing is removed. -/
theorem Present.set {t : FileTree} {l : Location} (present : Present l t) (l' : Location)
    (e : Entry) : Present l (t.set l' e) := by
  rw [Present, get?] at present ⊢
  by_cases root : l.isEmpty = true
  · rw [if_pos root]
    exact Option.some_ne_none _
  · rw [if_neg root] at present ⊢
    rw [FileTree.set, lookup_setIn]
    split
    · exact Option.some_ne_none _
    · exact present

section Disk

variable {t : FileTree} {root destination p : Path} {declared : List Value} {l : Location}

theorem keeps_ensureDirectory (accepted : Accepts t root declared destination) :
    Keeps (Confined t root declared) (fun _ => True) (Disk.ensureDirectory destination.parent) :=
  Disk.keeps_ensureDirectory fun _ onWay _ _ confined found => confined.make accepted onWay found

theorem keeps_writeFile (accepted : Accepts t root declared destination) (content : Bytes) :
    Keeps (Confined t root declared) (fun _ => True) (Disk.writeFile destination content) :=
  Disk.keeps_writeFile fun _ _ content confined opens => confined.write accepted opens content

theorem keeps_writeText (accepted : Accepts t root declared destination) (text : Text) :
    Keeps (Confined t root declared) (fun _ => True) (Disk.writeText destination text) :=
  Disk.keeps_writeText fun _ _ content confined opens => confined.write accepted opens content

theorem keeps_present_ensureDirectory :
    Keeps (Present l) (fun _ => True) (Disk.ensureDirectory p) :=
  Disk.keeps_ensureDirectory fun _ _ _ l' present _ => present.set l' _

theorem keeps_present_writeFile (content : Bytes) :
    Keeps (Present l) (fun _ => True) (Disk.writeFile p content) :=
  Disk.keeps_writeFile fun _ l' _ present _ => present.set l' _

theorem keeps_present_writeText (text : Text) :
    Keeps (Present l) (fun _ => True) (Disk.writeText p text) :=
  Disk.keeps_writeText fun _ l' _ present _ => present.set l' _

/-- A location that is needed is there afterwards. -/
theorem ensures_ensureDirectory (accepted : Accepts t root declared destination)
    (needs : Needs t destination l) :
    Ensures (Confined t root declared) (Present l) (Disk.ensureDirectory destination.parent) := by
  intro t' confined a made
  have left := (keeps_ensureDirectory accepted t' confined).1
  have there := Disk.ensures_ensureDirectory destination.parent t' trivial a made
  generalize (perform (Disk.ensureDirectory destination.parent) t').2 = t'' at left there ⊢
  obtain ⟨way, more, down, resolved, -⟩ := needs
  rename_i before after name here
  have wayUp : destination.parent.parts = before ++ name :: after.dropLast := by
    rw [Path.parent, way, List.dropLast_append_of_ne_nil (List.cons_ne_nil _ _),
      List.dropLast_cons_of_ne_nil more]
  obtain ⟨n, here', leads, present⟩ := there before name _ wayUp down
  have start : t''.startOf destination.parent = t.startOf ⟨destination.slashes, before⟩ := by
    rw [startOf, startOf, left.cwd]
    rfl
  rw [start] at leads
  have same := (left.extend.links.symm.leads leads).resolve_eq (resolve_eq_ok.mp resolved).1
  rw [resolved] at same
  cases same
  exact present

end Disk

end FileTree

end HaxeBuild
