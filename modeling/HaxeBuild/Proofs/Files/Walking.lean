import HaxeBuild.Proofs.Files.Leads

namespace HaxeBuild

def Spot.location : Spot → Location
  | entry l _ => l
  | free l => l

namespace FileTree

/-- What a walk does at its first step, and with what the whole walk then ends. -/
inductive FirstStep (t : FileTree) (followLast : Bool)
    (onLink : Location → List Text → Except Refusal Spot) (l : Location) :
    Text → List Text → Except Refusal Spot → Prop where
  | up {rest : List Text} {o : Except Refusal Spot}
      (further : walkWith t followLast onLink l.dropLast rest = o) :
      FirstStep t followLast onLink l ".." rest o
  | directory {name : Text} {rest : List Text} {o : Except Refusal Spot}
      (down : (name == "..") = false) (short : isTooLong name = false)
      (there : t.get? (l ++ [name]) = some .directory)
      (further : walkWith t followLast onLink (l ++ [name]) rest = o) :
      FirstStep t followLast onLink l name rest o
  | link {name target : Text} {rest : List Text} {o : Except Refusal Spot}
      (down : (name == "..") = false) (short : isTooLong name = false)
      (there : t.get? (l ++ [name]) = some (.link target))
      (followed : rest = [] → followLast = true)
      (further : onLink (targetStart l target) (targetSteps target ++ rest) = o) :
      FirstStep t followLast onLink l name rest o
  | file {name : Text} {content : Bytes} (down : (name == "..") = false)
      (short : isTooLong name = false) (there : t.get? (l ++ [name]) = some (.file content)) :
      FirstStep t followLast onLink l name [] (.ok (.entry (l ++ [name]) (.file content)))
  | lastLink {name target : Text} (down : (name == "..") = false)
      (short : isTooLong name = false) (there : t.get? (l ++ [name]) = some (.link target))
      (kept : followLast = false) :
      FirstStep t followLast onLink l name [] (.ok (.entry (l ++ [name]) (.link target)))
  | free {name : Text} (down : (name == "..") = false) (short : isTooLong name = false)
      (missing : t.get? (l ++ [name]) = none) :
      FirstStep t followLast onLink l name [] (.ok (.free (l ++ [name])))
  | tooLong {name : Text} {rest : List Text} (down : (name == "..") = false)
      (long : isTooLong name = true) :
      FirstStep t followLast onLink l name rest (.error .nameTooLong)
  | notFound {name : Text} {rest : List Text} (down : (name == "..") = false)
      (short : isTooLong name = false) (missing : t.get? (l ++ [name]) = none)
      (more : rest ≠ []) : FirstStep t followLast onLink l name rest (.error .notFound)
  | notDirectory {name : Text} {content : Bytes} {rest : List Text}
      (down : (name == "..") = false) (short : isTooLong name = false)
      (there : t.get? (l ++ [name]) = some (.file content)) (more : rest ≠ []) :
      FirstStep t followLast onLink l name rest (.error .notDirectory)

section FirstStep

variable {t : FileTree} {followLast : Bool} {onLink : Location → List Text → Except Refusal Spot}
  {l : Location} {name : Text} {rest : List Text} {o : Except Refusal Spot}

theorem firstStep (walked : walkWith t followLast onLink l (name :: rest) = o) :
    FirstStep t followLast onLink l name rest o := by
  rw [walkWith] at walked
  cases down : name == ".." with
  | true =>
    rw [down, if_pos rfl] at walked
    rw [eq_of_beq down]
    exact .up walked
  | false =>
    rw [down, if_neg Bool.false_ne_true] at walked
    cases short : isTooLong name with
    | true =>
      rw [short, if_pos rfl] at walked
      rw [← walked]
      exact .tooLong down short
    | false =>
      rw [short, if_neg Bool.false_ne_true] at walked
      rcases there : t.get? (l ++ [name]) with _ | _ | content | target <;>
        rw [there] at walked
      · cases rest <;> rw [← walked]
        · exact .free down short there
        · exact .notFound down short there (List.cons_ne_nil _ _)
      · exact .directory down short there walked
      · cases rest <;> rw [← walked]
        · exact .file down short there
        · exact .notDirectory down short there (List.cons_ne_nil _ _)
      · cases rest with
        | nil =>
          cases followLast with
          | true => exact .link down short there (fun _ => rfl) walked
          | false =>
            rw [← walked]
            exact .lastLink down short there rfl
        | cons => exact .link down short there nofun walked

theorem FirstStep.walkWith_eq (first : FirstStep t followLast onLink l name rest o) :
    walkWith t followLast onLink l (name :: rest) = o := by
  rw [walkWith]
  cases first with
  | up further => exact further
  | directory down short there further =>
    rw [down, short, there]
    exact further
  | @link name target rest o down short there followed further =>
    have goesOn : (rest.isEmpty && !followLast) = false := by
      cases rest with
      | nil => rw [followed rfl]; rfl
      | cons => rfl
    rw [down, short, there]
    simp only [goesOn, Bool.false_eq_true, if_false]
    exact further
  | file down short there =>
    rw [down, short, there]
    rfl
  | lastLink down short there kept =>
    rw [down, short, there, kept]
    rfl
  | free down short missing =>
    rw [down, short, missing]
    rfl
  | tooLong down long =>
    rw [down, long]
    rfl
  | notFound down short missing more =>
    rw [down, short, missing, List.isEmpty_eq_false_iff.mpr more]
    rfl
  | notDirectory down short there more =>
    rw [down, short, there, List.isEmpty_eq_false_iff.mpr more]
    rfl

end FirstStep

/-- The walks that succeed. All steps but the last have to be there. -/
inductive Walks (t : FileTree) (followLast : Bool) : Location → List Text → Spot → Prop where
  | here {l : Location} : Walks t followLast l [] (.entry l .directory)
  | up {l : Location} {rest : List Text} {spot : Spot}
      (further : Walks t followLast l.dropLast rest spot) :
      Walks t followLast l (".." :: rest) spot
  | directory {l : Location} {name : Text} {rest : List Text} {spot : Spot}
      (down : (name == "..") = false) (there : t.get? (l ++ [name]) = some .directory)
      (further : Walks t followLast (l ++ [name]) rest spot) :
      Walks t followLast l (name :: rest) spot
  | link {l : Location} {name target : Text} {rest : List Text} {spot : Spot}
      (down : (name == "..") = false) (there : t.get? (l ++ [name]) = some (.link target))
      (followed : rest = [] → followLast = true)
      (further : Walks t followLast (targetStart l target) (targetSteps target ++ rest) spot) :
      Walks t followLast l (name :: rest) spot
  | file {l : Location} {name : Text} {content : Bytes} (down : (name == "..") = false)
      (there : t.get? (l ++ [name]) = some (.file content)) :
      Walks t followLast l [name] (.entry (l ++ [name]) (.file content))
  | lastLink {l : Location} {name target : Text} (down : (name == "..") = false)
      (there : t.get? (l ++ [name]) = some (.link target)) (kept : followLast = false) :
      Walks t followLast l [name] (.entry (l ++ [name]) (.link target))
  | free {l : Location} {name : Text} (down : (name == "..") = false)
      (missing : t.get? (l ++ [name]) = none) : Walks t followLast l [name] (.free (l ++ [name]))

section Walks

variable {t : FileTree} {followLast : Bool} {l : Location} {steps : List Text} {spot : Spot}

theorem walks_of_walkWith {onLink : Location → List Text → Except Refusal Spot}
    (onLinks : ∀ l steps spot, onLink l steps = .ok spot → Walks t followLast l steps spot)
    (found : walkWith t followLast onLink l steps = .ok spot) :
    Walks t followLast l steps spot := by
  induction steps generalizing l with
  | nil =>
    cases found
    exact .here
  | cons name rest inductionHypothesis =>
    cases firstStep found with
    | up further => exact .up (inductionHypothesis further)
    | directory down _ there further => exact .directory down there (inductionHypothesis further)
    | link down _ there followed further =>
      exact .link down there followed (onLinks _ _ _ further)
    | file down _ there => exact .file down there
    | lastLink down _ there kept => exact .lastLink down there kept
    | free down _ missing => exact .free down missing

theorem walks_of_walk {links : Nat} (found : walk t followLast links l steps = .ok spot) :
    Walks t followLast l steps spot := by
  induction links generalizing l steps spot with
  | zero =>
    refine walks_of_walkWith ?_ found
    intro _ _ _ impossible
    cases impossible
  | succ links inductionHypothesis =>
    exact walks_of_walkWith (fun _ _ _ => inductionHypothesis) found

end Walks

namespace Walks

variable {t : FileTree} {followLast : Bool} {l : Location} {steps : List Text} {spot : Spot}

/-- The operating system finds what the links lead to. -/
theorem leads (walks : Walks t true l steps spot) : ∃ n, Leads t n l steps spot.location := by
  induction walks with
  | here => exact ⟨0, .here⟩
  | up further inductionHypothesis =>
    obtain ⟨n, leads⟩ := inductionHypothesis
    exact ⟨n + 1, .up leads⟩
  | directory down there further inductionHypothesis =>
    obtain ⟨n, leads⟩ := inductionHypothesis
    exact ⟨n + 1, .name down (by rw [there]; nofun) leads⟩
  | link down there followed further inductionHypothesis =>
    obtain ⟨n, leads⟩ := inductionHypothesis
    exact ⟨n + 1, .link down there leads⟩
  | file down there => exact ⟨1, .name down (by rw [there]; nofun) .here⟩
  | lastLink down there kept => cases kept
  | free down missing => exact ⟨1, .name down (by rw [missing]; nofun) .here⟩

theorem free_missing (walks : Walks t followLast l steps spot) {m : Location}
    (is : spot = .free m) : t.get? m = none := by
  induction walks with
  | here => cases is
  | up further inductionHypothesis => exact inductionHypothesis is
  | directory down there further inductionHypothesis => exact inductionHypothesis is
  | link down there followed further inductionHypothesis => exact inductionHypothesis is
  | file => cases is
  | lastLink => cases is
  | free down missing =>
    cases is
    exact missing

theorem file_there (walks : Walks t followLast l steps spot) {m : Location} {content : Bytes}
    (is : spot = .entry m (.file content)) : t.get? m = some (.file content) := by
  induction walks with
  | here => cases is
  | up further inductionHypothesis => exact inductionHypothesis is
  | directory down there further inductionHypothesis => exact inductionHypothesis is
  | link down there followed further inductionHypothesis => exact inductionHypothesis is
  | file down there =>
    cases is
    exact there
  | lastLink => cases is
  | free => cases is

/-- A walk can be cut before any of its steps. -/
theorem split {before more : List Text} (walks : Walks t followLast l (before ++ more) spot)
    (goesOn : more ≠ []) :
    ∃ n here, Leads t n l before here ∧ Walks t followLast here more spot := by
  generalize all : before ++ more = steps at walks
  induction walks generalizing before with
  | here => exact absurd (List.append_eq_nil_iff.mp all).2 goesOn
  | up further inductionHypothesis =>
    cases before with
    | nil =>
      cases all
      exact ⟨0, _, .here, .up further⟩
    | cons first before =>
      cases all
      obtain ⟨n, here, leads, walks⟩ := inductionHypothesis rfl
      exact ⟨n + 1, here, .up leads, walks⟩
  | directory down there further inductionHypothesis =>
    cases before with
    | nil =>
      cases all
      exact ⟨0, _, .here, .directory down there further⟩
    | cons first before =>
      cases all
      obtain ⟨n, here, leads, walks⟩ := inductionHypothesis rfl
      exact ⟨n + 1, here, .name down (by rw [there]; nofun) leads, walks⟩
  | link down there followed further inductionHypothesis =>
    cases before with
    | nil =>
      cases all
      exact ⟨0, _, .here, .link down there followed further⟩
    | cons first before =>
      cases all
      obtain ⟨n, here, leads, walks⟩ := inductionHypothesis (List.append_assoc _ _ _)
      exact ⟨n + 1, here, .link down there leads, walks⟩
  | file down there =>
    obtain ⟨rfl, rfl⟩ | ⟨-, rfl⟩ := List.append_eq_singleton_iff.mp all
    · exact ⟨0, _, .here, .file down there⟩
    · exact absurd rfl goesOn
  | lastLink down there kept =>
    obtain ⟨rfl, rfl⟩ | ⟨-, rfl⟩ := List.append_eq_singleton_iff.mp all
    · exact ⟨0, _, .here, .lastLink down there kept⟩
    · exact absurd rfl goesOn
  | free down missing =>
    obtain ⟨rfl, rfl⟩ | ⟨-, rfl⟩ := List.append_eq_singleton_iff.mp all
    · exact ⟨0, _, .here, .free down missing⟩
    · exact absurd rfl goesOn

/-- The first name is there, or it is the last one and free. -/
theorem head {name : Text} {rest : List Text} (walks : Walks t followLast l (name :: rest) spot)
    (down : (name == "..") = false) :
    t.get? (l ++ [name]) ≠ none ∨ spot = .free (l ++ [name]) := by
  cases walks with
  | up => cases down
  | directory _ there => exact .inl (by rw [there]; nofun)
  | link _ there => exact .inl (by rw [there]; nofun)
  | file _ there => exact .inl (by rw [there]; nofun)
  | lastLink _ there => exact .inl (by rw [there]; nofun)
  | free => exact .inr rfl

/-- A name that is free, also as a link, is the last one of the path. -/
theorem free_name (walks : Walks t false l steps spot) {m : Location} (is : spot = .free m) :
    ∃ before, ∃ name : Text, ∃ n here, steps = before ++ [name] ∧ (name == "..") = false ∧
      Leads t n l before here ∧ m = here ++ [name] ∧ t.get? m = none := by
  cases is
  rcases List.eq_nil_or_concat steps with rfl | ⟨before, name, rfl⟩
  · cases walks
  · rw [List.concat_eq_append] at walks ⊢
    obtain ⟨n, here, leads, last⟩ := walks.split (List.cons_ne_nil _ _)
    cases last with
    | up further => cases further
    | directory _ _ further => cases further
    | link _ _ followed => cases followed rfl
    | free down missing => exact ⟨before, name, n, here, rfl, down, leads, rfl, missing⟩

/-- Every name on the way is there; only the last one may be free. -/
theorem passes (walks : Walks t followLast l steps spot) {before after : List Text} {name : Text}
    (is : steps = before ++ name :: after) (down : (name == "..") = false) :
    ∃ n here, Leads t n l before here ∧
      (t.get? (here ++ [name]) ≠ none ∨ spot = .free (here ++ [name])) := by
  rw [is] at walks
  obtain ⟨n, here, leads, further⟩ := walks.split (List.cons_ne_nil _ _)
  exact ⟨n, here, leads, further.head down⟩

end Walks

/-- The later tree has the same links, and all directories of the earlier one. -/
structure Extends (t t' : FileTree) : Prop where
  cwd : t'.cwd = t.cwd
  links : SameLinks t t'
  directories : ∀ l, t.get? l = some .directory → t'.get? l = some .directory

namespace Extends

variable {t t' : FileTree}

/-- A walk that meets too many links still meets them when there are more directories. -/
theorem walkWith_tooManyLinks (extend : Extends t t') {followLast : Bool}
    {onLink onLink' : Location → List Text → Except Refusal Spot}
    (onLinks : ∀ l steps, onLink l steps = .error .tooManyLinks →
      onLink' l steps = .error .tooManyLinks)
    {l : Location} {steps : List Text}
    (failed : walkWith t followLast onLink l steps = .error .tooManyLinks) :
    walkWith t' followLast onLink' l steps = .error .tooManyLinks := by
  induction steps generalizing l with
  | nil => cases failed
  | cons name rest inductionHypothesis =>
    refine FirstStep.walkWith_eq ?_
    cases firstStep failed with
    | up further => exact .up (inductionHypothesis further)
    | directory down short there further =>
      exact .directory down short (extend.directories _ there) (inductionHypothesis further)
    | link down short there followed further =>
      exact .link down short ((extend.links _ _).mpr there) followed (onLinks _ _ further)

theorem walk_tooManyLinks (extend : Extends t t') {followLast : Bool} {links : Nat} {l : Location}
    {steps : List Text} (failed : walk t followLast links l steps = .error .tooManyLinks) :
    walk t' followLast links l steps = .error .tooManyLinks := by
  induction links generalizing l steps with
  | zero => exact extend.walkWith_tooManyLinks (fun _ _ => id) failed
  | succ links inductionHypothesis =>
    exact extend.walkWith_tooManyLinks (fun _ _ => inductionHypothesis) failed

theorem real_eq (extend : Extends t t') (l : Location) (steps : List Text) :
    real t' (t'.entries.length + 1) [] l steps = real t (t.entries.length + 1) [] l steps := by
  have enough (t : FileTree) : fresh t [] < t.entries.length + 1 := by
    rw [fresh_nil]
    omega
  have deep := Nat.le_max_left (t.entries.length + 1) (t'.entries.length + 1)
  have deep' := Nat.le_max_right (t.entries.length + 1) (t'.entries.length + 1)
  rw [← real_of_le (enough t) deep, ← real_of_le (enough t') deep', extend.links.real_eq]

/-- A path that is resolved later was resolved to the same location before. -/
theorem resolve_eq (extend : Extends t t') {p : Path} {l : Location}
    (resolved : t'.resolve p = .ok l) : t.resolve p = .ok l := by
  have start : t'.startOf p = t.startOf p := by rw [startOf, startOf, extend.cwd]
  rw [resolve_eq_ok, extend.real_eq, start] at resolved
  obtain ⟨asked, there | ⟨stuck, ends⟩⟩ := resolved
  · exact resolve_eq_ok.mpr ⟨asked, .inl there⟩
  · refine resolve_eq_ok.mpr ⟨asked, .inr ⟨stuck, ?_⟩⟩
    intro looped
    exact ends (extend.walk_tooManyLinks looped)

end Extends

end FileTree

end HaxeBuild
