import HaxeBuild.Proofs.Files.Asking

namespace HaxeBuild.FileTree

/-- The steps lead from one location to another. Names that are missing or no link are just added;
the number counts the steps, those of links included. -/
inductive Leads (t : FileTree) : Nat → Location → List Text → Location → Prop where
  | here {l : Location} : Leads t 0 l [] l
  | up {n : Nat} {l m : Location} {rest : List Text} (further : Leads t n l.dropLast rest m) :
      Leads t (n + 1) l (".." :: rest) m
  | name {n : Nat} {l m : Location} {name : Text} {rest : List Text} (down : (name == "..") = false)
      (noLink : ∀ target, t.get? (l ++ [name]) ≠ some (.link target))
      (further : Leads t n (l ++ [name]) rest m) : Leads t (n + 1) l (name :: rest) m
  | link {n : Nat} {l m : Location} {name target : Text} {rest : List Text}
      (down : (name == "..") = false) (link : t.get? (l ++ [name]) = some (.link target))
      (further : Leads t n (targetStart l target) (targetSteps target ++ rest) m) :
      Leads t (n + 1) l (name :: rest) m

/-- A step goes up, follows a link, or adds a name. -/
inductive StepKind (t : FileTree) (l : Location) : Text → Prop where
  | up : StepKind t l ".."
  | link {name target : Text} (down : (name == "..") = false)
      (link : t.get? (l ++ [name]) = some (.link target)) : StepKind t l name
  | name {name : Text} (down : (name == "..") = false)
      (noLink : ∀ target, t.get? (l ++ [name]) ≠ some (.link target)) : StepKind t l name

theorem stepKind (t : FileTree) (l : Location) (name : Text) : StepKind t l name := by
  cases down : name == ".." with
  | true =>
    rw [eq_of_beq down]
    exact .up
  | false =>
    by_cases linked : ∃ target, t.get? (l ++ [name]) = some (.link target)
    · obtain ⟨target, link⟩ := linked
      exact .link down link
    · exact .name down fun target link => linked ⟨target, link⟩

namespace Leads

variable {t : FileTree} {n n' : Nat} {l m m' : Location} {steps more : List Text}

/-- There is one way only. -/
theorem unique (leads : Leads t n l steps m) (other : Leads t n' l steps m') :
    n' = n ∧ m' = m := by
  induction leads generalizing n' m' with
  | here =>
    cases other
    exact ⟨rfl, rfl⟩
  | up further inductionHypothesis =>
    cases other with
    | up also =>
      obtain ⟨rfl, rfl⟩ := inductionHypothesis also
      exact ⟨rfl, rfl⟩
    | name down => cases down
    | link down => cases down
  | name down noLink further inductionHypothesis =>
    cases other with
    | up also => cases down
    | name _ _ also =>
      obtain ⟨rfl, rfl⟩ := inductionHypothesis also
      exact ⟨rfl, rfl⟩
    | link _ link => exact absurd link (noLink _)
  | link down link further inductionHypothesis =>
    cases other with
    | up also => cases down
    | name _ noLink => exact absurd link (noLink _)
    | link _ same also =>
      rw [link] at same
      cases same
      obtain ⟨rfl, rfl⟩ := inductionHypothesis also
      exact ⟨rfl, rfl⟩

/-- A way can be stopped after any of its steps. -/
theorem split (leads : Leads t n l (steps ++ more) m') :
    ∃ k k' m, n = k + k' ∧ Leads t k l steps m ∧ Leads t k' m more m' := by
  generalize all : steps ++ more = together at leads
  induction leads generalizing steps more with
  | here =>
    obtain ⟨rfl, rfl⟩ := List.append_eq_nil_iff.mp all
    exact ⟨0, 0, _, rfl, .here, .here⟩
  | @up n l m rest further inductionHypothesis =>
    cases steps with
    | nil =>
      cases all
      exact ⟨0, n + 1, l, by omega, .here, .up further⟩
    | cons first others =>
      cases all
      obtain ⟨k, k', middle, rfl, start, finish⟩ := inductionHypothesis rfl
      exact ⟨k + 1, k', middle, by omega, .up start, finish⟩
  | @name n l m name rest down noLink further inductionHypothesis =>
    cases steps with
    | nil =>
      cases all
      exact ⟨0, n + 1, l, by omega, .here, .name down noLink further⟩
    | cons first others =>
      cases all
      obtain ⟨k, k', middle, rfl, start, finish⟩ := inductionHypothesis rfl
      exact ⟨k + 1, k', middle, by omega, .name down noLink start, finish⟩
  | @link n l m name target rest down link further inductionHypothesis =>
    cases steps with
    | nil =>
      cases all
      exact ⟨0, n + 1, l, by omega, .here, .link down link further⟩
    | cons first others =>
      cases all
      obtain ⟨k, k', middle, rfl, start, finish⟩ :=
        inductionHypothesis (List.append_assoc _ _ _)
      exact ⟨k + 1, k', middle, by omega, .link down link start, finish⟩

end Leads

/-- The two trees have the same links. -/
def SameLinks (t t' : FileTree) : Prop :=
  ∀ l target, t'.get? l = some (.link target) ↔ t.get? l = some (.link target)

namespace SameLinks

variable {t t' : FileTree} (same : SameLinks t t')

include same

theorem symm : SameLinks t' t := fun l target => (same l target).symm

theorem leads {n : Nat} {l m : Location} {steps : List Text} (leads : Leads t n l steps m) :
    Leads t' n l steps m := by
  induction leads with
  | here => exact .here
  | up further inductionHypothesis => exact .up inductionHypothesis
  | name down noLink further inductionHypothesis =>
    refine .name down (fun target link => ?_) inductionHypothesis
    exact noLink target ((same _ target).mp link)
  | link down link further inductionHypothesis =>
    exact .link down ((same _ _).mpr link) inductionHypothesis

end SameLinks

section Real

variable {t : FileTree} {depth : Nat} {active : List Location} {l : Location} {name target : Text}
  {rest : List Text}

theorem real_nil (depth : Nat) (active : List Location) (l : Location) :
    real t depth active l [] = .ok l := by
  cases depth <;> rfl

theorem real_up : real t depth active l (".." :: rest) = real t depth active l.dropLast rest := by
  cases depth <;> rfl

theorem real_name (down : (name == "..") = false)
    (noLink : ∀ target, t.get? (l ++ [name]) ≠ some (.link target)) :
    real t depth active l (name :: rest) = real t depth active (l ++ [name]) rest := by
  have passed (onLink) : realWith t onLink l (name :: rest) =
      realWith t onLink (l ++ [name]) rest := by
    rw [realWith, down]
    simp only [Bool.false_eq_true, if_false]
  cases depth with
  | zero => exact passed _
  | succ depth => exact passed _

theorem real_link_zero (down : (name == "..") = false)
    (link : t.get? (l ++ [name]) = some (.link target)) :
    real t 0 active l (name :: rest) = .error (onPaper (l ++ [name]) rest) := by
  rw [real, realWith, down, link]
  rfl

/-- A link is resolved before what comes after it, unless it is being resolved already. -/
theorem real_link (down : (name == "..") = false)
    (link : t.get? (l ++ [name]) = some (.link target)) :
    real t (depth + 1) active l (name :: rest) =
      if active.contains (l ++ [name]) then .error (onPaper (l ++ [name]) rest)
      else
        match real t depth ((l ++ [name]) :: active) (targetStart l target)
          (targetSteps target) with
        | .ok there => real t (depth + 1) active there rest
        | .error stuck => .error (onPaper stuck rest) := by
  rw [real, realWith, down, link]
  simp only [Bool.false_eq_true, if_false]
  by_cases busy : active.contains (l ++ [name]) = true
  · rw [if_pos busy, if_pos busy]
  · rw [if_neg busy]
    exact (if_neg busy).symm

end Real

/-- Links are all that matters when links are resolved. -/
theorem SameLinks.real_eq {t t' : FileTree} (same : SameLinks t t') (depth : Nat)
    (active : List Location) (l : Location) (steps : List Text) :
    real t' depth active l steps = real t depth active l steps := by
  induction depth generalizing active l steps with
  | zero =>
    induction steps generalizing l with
    | nil => rw [real_nil, real_nil]
    | cons name rest inductionHypothesis =>
      cases stepKind t l name with
      | up =>
        rw [real_up, real_up]
        exact inductionHypothesis _
      | link down link => rw [real_link_zero down link, real_link_zero down ((same _ _).mpr link)]
      | name down noLink =>
        rw [real_name down noLink, real_name down fun target link =>
          noLink target ((same _ _).mp link)]
        exact inductionHypothesis _
  | succ depth shallower =>
    induction steps generalizing l with
    | nil => rw [real_nil, real_nil]
    | cons name rest inductionHypothesis =>
      cases stepKind t l name with
      | up =>
        rw [real_up, real_up]
        exact inductionHypothesis _
      | link down link =>
        rw [real_link down link, real_link down ((same _ _).mpr link), shallower]
        simp only [inductionHypothesis]
      | name down noLink =>
        rw [real_name down noLink, real_name down fun target link =>
          noLink target ((same _ _).mp link)]
        exact inductionHypothesis _

/-- A path is resolved to where the links lead, or to where they are stuck. -/
theorem resolve_eq_ok {t : FileTree} {p : Path} {l : Location} :
    t.resolve p = .ok l ↔ askable p = .ok () ∧
      (real t (t.entries.length + 1) [] (t.startOf p) p.parts = .ok l ∨
        real t (t.entries.length + 1) [] (t.startOf p) p.parts = .error l ∧
          walk t true maxLinks [] l ≠ .error .tooManyLinks) := by
  rw [resolve, ← askableInTurn_eq_ok]
  cases asked : askableInTurn p with
  | error f =>
    constructor
    · intro impossible
      cases impossible
    · rintro ⟨impossible, -⟩
      cases impossible
  | ok _ =>
    dsimp only [bind, Except.bind, pure, Except.pure]
    cases real t (t.entries.length + 1) [] (t.startOf p) p.parts with
    | ok m => simp
    | error stuck =>
      simp only [reduceCtorEq, false_or, Except.error.injEq, true_and]
      split
      · rename_i looped
        constructor
        · intro impossible
          cases impossible
        · rintro ⟨rfl, other⟩
          exact absurd looped other
      · rename_i other
        constructor
        · intro same
          cases same
          exact ⟨rfl, other⟩
        · rintro ⟨rfl, -⟩
          rfl

/-- How many of the entries are not links that are being resolved. -/
def fresh (t : FileTree) (active : List Location) : Nat :=
  (t.entries.filter fun entry => !active.contains entry.1).length

theorem fresh_nil (t : FileTree) : fresh t [] = t.entries.length := by
  exact congrArg List.length (List.filter_eq_self.mpr fun _ _ => rfl)

/-- Every link that is being resolved is one less that can be met. -/
theorem fresh_cons {t : FileTree} {active : List Location} {l : Location} {target : Text}
    (link : t.get? l = some (.link target)) (idle : active.contains l = false) :
    fresh t (l :: active) < fresh t active := by
  have among : (l, Entry.link target) ∈ t.entries := by
    rw [get?] at link
    split at link
    · cases link
    · obtain ⟨before, after, split, -⟩ := List.lookup_eq_some_iff.mp link
      rw [split]
      exact List.mem_append_right _ List.mem_cons_self
  have fewer : (t.entries.filter fun entry => !(l :: active).contains entry.1) =
      (t.entries.filter fun entry => !active.contains entry.1).filter
        fun entry => !(entry.1 == l) := by
    rw [List.filter_filter]
    refine List.filter_congr fun entry _ => ?_
    rw [List.contains_cons, Bool.not_or]
  rw [fresh, fresh, fewer, List.length_filter_lt_length_iff_exists]
  refine ⟨_, List.mem_filter.mpr ⟨among, ?_⟩, ?_⟩
  · rw [idle]
    rfl
  · simp

/-- Resolving deeper than there are links makes no difference. -/
theorem real_succ {t : FileTree} {depth : Nat} {active : List Location}
    (enough : fresh t active < depth) (l : Location) (steps : List Text) :
    real t (depth + 1) active l steps = real t depth active l steps := by
  induction depth generalizing active l steps with
  | zero => exact absurd enough (Nat.not_lt_zero _)
  | succ depth shallower =>
    induction steps generalizing l with
    | nil => rw [real_nil, real_nil]
    | cons name rest inductionHypothesis =>
      cases stepKind t l name with
      | up =>
        rw [real_up, real_up]
        exact inductionHypothesis _
      | name down noLink =>
        rw [real_name down noLink, real_name down noLink]
        exact inductionHypothesis _
      | link down link =>
        rw [real_link down link, real_link down link]
        cases busy : active.contains (l ++ [name]) with
        | true => rfl
        | false =>
          have fewer := fresh_cons link busy
          rw [shallower (by omega)]
          simp only [inductionHypothesis]

theorem real_of_le {t : FileTree} {depth deeper : Nat} {active : List Location}
    (enough : fresh t active < depth) (le : depth ≤ deeper) (l : Location) (steps : List Text) :
    real t deeper active l steps = real t depth active l steps := by
  induction le with
  | refl => rfl
  | step le inductionHypothesis =>
    rw [real_succ (Nat.lt_of_lt_of_le enough le), inductionHypothesis]

/-- The links are being resolved, each in at least as many steps as are left. -/
def Busy (t : FileTree) (n : Nat) (active : List Location) : Prop :=
  ∀ a ∈ active, ∃ l name target k m, a = l ++ [name] ∧ t.get? a = some (.link target) ∧
    Leads t k (targetStart l target) (targetSteps target) m ∧ n ≤ k

theorem Busy.fewer {t : FileTree} {n n' : Nat} {active : List Location} (busy : Busy t n active)
    (fewer : n' ≤ n) : Busy t n' active := by
  intro a among
  obtain ⟨l, name, target, k, m, is, link, leads, enough⟩ := busy a among
  exact ⟨l, name, target, k, m, is, link, leads, Nat.le_trans fewer enough⟩

namespace Leads

variable {t : FileTree} {n : Nat} {l m : Location} {steps : List Text}

/-- What can be followed to its end is resolved. A link cannot be met while it is being resolved:
resolving it again would take more steps than are left. -/
theorem real_eq {depth : Nat} {active : List Location} (leads : Leads t n l steps m)
    (enough : fresh t active < depth) (busy : Busy t n active) :
    real t depth active l steps = .ok m := by
  induction n using Nat.strongRecOn generalizing depth active l steps m with
  | ind n inductionHypothesis =>
    cases leads with
    | here => exact real_nil ..
    | up further =>
      rw [real_up]
      exact inductionHypothesis _ (Nat.lt_succ_self _) further enough
        (busy.fewer (Nat.le_succ _))
    | name down noLink further =>
      rw [real_name down noLink]
      exact inductionHypothesis _ (Nat.lt_succ_self _) further enough
        (busy.fewer (Nat.le_succ _))
    | @link n _ _ name target rest down link further =>
      obtain ⟨k, k', there, rfl, first, second⟩ := further.split
      cases depth with
      | zero => exact absurd enough (Nat.not_lt_zero _)
      | succ depth =>
        have idle : active.contains (l ++ [name]) = false := by
          refine Bool.eq_false_iff.mpr fun met => ?_
          obtain ⟨l', name', target', k', m', is, again, resolved, longer⟩ :=
            busy _ (List.contains_iff_mem.mp met)
          obtain ⟨rfl, -⟩ := List.append_inj' is rfl
          rw [link] at again
          cases again
          have same := (first.unique resolved).1
          omega
        have fewer := fresh_cons link idle
        have target_eq : real t depth ((l ++ [name]) :: active) (targetStart l target)
            (targetSteps target) = .ok there := by
          refine inductionHypothesis k (by omega) first (by omega) ?_
          intro a among
          rcases List.mem_cons.mp among with rfl | among
          · exact ⟨l, name, target, k, there, rfl, link, first, Nat.le_refl k⟩
          · exact (busy.fewer (by omega)) a among
        rw [real_link down link, idle, target_eq]
        exact inductionHypothesis k' (by omega) second enough (busy.fewer (by omega))

/-- A path whose steps lead to a location is resolved to it. -/
theorem resolve_eq {p : Path} (leads : Leads t n (t.startOf p) p.parts m)
    (asked : askable p = .ok ()) : t.resolve p = .ok m := by
  have enough : fresh t [] < t.entries.length + 1 := by
    rw [fresh_nil]
    omega
  refine resolve_eq_ok.mpr ⟨asked, .inl ?_⟩
  exact leads.real_eq enough fun a impossible => nomatch impossible

end Leads

end HaxeBuild.FileTree
