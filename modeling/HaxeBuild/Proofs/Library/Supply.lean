import HaxeBuild.Proofs.Library.Listing

namespace HaxeBuild

open Effect

namespace Request

theorem answer_of_accepted {r : Request} (is : r.accepted = true) : r.answer = .ok true := by
  rw [accepted] at is
  split at is
  · rename_i answer answered
    rw [answered, is]
  · cases is

/-- What a source said that failed. -/
def detail (r : Request) : Option Text :=
  match r.answer with
  | .ok _ => none
  | .error message => some message

/-- The error about a library that was not accepted. -/
def refusal (r : Request) : BuildError := .libraryInstall r.library.canonical r.detail

/-- The libraries that were accepted, in the order of the requests. -/
def acceptedOf (rs : List Request) : List LibraryReference :=
  (rs.filter (·.accepted)).map (·.library)

theorem acceptedOf_append (rs more : List Request) :
    acceptedOf (rs ++ more) = acceptedOf rs ++ acceptedOf more := by
  simp only [acceptedOf, List.filter_append, List.map_append]

/-- Libraries are asked for one after the other, up to the first one that is not accepted. -/
inductive Asks : List LibraryReference → List Request → Prop where
  | none : Asks [] []
  | accepted {l : LibraryReference} {answer : Except Text Bool} {ls : List LibraryReference}
      {rs : List Request} (is : (mk l answer).accepted = true) (rest : Asks ls rs) :
      Asks (l :: ls) (⟨l, answer⟩ :: rs)
  | refused {l : LibraryReference} {answer : Except Text Bool} {ls : List LibraryReference}
      (is : (mk l answer).accepted = false) : Asks (l :: ls) [⟨l, answer⟩]

namespace Asks

variable {ls : List LibraryReference} {rs : List Request}

/-- Libraries are asked for in their order. -/
theorem prefix_libraries (asks : Asks ls rs) : rs.map (·.library) <+: ls := by
  induction asks with
  | none => exact List.prefix_refl []
  | accepted is rest inductionHypothesis =>
    exact List.cons_prefix_cons.mpr ⟨rfl, inductionHypothesis⟩
  | refused is => exact List.cons_prefix_cons.mpr ⟨rfl, List.nil_prefix⟩

/-- Libraries are accepted in their order. -/
theorem prefix_accepted (asks : Asks ls rs) : acceptedOf rs <+: ls := by
  induction asks with
  | none => exact List.prefix_refl []
  | accepted is rest inductionHypothesis =>
    rw [acceptedOf, List.filter_cons_of_pos is]
    exact List.cons_prefix_cons.mpr ⟨rfl, inductionHypothesis⟩
  | refused is =>
    rw [acceptedOf, List.filter_cons_of_neg (by simp [is])]
    exact List.nil_prefix

/-- If every answer is an acceptance, all libraries were accepted. -/
theorem accepted_eq (asks : Asks ls rs) (all : ∀ r ∈ rs, r.accepted = true) :
    acceptedOf rs = ls := by
  induction asks with
  | none => rfl
  | accepted is rest inductionHypothesis =>
    have later := inductionHypothesis fun r among => all r (List.mem_cons_of_mem _ among)
    rw [acceptedOf, List.filter_cons_of_pos is, List.map_cons]
    exact congrArg _ later
  | refused is =>
    have contrary := all _ List.mem_cons_self
    rw [is] at contrary
    cases contrary

end Asks

/-- Requests end well if all are accepted. Otherwise the last one is the error. -/
inductive Ends {α : Type} (rs : List Request) (a : α) : Outcome α → Prop where
  | complete (all : ∀ r ∈ rs, r.accepted = true) : Ends rs a (.ok a)
  | stopped {r : Request} (last : rs.getLast? = some r) (is : r.accepted = false) :
      Ends rs a (.error r.refusal)

namespace Ends

variable {α β : Type} {rs : List Request} {a : α} {o : Outcome α}

/-- An accepted request does not end the asking. -/
theorem cons {r : Request} (is : r.accepted = true) (ends : Ends rs a o) :
    Ends (r :: rs) a o := by
  cases ends with
  | complete all => exact .complete (List.forall_mem_cons.mpr ⟨is, all⟩)
  | stopped last refused =>
    refine .stopped ?_ refused
    rw [List.getLast?_cons, last, Option.getD_some]

/-- An accepted request does not decide how the requests end. -/
theorem tail {r : Request} (ends : Ends (r :: rs) a o) (is : r.accepted = true) :
    Ends rs a o := by
  cases ends with
  | complete all => exact .complete (List.forall_mem_cons.mp all).2
  | @stopped r' last refused =>
    rw [List.getLast?_cons] at last
    cases later : rs.getLast? with
    | none =>
      rw [later, Option.getD_none] at last
      cases last
      rw [is] at refused
      cases refused
    | some other =>
      rw [later, Option.getD_some] at last
      cases last
      exact .stopped later refused

theorem map (f : α → β) (ends : Ends rs a o) : Ends rs (f a) (o.map f) := by
  cases ends with
  | complete all => exact .complete all
  | stopped last is => exact .stopped last is

end Ends

end Request

/-- The source answers requests one after the other and may change files each time. -/
inductive PackageSource.Answers (source : PackageSource) :
    List Request → FileTree → FileTree → Prop where
  | none {t : FileTree} : Answers source [] t t
  | next {l : LibraryReference} {answer : Except Text Bool} {t t' t'' : FileTree}
      {rs : List Request} (first : source l t = (answer, t')) (rest : Answers source rs t' t'') :
      Answers source (⟨l, answer⟩ :: rs) t t''

/-- Requests one after the other are answered on the tree that the earlier ones have left. -/
theorem PackageSource.Answers.append {source : PackageSource} {t t' t'' : FileTree}
    {rs more : List Request} (first : source.Answers rs t t') (rest : source.Answers more t' t'') :
    source.Answers (rs ++ more) t t'' := by
  induction first with
  | none => exact rest
  | next answer _ inductionHypothesis => exact .next answer (inductionHypothesis rest)

namespace LibraryManager

/-- The libraries that are not installed yet. -/
def pending (m : LibraryManager) (ls : List LibraryReference) : List LibraryReference :=
  ls.filter fun l => !m.installed.contains l.canonical

/-- The manager has further libraries installed. -/
def grow (m : LibraryManager) (ls : List LibraryReference) : LibraryManager :=
  { m with installed := m.installed ++ ls.map (·.canonical) }

@[simp] theorem grow_nil (m : LibraryManager) : m.grow [] = m := by
  simp only [grow, List.map_nil, List.append_nil]

/-- A manager that grows twice has grown by both. -/
theorem grow_grow (m : LibraryManager) (ls more : List LibraryReference) :
    (m.grow ls).grow more = m.grow (ls ++ more) := by
  simp only [grow, List.append_assoc, List.map_append]

/-- An installed library is not pending. -/
theorem pending_cons_of_installed {m : LibraryManager} {l : LibraryReference}
    (known : m.installed.contains l.canonical = true) (ls : List LibraryReference) :
    m.pending (l :: ls) = m.pending ls := by
  rw [pending, List.filter_cons, known]
  rfl

/-- A missing library is pending. -/
theorem pending_cons_of_missing {m : LibraryManager} {l : LibraryReference}
    (missing : m.installed.contains l.canonical = false) (ls : List LibraryReference) :
    m.pending (l :: ls) = l :: m.pending ls := by
  rw [pending, List.filter_cons, missing]
  rfl

@[simp] theorem pending_remember (m : LibraryManager) (subject : Subject)
    (ls : List LibraryReference) : (m.remember subject).pending ls = m.pending ls := by
  rw [pending, pending, remember_installed]

/-- Installing one library does not concern libraries of other canonical forms. -/
theorem pending_grow (m : LibraryManager) {l : LibraryReference} {ls : List LibraryReference}
    (others : ∀ other ∈ ls, l.canonical ≠ other.canonical) :
    (m.grow [l]).pending ls = m.pending ls := by
  simp only [pending, grow]
  refine List.filter_congr fun other among => ?_
  have differs := others other among
  simp [Ne.symm differs]

/-- What is left behind by requests to a source; the log may have changed on the way. -/
structure Asked (source : PackageSource) (w : World) (rs : List Request) (w' : World) : Prop where
  answers : source.Answers rs w.files w'.files
  asked : w'.asked = w.asked ++ rs
  runs : w'.runs = w.runs
  objects : w'.objects = w.objects

/-- An installed library is not asked for again. -/
theorem perform_install_installed (source : PackageSource) {l : LibraryReference}
    {m : LibraryManager} (w : World) (known : m.installed.contains l.canonical = true) :
    perform (install source l) (m, w) = (.ok (), (m, w)) := by
  simp only [install, perform_bind, Action.perform_state, known, if_true, perform_pure]

/-- A missing library is asked for; it is installed if it was accepted, and else there is an error.
-/
theorem perform_install (source : PackageSource) {l : LibraryReference} {m : LibraryManager}
    (w : World) (missing : m.installed.contains l.canonical = false) :
    ∃ answer w', Asked source w [⟨l, answer⟩] w' ∧
      ((Request.mk l answer).accepted = true ∧
          perform (install source l) (m, w) = (.ok (), (m.grow [l], w')) ∨
        (Request.mk l answer).accepted = false ∧
          perform (install source l) (m, w) = (.error (Request.mk l answer).refusal, (m, w'))) := by
  simp only [install, PackageSource.ask, perform_bind, Action.perform_state, missing,
    Bool.false_eq_true, if_false, Action.perform_log, Action.perform_files, Action.perform_onWorld,
    perform_pure]
  rcases answered : source l w.files with ⟨message | accepted, t⟩
  · refine ⟨.error message, _, ?_, .inr ⟨rfl, rfl⟩⟩
    exact ⟨.next answered .none, rfl, rfl, rfl⟩
  · cases accepted
    · refine ⟨.ok false, _, ?_, .inr ⟨rfl, rfl⟩⟩
      exact ⟨.next answered .none, rfl, rfl, rfl⟩
    · refine ⟨.ok true, _, ?_, .inl ⟨rfl, rfl⟩⟩
      exact ⟨.next answered .none, rfl, rfl, rfl⟩

/-- What installing libraries leads to: some of the missing ones are asked for, and the accepted
ones are installed from then on. -/
structure Supply (source : PackageSource) (m : LibraryManager) (w : World)
    (missing : List LibraryReference) (rs : List Request) (m' : LibraryManager) (w' : World) :
    Prop where
  asks : Request.Asks missing rs
  asked : Asked source w rs w'
  grown : m' = m.grow (Request.acceptedOf rs)

namespace Supply

variable {source : PackageSource} {m m' : LibraryManager} {w w' w'' : World}
  {l : LibraryReference} {answer : Except Text Bool} {missing : List LibraryReference}
  {rs : List Request}

theorem none (source : PackageSource) (m : LibraryManager) (w : World) :
    Supply source m w [] [] m w := by
  have asked : Asked source w [] w := ⟨.none, (List.append_nil _).symm, rfl, rfl⟩
  exact ⟨.none, asked, (grow_nil m).symm⟩

/-- After an accepted library the others are supplied. -/
theorem accepted (is : (Request.mk l answer).accepted = true)
    (first : Asked source w [⟨l, answer⟩] w')
    (rest : Supply source (m.grow [l]) w' missing rs m' w'') :
    Supply source m w (l :: missing) (⟨l, answer⟩ :: rs) m' w'' where
  asks := .accepted is rest.asks
  asked := by
    refine ⟨first.answers.append rest.asked.answers, ?_, ?_, ?_⟩
    · rw [rest.asked.asked, first.asked, List.append_assoc]
      rfl
    · rw [rest.asked.runs, first.runs]
    · rw [rest.asked.objects, first.objects]
  grown := by
    rw [rest.grown, grow_grow, Request.acceptedOf, Request.acceptedOf,
      List.filter_cons_of_pos is]
    rfl

/-- After a library that is not accepted no other is asked for. -/
theorem refused (is : (Request.mk l answer).accepted = false)
    (last : Asked source w [⟨l, answer⟩] w') :
    Supply source m w (l :: missing) [⟨l, answer⟩] m w' := by
  refine ⟨.refused is, last, ?_⟩
  rw [Request.acceptedOf, List.filter_cons_of_neg (by simp [is])]
  exact (grow_nil m).symm

end Supply

/-- The missing libraries are asked for one after the other, up to one that is not accepted. -/
theorem perform_installAll (source : PackageSource) {ls : List LibraryReference}
    (different : LibraryReference.AreDistinct ls) (m : LibraryManager) (w : World) :
    ∃ rs o m' w', perform (installAll source ls) (m, w) = (o, (m', w')) ∧
      Supply source m w (m.pending ls) rs m' w' ∧ Request.Ends rs () o := by
  induction ls generalizing m w with
  | nil => exact ⟨[], _, m, w, rfl, .none source m w, .complete (List.forall_mem_nil _)⟩
  | cons l ls inductionHypothesis =>
    have ⟨others, rest⟩ := List.pairwise_cons.mp different
    cases known : m.installed.contains l.canonical with
    | true =>
      simp only [installAll, perform_bind_ok (perform_install_installed source w known),
        pending_cons_of_installed known]
      exact inductionHypothesis rest m w
    | false =>
      rw [pending_cons_of_missing known]
      obtain ⟨answer, w', asked, ⟨accepted, done⟩ | ⟨refused, failed⟩⟩ :=
        perform_install source w known
      · obtain ⟨rs, o, m', w'', performed, supply, ends⟩ :=
          inductionHypothesis rest (m.grow [l]) w'
        rw [pending_grow m others] at supply
        simp only [installAll, perform_bind_ok done]
        exact ⟨⟨l, answer⟩ :: rs, o, m', w'', performed, .accepted accepted asked supply,
          ends.cons accepted⟩
      · simp only [installAll, perform_bind_error failed]
        exact ⟨_, _, m, w', rfl, .refused refused asked, .stopped rfl refused⟩

/-- So are the libraries that are required. -/
theorem perform_installRequired (source : PackageSource) {m : LibraryManager} {subject : Subject}
    {s : Option Settings} {ls : List LibraryReference} (listed : m.requiredNow subject s = .ok ls)
    (different : LibraryReference.AreDistinct ls) (w : World) :
    ∃ rs o m' w', perform (installRequired source subject s) (m, w) = (o, (m', w')) ∧
      Supply source (m.remember subject) w (m.pending ls) rs m' w' ∧ Request.Ends rs ls o := by
  have known := perform_required m subject s w
  rw [listed] at known
  simp only [installRequired, perform_bind_ok known, perform_bind_ok (Action.perform_log ..)]
  obtain ⟨rs, o, m', w', performed, supply, ends⟩ :=
    perform_installAll source different (m.remember subject)
      { w with log := w.log ++ [⟨.info, "Referenced libraries: " ++ shownNames ls⟩] }
  rw [pending_remember] at supply
  refine ⟨rs, o.map fun _ => ls, m', w', ?_, ?_, ends.map fun _ => ls⟩
  · rw [perform_bind_pure, performed]
  · have asked := supply.asked
    exact ⟨supply.asks, ⟨asked.answers, asked.asked, asked.runs, asked.objects⟩, supply.grown⟩

/-- The installed libraries are those that were accepted, and none of them was asked for again. -/
structure Ledger (m : LibraryManager) (asked : List Request) : Prop where
  installed : m.installed = (Request.acceptedOf asked).map (·.canonical)
  once : asked.Pairwise fun a b => a.accepted = true → b.library.canonical ≠ a.library.canonical

namespace Ledger

variable {source : PackageSource} {m m' : LibraryManager} {w w' : World}
  {required : List LibraryReference} {rs : List Request}

/-- What was accepted is installed. -/
theorem mem_installed {asked : List Request} {l : LibraryReference} (ledger : Ledger m asked)
    (accepted : l ∈ Request.acceptedOf asked) : l.canonical ∈ m.installed := by
  rw [ledger.installed]
  exact List.mem_map_of_mem accepted

/-- What is pending was never accepted. -/
theorem missing_of_mem_pending {l : LibraryReference} (ledger : Ledger m w.asked)
    (missing : l ∈ m.pending required) :
    ∀ r ∈ w.asked, r.accepted = true → l.canonical ≠ r.library.canonical := by
  intro r before accepted same
  have unknown := (List.mem_filter.mp missing).2
  have known : r.library.canonical ∈ m.installed :=
    ledger.mem_installed (List.mem_map_of_mem (List.mem_filter.mpr ⟨before, accepted⟩))
  rw [← same] at known
  simp [known] at unknown

/-- A reading of the program adds nothing to the ledger. -/
theorem remember (ledger : Ledger m w.asked) (subject : Subject) :
    Ledger (m.remember subject) w.asked :=
  ⟨(remember_installed m subject).trans ledger.installed, ledger.once⟩

/-- Nothing that was accepted is asked for when the missing libraries are supplied. -/
theorem supply (ledger : Ledger m w.asked) (different : LibraryReference.AreDistinct required)
    (supply : Supply source m w (m.pending required) rs m' w') : Ledger m' w'.asked := by
  have first := supply.asks.prefix_libraries
  rw [supply.asked.asked]
  constructor
  · rw [supply.grown, grow, ledger.installed, Request.acceptedOf_append, List.map_append]
  · refine List.pairwise_append.mpr ⟨ledger.once, ?_, ?_⟩
    · have apart : LibraryReference.AreDistinct (rs.map (·.library)) :=
        (different.filter _).sublist first.sublist
      refine (List.pairwise_map.mp apart).imp ?_
      intro a b differ _
      exact Ne.symm differ
    · intro r before r' later accepted
      have missing := first.subset (List.mem_map_of_mem later)
      exact ledger.missing_of_mem_pending missing r before accepted

end Ledger

/-- Of the required libraries the first ones were accepted, each once, and these are the ones that
are installed. -/
structure Stock (m : LibraryManager) (asked : List Request) (required : List LibraryReference) :
    Prop extends Ledger m asked where
  accepted : Request.acceptedOf asked <+: required

namespace Stock

variable {source : PackageSource} {m m' : LibraryManager} {w w' : World}
  {required rest : List LibraryReference} {rs : List Request}

/-- An empty manager is at the beginning of its stock. -/
theorem empty (m : LibraryManager) (required : List LibraryReference) (none : m.installed = []) :
    Stock m [] required :=
  ⟨⟨none, List.Pairwise.nil⟩, List.nil_prefix⟩

/-- What is missing is what comes after the accepted libraries. -/
theorem pending_eq (stock : Stock m w.asked required)
    (different : LibraryReference.AreDistinct required)
    (split : required = Request.acceptedOf w.asked ++ rest) : m.pending required = rest := by
  rw [split] at different
  have ⟨_, _, apart⟩ := List.pairwise_append.mp different
  have installed : ∀ l ∈ Request.acceptedOf w.asked,
      ¬ ((!m.installed.contains l.canonical) = true) := by
    intro l among
    simp [stock.mem_installed among]
  have missing : ∀ l ∈ rest, (!m.installed.contains l.canonical) = true := by
    intro l among
    have unknown : l.canonical ∉ m.installed := by
      rw [stock.installed]
      intro known
      obtain ⟨accepted, before, same⟩ := List.mem_map.mp known
      exact apart accepted before l among same
    simp [unknown]
  rw [split, pending, List.filter_append, List.filter_eq_nil_iff.mpr installed,
    List.filter_eq_self.mpr missing, List.nil_append]

/-- Supplying what is missing extends the stock. -/
theorem supply (stock : Stock m w.asked required)
    (different : LibraryReference.AreDistinct required)
    (supply : Supply source m w (m.pending required) rs m' w') : Stock m' w'.asked required := by
  obtain ⟨rest, split⟩ := stock.accepted
  refine ⟨stock.toLedger.supply different supply, ?_⟩
  rw [supply.asked.asked, Request.acceptedOf_append, ← split, List.prefix_append_right_inj,
    ← stock.pending_eq different split.symm]
  exact supply.asks.prefix_accepted

/-- If everything that was missing is accepted, then everything required is. -/
theorem complete (stock : Stock m w.asked required)
    (different : LibraryReference.AreDistinct required)
    (supply : Supply source m w (m.pending required) rs m' w')
    (all : ∀ r ∈ rs, r.accepted = true) : Request.acceptedOf w'.asked = required := by
  obtain ⟨rest, split⟩ := stock.accepted
  have missing := stock.pending_eq different split.symm
  rw [supply.asked.asked, Request.acceptedOf_append, supply.asks.accepted_eq all, missing, split]

end Stock

/-- The manager has read the libraries that a subject requires. -/
def Knows (m : LibraryManager) (subject : Subject) (s : Option Settings)
    (ls : List LibraryReference) : Prop :=
  ∃ declared, m.read.lookup subject.identity = some declared ∧
    LibraryReference.withSettings declared s = .ok ls

namespace Knows

variable {m : LibraryManager} {subject : Subject} {s : Option Settings}
  {ls : List LibraryReference}

/-- What was read does not depend on what was installed. -/
theorem grow (knows : m.Knows subject s ls) (more : List LibraryReference) :
    (m.grow more).Knows subject s ls :=
  knows

/-- What a manager knows it answers. -/
theorem requiredNow_eq (knows : m.Knows subject s ls) : m.requiredNow subject s = .ok ls := by
  obtain ⟨declared, known, joined⟩ := knows
  rw [requiredNow_eq_ok]
  refine ⟨declared, ?_, joined⟩
  rw [declaredNow, known]

/-- What a manager knows it does not read again. -/
theorem remember_eq (knows : m.Knows subject s ls) : m.remember subject = m := by
  obtain ⟨declared, known, -⟩ := knows
  exact remember_of_known known

/-- Asking what is required changes nothing once it is known. -/
theorem perform_required (knows : m.Knows subject s ls) (w : World) :
    perform (required subject s) (m, w) = (.ok ls, (m, w)) := by
  rw [LibraryManager.perform_required, knows.requiredNow_eq, knows.remember_eq]

/-- A manager that knows the required libraries asks for those that it misses. -/
theorem perform_installRequired (knows : m.Knows subject s ls)
    (different : LibraryReference.AreDistinct ls) (source : PackageSource) (w : World) :
    ∃ rs o m' w', perform (installRequired source subject s) (m, w) = (o, (m', w')) ∧
      Supply source m w (m.pending ls) rs m' w' ∧ Request.Ends rs ls o := by
  have installed := LibraryManager.perform_installRequired source knows.requiredNow_eq different w
  rw [knows.remember_eq] at installed
  exact installed

end Knows

/-- The manager can tell what the subject requires with the settings, and all of it is installed. -/
def Provides (m : LibraryManager) (subject : Subject) (s : Settings) : Prop :=
  ∃ required, m.Knows subject (some s) required ∧ ∀ l ∈ required, l.canonical ∈ m.installed

/-- What is provided stays provided while the manager forgets nothing. -/
theorem Provides.mono {m m' : LibraryManager} {subject : Subject} {s : Settings}
    (provides : m.Provides subject s) (read : m'.read = m.read)
    (installed : m.installed ⊆ m'.installed) : m'.Provides subject s := by
  obtain ⟨required, ⟨declared, known, joined⟩, all⟩ := provides
  refine ⟨required, ⟨declared, ?_, joined⟩, fun l among => installed (all l among)⟩
  rw [read]
  exact known

/-- Of the settings only the libraries matter. -/
theorem Provides.congr {m : LibraryManager} {subject : Subject} {s s' : Settings}
    (provides : m.Provides subject s) (same : s'.libraries = s.libraries) :
    m.Provides subject s' := by
  obtain ⟨required, ⟨declared, known, joined⟩, all⟩ := provides
  refine ⟨required, ⟨declared, known, ?_⟩, all⟩
  rw [LibraryReference.withSettings_congr same]
  exact joined

section Installation

variable {source : PackageSource} {m m' : LibraryManager} {w w' : World} {subject : Subject}
  {declared required : List LibraryReference} {s : Option Settings}
  {o : Outcome (List LibraryReference)}

/-- How an installation goes when the declared libraries are known: the settings name something that
is no library, or what is missing is asked for. -/
inductive Installation (source : PackageSource) (m : LibraryManager) (w : World)
    (declared : List LibraryReference) (s : Option Settings) :
    Outcome (List LibraryReference) → LibraryManager → World → Prop where
  | unreadable {e : BuildError} (bad : LibraryReference.withSettings declared s = .error e) :
      Installation source m w declared s (.error e) m w
  | asked {ls : List LibraryReference} {rs : List Request} {o : Outcome (List LibraryReference)}
      {m' : LibraryManager} {w' : World}
      (listed : LibraryReference.withSettings declared s = .ok ls)
      (supply : Supply source m w (m.pending ls) rs m' w') (ends : Request.Ends rs ls o) :
      Installation source m w declared s o m' w'

/-- An installation with a program that was read before goes as described. -/
theorem installation_of_read (read : m.read.lookup subject.identity = some declared)
    (different : LibraryReference.AreDistinct declared)
    (performed : perform (installRequired source subject s) (m, w) = (o, (m', w'))) :
    Installation source m w declared s o m' w' := by
  rcases joined : LibraryReference.withSettings declared s with e | ls
  · have listed := perform_required m subject s w
    rw [requiredNow, declaredNow, read, remember_of_known read] at listed
    change perform (required subject s) (m, w) =
      (LibraryReference.withSettings declared s, (m, w)) at listed
    rw [joined] at listed
    rw [installRequired, perform_bind_error listed] at performed
    cases performed
    exact .unreadable joined
  · have knows : m.Knows subject s ls := ⟨declared, read, joined⟩
    obtain ⟨rs, o', m1, w1, done, supply, ends⟩ := knows.perform_installRequired
      (LibraryReference.areDistinct_withSettings different joined) source w
    rw [done] at performed
    cases performed
    exact .asked joined supply ends

namespace Installation

/-- An installation reads no program again. -/
theorem read_eq (goes : Installation source m w declared s o m' w') : m'.read = m.read := by
  cases goes with
  | unreadable => rfl
  | asked listed supply =>
    rw [supply.grown]
    rfl

/-- It runs no process. -/
theorem runs_eq (goes : Installation source m w declared s o m' w') : w'.runs = w.runs := by
  cases goes with
  | unreadable => rfl
  | asked listed supply => exact supply.asked.runs

/-- It changes no object. -/
theorem objects_eq (goes : Installation source m w declared s o m' w') :
    w'.objects = w.objects := by
  cases goes with
  | unreadable => rfl
  | asked listed supply => exact supply.asked.objects

/-- It takes no library away. -/
theorem installed_subset (goes : Installation source m w declared s o m' w') :
    m.installed ⊆ m'.installed := by
  cases goes with
  | unreadable => exact List.Subset.refl _
  | asked listed supply =>
    rw [supply.grown]
    exact List.subset_append_left _ _

/-- It keeps the ledger. -/
theorem ledger (goes : Installation source m w declared s o m' w') (ledger : Ledger m w.asked)
    (different : LibraryReference.AreDistinct declared) : Ledger m' w'.asked := by
  cases goes with
  | unreadable => exact ledger
  | asked listed supply =>
    exact ledger.supply (LibraryReference.areDistinct_withSettings different listed) supply

/-- An installation that does not fail has everything installed that is required. -/
theorem provides {settings : Settings} {ls : List LibraryReference}
    (goes : Installation source m w declared (some settings) (.ok ls) m' w')
    (read : m.read.lookup subject.identity = some declared) : m'.Provides subject settings := by
  have same := goes.read_eq
  cases goes with
  | asked listed supply ends =>
    cases ends with
    | complete all =>
      refine ⟨ls, ⟨declared, same ▸ read, listed⟩, fun l among => ?_⟩
      rw [supply.grown, grow, supply.asks.accepted_eq all]
      by_cases known : l.canonical ∈ m.installed
      · exact List.mem_append_left _ known
      · have missing : l ∈ m.pending ls := List.mem_filter.mpr ⟨among, by simp [known]⟩
        exact List.mem_append_right _ (List.mem_map_of_mem missing)

/-- Of what is required the first libraries stay those that were accepted. -/
theorem stock (goes : Installation source m w declared s o m' w') (stock : Stock m w.asked required)
    (different : LibraryReference.AreDistinct declared)
    (joined : LibraryReference.withSettings declared s = .ok required) :
    Stock m' w'.asked required ∧ (o.toBool = true → Request.acceptedOf w'.asked = required) := by
  have apart := LibraryReference.areDistinct_withSettings different joined
  cases goes with
  | unreadable bad =>
    rw [joined] at bad
    cases bad
  | asked listed supply ends =>
    rw [joined] at listed
    cases listed
    refine ⟨stock.supply apart supply, fun succeeded => ?_⟩
    cases ends with
    | complete all => exact stock.complete apart supply all
    | stopped => cases succeeded

end Installation

end Installation

end LibraryManager

end HaxeBuild
