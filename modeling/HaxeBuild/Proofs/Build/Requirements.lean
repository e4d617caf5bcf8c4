import HaxeBuild.Proofs.Build.History
import HaxeBuild.Proofs.Library.Supply

namespace HaxeBuild

open Effect

/-- States that are entered once the libraries are installed. -/
def BuildState.isSupplied : BuildState → Bool
  | created => false
  | sourceGenerated => false
  | librariesInstalled => true
  | assetsStaged => true
  | compiled => true
  | ran => true

/-- The settings name the libraries that they named when the build was created: no template has
changed the list. -/
def BuildPlan.Unaltered (p : BuildPlan) (o : Objects) : Prop :=
  (p.settingsNow o).libraries = p.settings.libraries

theorem BuildPlan.unaltered_of_unchanged {p : BuildPlan} {o : Objects} (unchanged : o.changed = []) :
    p.Unaltered o :=
  Objects.list_of_unchanged unchanged .settingsLibraries p.settings.libraries

namespace Session

/-- The session has read what its program declared at first. What its manager has installed is what
was accepted, and that was not asked for again. -/
structure Stocked (s : Session) (w : World) (declared : List LibraryReference) : Prop where
  read : s.libraries.read.lookup s.plan.subject.identity = some declared
  different : LibraryReference.AreDistinct declared
  ledger : s.libraries.Ledger w.asked

theorem IsNew.stocked {s : Session} {required : List LibraryReference} (new : IsNew s required)
    (w : World) (nothing : w.asked = []) : ∃ declared, Stocked s w declared ∧
      LibraryReference.withSettings declared (some s.plan.settings) = .ok required := by
  obtain ⟨declared, known, joined, libraries⟩ := new.read
  refine ⟨declared, ⟨?_, LibraryReference.areDistinct_declared known, ?_⟩, joined⟩
  · rw [libraries]
    exact List.lookup_cons_self
  · rw [libraries, nothing]
    exact ⟨rfl, List.Pairwise.nil⟩

namespace Stocked

variable {source : PackageSource} {s s' : Session} {w w' : World}
  {declared : List LibraryReference}

/-- Nothing else of a session and of the world matters. -/
theorem keep (stocked : Stocked s w declared) (libraries : s'.libraries = s.libraries)
    (asked : w'.asked = w.asked) : Stocked s' w' declared where
  read := by
    rw [libraries]
    exact stocked.read
  different := stocked.different
  ledger := by
    rw [libraries, asked]
    exact stocked.ledger

theorem follows (stocked : Stocked s w declared) (since : Follows s w s' w') :
    Stocked s' w' declared :=
  stocked.keep since.libraries since.asked

/-- How a compilation installs libraries. -/
theorem installation (stocked : Stocked s w declared) {cleared : World} {settings : Settings}
    {o : Outcome (List LibraryReference)} {m : LibraryManager}
    (performed : perform (LibraryManager.installRequired source s.plan.subject (some settings))
      (s.libraries, cleared) = (o, (m, w'))) :
    LibraryManager.Installation source s.libraries cleared declared (some settings) o m w' :=
  LibraryManager.installation_of_read stocked.read stocked.different performed

/-- An installation adds to the stock, also if it fails. -/
theorem installed (stocked : Stocked s w declared) {cleared : World} (is : Cleared s w cleared)
    {settings : Settings} {o : Outcome (List LibraryReference)} {m : LibraryManager}
    (performed : perform (LibraryManager.installRequired source s.plan.subject (some settings))
      (s.libraries, cleared) = (o, (m, w'))) :
    Stocked { s with libraries := m } w' declared ∧ w'.runs = w.runs := by
  have goes := stocked.installation performed
  have ledger : s.libraries.Ledger cleared.asked := by
    rw [is.asked]
    exact stocked.ledger
  refine ⟨⟨?_, stocked.different, goes.ledger ledger stocked.different⟩, ?_⟩
  · change m.read.lookup _ = _
    rw [goes.read_eq]
    exact stocked.read
  · rw [goes.runs_eq, is.runs]

theorem supplied (stocked : Stocked s w declared) (is : Supplied source s w s' w') :
    Stocked s' w' declared ∧ w'.runs = w.runs := by
  obtain ⟨cleared, installed⟩ := is
  have ⟨now, runs⟩ := stocked.installed cleared installed
  exact ⟨now.keep rfl rfl, runs⟩

/-- The phases after the installation do not change the stock. -/
theorem since (stocked : Stocked s w declared)
    (is : ∃ s1 w1, Supplied source s w s1 w1 ∧ Follows s1 w1 s' w') :
    Stocked s' w' declared ∧ w'.runs = w.runs := by
  obtain ⟨s1, w1, supplied, since⟩ := is
  have ⟨now, runs⟩ := stocked.supplied supplied
  exact ⟨now.follows since, since.runs.trans runs⟩

theorem compiled {runner : ProcessRunner} {check : Bool} {o : Outcome Bool}
    (stocked : Stocked s w declared) (exit : CompileExit source runner check s w o s' w') :
    Stocked s' w' declared := by
  cases exit with
  | outOfOrder => exact stocked
  | uncleared => exact stocked.keep rfl rfl
  | unsupplied cleared refused => exact (stocked.installed cleared refused).1
  | unstaged supplied unfinished =>
    exact (stocked.supplied supplied).1.follows (follows_of_stage _ unfinished)
  | unrendered staged unfinished =>
    exact (stocked.since staged.follows).1.follows (follows_of_renderFiles unfinished)
  | unprepared rendered unfinished =>
    exact (stocked.since rendered.follows).1.follows (exit_of_prepareCommand unfinished).follows
  | finished prepared exit =>
    have now := (stocked.since prepared.follows).1
    cases exit with
    | unstarted ran => exact now.keep rfl ran.asked
    | failed ran => exact now.keep rfl ran.asked
    | succeeded ran => exact now.keep rfl ran.asked

/-- No call breaks the relation to what was accepted. -/
theorem goes {call : Call} {o : Outcome Answer} (stocked : Stocked s w declared)
    (goes : Goes s w call o s' w') : Stocked s' w' declared := by
  cases goes with
  | buildSource exit => cases exit <;> exact stocked.keep rfl rfl
  | compile exit => exact stocked.compiled exit
  | run exit =>
    cases exit with
    | outOfOrder => exact stocked
    | unprobed => exact stocked
    | missing => exact stocked.keep rfl rfl
    | unstarted ready present ran => exact stocked.keep rfl ran.asked
    | ran ready present ran => exact stocked.keep rfl ran.asked
  | render => exact stocked.keep rfl rfl
  | added => exact stocked.keep rfl rfl
  | refused => exact stocked.keep rfl rfl
  | changeProgram => exact stocked.keep rfl rfl
  | changeFiles => exact stocked.keep rfl rfl

/-- A compilation that calls its runner has prepared a command. -/
theorem finished_of_ran {runner : ProcessRunner} {check : Bool} {o : Outcome Bool}
    (stocked : Stocked s w declared) (exit : CompileExit source runner check s w o s' w')
    (ran : w'.runs ≠ w.runs) :
    ∃ binary arguments s1 w1, Prepared source s w binary arguments s1 w1 ∧
      ToolchainExit runner check ⟨s.plan.srcFolder, binary, arguments, true⟩ s1 w1 o s' w' := by
  cases exit with
  | outOfOrder => exact absurd rfl ran
  | uncleared => exact absurd rfl ran
  | unsupplied cleared refused => exact absurd (stocked.installed cleared refused).2 ran
  | unstaged supplied unfinished =>
    have before := (stocked.supplied supplied).2
    exact absurd ((follows_of_stage .created unfinished).runs.trans before) ran
  | unrendered staged unfinished =>
    have before := (stocked.since staged.follows).2
    exact absurd ((follows_of_renderFiles unfinished).runs.trans before) ran
  | unprepared rendered unfinished =>
    have before := (stocked.since rendered.follows).2
    exact absurd ((exit_of_prepareCommand unfinished).follows.runs.trans before) ran
  | finished prepared exit => exact ⟨_, _, _, _, prepared, exit⟩

end Stocked

theorem Reached.stocked {past : List Moment} {s : Session} {w : World}
    (reached : Reached past s w) : ∃ declared, Stocked s w declared := by
  induction reached with
  | created t clock made =>
    obtain ⟨required, new⟩ := isNew_of_new made
    refine (new.stocked _ ?_).imp fun _ => And.left
    rfl
  | next reached call inductionHypothesis =>
    obtain ⟨declared, stocked⟩ := inductionHypothesis
    exact ⟨declared, stocked.goes (goes_call call _ _)⟩

/-! ### The libraries of the settings as they were at first -/

/-- The session was created for the libraries: its list of flags is the one that was made for them,
and the first of them are those that were accepted. -/
structure Accounted (s : Session) (w : World) (declared required : List LibraryReference) :
    Prop extends Stocked s w declared where
  joined : LibraryReference.withSettings declared (some s.plan.settings) = .ok required
  accepted : Request.acceptedOf w.asked <+: required
  flags : s.parameters.get? "haxeExtraFlags" =
    some (BuildList.extraFlags.value ((LibraryManager.flags required).map .flag))

namespace Accounted

variable {source : PackageSource} {s s' : Session} {w w' : World}
  {declared required : List LibraryReference}

theorem of_new (new : IsNew s required) (nothing : w.asked = []) :
    ∃ declared, Accounted s w declared required := by
  obtain ⟨declared, stocked, joined⟩ := new.stocked w nothing
  refine ⟨declared, stocked, joined, ?_, ?_⟩
  · rw [nothing]
    exact List.nil_prefix
  · rw [new.parameters]
    rfl

/-- What a call leaves of the requests decides whether everything is still accounted for. -/
theorem goes_of {call : Call} {o : Outcome Answer} (accounted : Accounted s w declared required)
    (goes : Goes s w call o s' w') (settings : s'.plan.settings = s.plan.settings)
    (accepted : Request.acceptedOf w'.asked <+: required) : Accounted s' w' declared required where
  toStocked := accounted.toStocked.goes goes
  joined := by
    rw [settings]
    exact accounted.joined
  accepted := accepted
  flags := Parameters.get?_of_prefix goes.grows.first accounted.flags

/-- While the settings name what they named at first, an installation asks for what is missing of
the libraries. -/
theorem installed (accounted : Accounted s w declared required) {cleared : World}
    (is : Cleared s w cleared) (unaltered : s.plan.Unaltered w.objects)
    {o : Outcome (List LibraryReference)} {m : LibraryManager}
    (performed : perform (LibraryManager.installRequired source s.plan.subject
      (some (s.plan.settingsNow w.objects))) (s.libraries, cleared) = (o, (m, w'))) :
    Request.acceptedOf w'.asked <+: required ∧
      (o.toBool = true → Request.acceptedOf w'.asked = required) := by
  have goes := accounted.toStocked.installation performed
  have stock : s.libraries.Stock cleared.asked required := by
    rw [is.asked]
    exact ⟨accounted.ledger, accounted.accepted⟩
  have joined := LibraryReference.withSettings_congr unaltered |>.trans accounted.joined
  have ⟨now, complete⟩ := goes.stock stock accounted.different joined
  exact ⟨now.accepted, complete⟩

/-- Once the libraries are installed, all of them are accepted. -/
theorem accepted_eq (accounted : Accounted s w declared required)
    (unaltered : s.plan.Unaltered w.objects)
    (is : ∃ s1 w1, Supplied source s w s1 w1 ∧ Follows s1 w1 s' w') :
    Request.acceptedOf w'.asked = required := by
  obtain ⟨s1, w1, ⟨cleared, installed⟩, since⟩ := is
  rw [since.asked]
  exact (accounted.installed cleared unaltered installed).2 rfl

theorem compiled {runner : ProcessRunner} {check : Bool} {o : Outcome Bool}
    (accounted : Accounted s w declared required) (unaltered : s.plan.Unaltered w.objects)
    (exit : CompileExit source runner check s w o s' w') :
    s'.plan = s.plan ∧ Request.acceptedOf w'.asked <+: required := by
  have whole {s1 : Session} {w1 : World}
      (is : ∃ s0 w0, Supplied source s w s0 w0 ∧ Follows s0 w0 s1 w1) :
      s1.plan = s.plan ∧ Request.acceptedOf w1.asked <+: required := by
    have all := accounted.accepted_eq unaltered is
    obtain ⟨s0, w0, supplied, since⟩ := is
    exact ⟨since.plan.trans supplied.plan_eq, all ▸ List.prefix_refl required⟩
  have onwards {s1 s2 : Session} {w1 w2 : World} (since : Follows s1 w1 s2 w2)
      (is : ∃ s0 w0, Supplied source s w s0 w0 ∧ Follows s0 w0 s1 w1) :
      ∃ s0 w0, Supplied source s w s0 w0 ∧ Follows s0 w0 s2 w2 := by
    obtain ⟨s0, w0, supplied, first⟩ := is
    exact ⟨s0, w0, supplied, first.trans since⟩
  cases exit with
  | outOfOrder => exact ⟨rfl, accounted.accepted⟩
  | uncleared => exact ⟨rfl, accounted.accepted⟩
  | unsupplied cleared refused => exact ⟨rfl, (accounted.installed cleared unaltered refused).1⟩
  | unstaged supplied unfinished =>
    exact whole ⟨_, _, supplied, follows_of_stage _ unfinished⟩
  | unrendered staged unfinished =>
    exact whole (onwards (follows_of_renderFiles unfinished) staged.follows)
  | unprepared rendered unfinished =>
    exact whole (onwards (exit_of_prepareCommand unfinished).follows rendered.follows)
  | finished prepared exit =>
    have ⟨plan, first⟩ := whole prepared.follows
    cases exit with
    | unstarted ran => exact ⟨plan, ran.asked ▸ first⟩
    | failed ran => exact ⟨plan, ran.asked ▸ first⟩
    | succeeded ran => exact ⟨plan, ran.asked ▸ first⟩

/-- Only a compilation after a change of the settings can ask for anything else. -/
theorem goes {call : Call} {o : Outcome Answer} (accounted : Accounted s w declared required)
    (unaltered : ∀ source runner check, call = .compile source runner check →
      s.plan.Unaltered w.objects)
    (goes : Goes s w call o s' w') : Accounted s' w' declared required := by
  have goes' := goes
  cases goes with
  | buildSource exit =>
    cases exit <;> exact accounted.goes_of goes' rfl accounted.accepted
  | compile exit =>
    have ⟨plan, accepted⟩ := accounted.compiled (unaltered _ _ _ rfl) exit
    exact accounted.goes_of goes' (congrArg _ plan) accepted
  | run exit =>
    cases exit with
    | outOfOrder => exact accounted
    | unprobed => exact accounted
    | missing => exact accounted.goes_of goes' rfl accounted.accepted
    | unstarted ready present ran =>
      exact accounted.goes_of goes' rfl (ran.asked ▸ accounted.accepted)
    | ran ready present ran =>
      exact accounted.goes_of goes' rfl (ran.asked ▸ accounted.accepted)
  | render => exact accounted.goes_of goes' rfl accounted.accepted
  | added => exact accounted.goes_of goes' rfl accounted.accepted
  | refused => exact accounted.goes_of goes' rfl accounted.accepted
  | changeProgram => exact accounted.goes_of goes' rfl accounted.accepted
  | changeFiles => exact accounted.goes_of goes' rfl accounted.accepted

end Accounted

def Moment.Compiles (m : Moment) : Prop :=
  ∃ source runner check, m.call = .compile source runner check

/-- Whenever it was compiled so far, the settings named what they had named at first. -/
def NeverAltered (past : List Moment) : Prop :=
  ∀ m ∈ past, m.Compiles → m.before.1.plan.Unaltered m.before.2.objects

theorem neverAltered_of_unchanged {past : List Moment}
    (unchanged : ∀ m ∈ past, m.before.2.objects.changed = []) : NeverAltered past :=
  fun m among _ => BuildPlan.unaltered_of_unchanged (unchanged m among)

theorem Reached.accounted {past : List Moment} {s : Session} {w : World}
    (reached : Reached past s w) (never : NeverAltered past) :
    ∃ declared required, Accounted s w declared required := by
  induction reached with
  | created t clock made =>
    obtain ⟨required, new⟩ := isNew_of_new made
    refine (Accounted.of_new new ?_).imp fun declared accounted => ⟨required, accounted⟩
    rfl
  | @next past s w reached call inductionHypothesis =>
    have ⟨latest, earlier⟩ := List.forall_mem_cons.mp never
    obtain ⟨declared, required, accounted⟩ := inductionHypothesis earlier
    refine ⟨declared, required, accounted.goes ?_ (goes_call call s w)⟩
    exact fun source runner check is => latest ⟨source, runner, check, is⟩

/-- The flags that templates see name the libraries that were accepted, in their order. -/
def FlagsAccepted (s : Session) (w : World) : Prop :=
  (s.parameters.get? "haxeExtraFlags").map w.objects.now =
    some (BuildList.extraFlags.value
      ((Request.acceptedOf w.asked).map fun l => .flag ⟨"-lib", l.haxeSpec⟩))

/-- No template has changed the list of flags. -/
def FlagsKept (s : Session) (w : World) : Prop :=
  (s.parameters.get? "haxeExtraFlags").map w.objects.now = s.parameters.get? "haxeExtraFlags"

theorem flagsKept_of_unchanged {s : Session} {w : World} (unchanged : w.objects.changed = []) :
    FlagsKept s w := by
  rw [FlagsKept]
  cases s.parameters.get? "haxeExtraFlags" with
  | none => rfl
  | some flags => exact congrArg some (Objects.now_of_unchanged unchanged flags)

/-- What was accepted is not asked for again. If no compilation has found the libraries of the
settings changed, then the flags name what was accepted whenever a compilation has called its
runner, unless a template has changed the list of flags. -/
theorem flags_accepted {past : List Moment} {s : Session} {w : World}
    (reached : Reached past s w) :
    (w.asked.Pairwise fun a b => a.accepted = true → b.library.canonical ≠ a.library.canonical) ∧
      (NeverAltered past → s.plan.Unaltered w.objects → ∀ source runner check,
        let after := ((Call.compile source runner check).moment (s, w)).after
        after.2.runs ≠ w.runs →
          (FlagsAccepted after.1 after.2 ↔ FlagsKept after.1 after.2)) := by
  obtain ⟨declared, stocked⟩ := reached.stocked
  refine ⟨stocked.ledger.once, fun never unaltered source runner check => ?_⟩
  obtain ⟨declared, required, accounted⟩ := reached.accounted never
  have goes := goes_call (.compile source runner check) s w
  rcases ended : perform (Call.compile source runner check).act (s, w) with ⟨o, s', w'⟩
  rw [ended] at goes
  simp only [Call.moment, ended]
  intro ran
  have flags := (accounted.goes (fun _ _ _ _ => unaltered) goes).flags
  have accepted : Request.acceptedOf w'.asked = required := by
    cases goes with | compile exit => ?_
    obtain ⟨binary, arguments, s1, w1, prepared, exit⟩ := stocked.finished_of_ran exit ran
    have all := accounted.accepted_eq unaltered prepared.follows
    cases exit with
    | unstarted ran => rw [ran.asked, all]
    | failed ran => rw [ran.asked, all]
    | succeeded ran => rw [ran.asked, all]
  rw [FlagsAccepted, FlagsKept, flags, accepted, LibraryManager.flags, List.map_map]
  rfl

namespace Small

/-- One of the two libraries is not there yet. -/
def refused : List Moment × Session × World :=
  follow [.buildSource generator, .compile (sourceWithout ["hxcpp"]) (toolchain id) false] [] start

/-- Everything is tried again. -/
def retried : Moment :=
  (Call.compile (sourceWithout []) (toolchain id) false).moment (refused.2.1, refused.2.2)

end Small

theorem flags_accepted_retried :
    Small.refused.2.2.asked.map (·.accepted) = [true, false] ∧
      Small.retried.after.2.asked.map (·.accepted) = [true, false, true] ∧
      FlagsAccepted Small.retried.after.1 Small.retried.after.2 := by
  have reached : Reached Small.refused.1 Small.refused.2.1 Small.refused.2.2 :=
    Small.reached_start.follow _
  have before : ∀ m ∈ Small.refused.1, m.before.2.objects.changed.isEmpty := by decide +kernel
  have never : NeverAltered Small.refused.1 :=
    neverAltered_of_unchanged fun m among => List.isEmpty_iff.mp (before m among)
  have called : Small.retried.after.2.runs ≠ Small.refused.2.2.runs ∧
      Small.refused.2.2.objects.changed.isEmpty ∧
      Small.retried.after.2.objects.changed.isEmpty := by
    decide +kernel
  have unaltered : Small.refused.2.1.plan.Unaltered Small.refused.2.2.objects :=
    BuildPlan.unaltered_of_unchanged (List.isEmpty_iff.mp called.2.1)
  refine ⟨?_, ?_, ?_⟩
  · decide +kernel
  · decide +kernel
  · have kept : FlagsKept Small.retried.after.1 Small.retried.after.2 :=
      flagsKept_of_unchanged (List.isEmpty_iff.mp called.2.2)
    unfold Small.retried at called kept ⊢
    exact ((flags_accepted reached).2 never unaltered (Small.sourceWithout [])
      (Small.toolchain id) false called.1).mpr kept

namespace Small

/-- A file that is rendered before the compilation takes all flags away. -/
def clearing : Program where
  classes := [⟨"app.Main", [], [],
    [(.addLibraries, [.text "format"]), (.filesBeforeBuildTemplate, [.text "a.txt"])]⟩]
  resources := [("a.txt", (Text.utf8? "\x7b\x7b haxeExtraFlags.clear() \x7d\x7d").getD [])]
  resourcesDir := none

theorem clearing_isOk : (created clearing settings).toOption.isSome = true := by decide +kernel

def clearingSources : List Moment × Session × World :=
  follow [.buildSource generator] [] (begun clearing_isOk)

/-- Both libraries are accepted, and the runner is called. -/
def cleared : Moment :=
  (Call.compile (sourceWithout []) (toolchain id) false).moment
    (clearingSources.2.1, clearingSources.2.2)

end Small

/-- A template has emptied the list before the runner is called. -/
theorem flags_cleared :
    Reached Small.clearingSources.1 Small.clearingSources.2.1 Small.clearingSources.2.2 ∧
      Small.cleared.after.2.runs ≠ Small.clearingSources.2.2.runs ∧
      Small.cleared.after.2.asked.map (·.accepted) = [true, true] ∧
      ¬ FlagsAccepted Small.cleared.after.1 Small.cleared.after.2 := by
  have reached := (Small.reached_begun Small.clearing_isOk).follow [.buildSource Small.generator]
  have ⟨ran, accepted, flags⟩ : Small.cleared.after.2.runs ≠ Small.clearingSources.2.2.runs ∧
      Small.cleared.after.2.asked.map (·.accepted) = [true, true] ∧
      (((Small.cleared.after.1.parameters.get? "haxeExtraFlags").map
        Small.cleared.after.2.objects.now).bind Value.list?).map List.length = some 0 := by
    decide +kernel
  refine ⟨reached, ran, accepted, fun named => ?_⟩
  rw [named] at flags
  have count : (Request.acceptedOf Small.cleared.after.2.asked).length = 2 := by decide +kernel
  simp [BuildList.value, Value.list?, count] at flags

end Session

end HaxeBuild
