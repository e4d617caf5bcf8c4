import HaxeBuild.Proofs.Build.Requirements

namespace HaxeBuild

open Effect

/-- A text is equal to texts only. -/
theorem Value.same_text_iff {v : Value} {t : Text} :
    Value.same v (.text t) = true ↔ v.text? = some t := by
  cases v with
  | view kind owner => cases owner <;> simp [same, sameLeaf, viewed?, number?, text?]
  | flag f => simp [same, sameLeaf, number?, text?]
  | _ => simp [same, sameLeaf, list?, tuple?, entries?, number?, text?]

/-- No template can change a text. -/
theorem Objects.text?_now (o : Objects) (v : Value) : (o.now v).text? = v.text? := by
  cases v with
  | sharedList id items =>
    rw [now, Value.renewed]
    split <;> rfl
  | sharedDict id entries =>
    rw [now, Value.renewed]
    split <;> rfl
  | _ => rfl

/-- The key has the value, up to equality, as the objects are. -/
def Parameters.Holds (p : Parameters) (o : Objects) (key : Text) (value : Value) : Prop :=
  ∃ old, p.get? key = some old ∧ Value.same (o.now old) value = true

namespace Parameters

variable {p grown : Parameters} {o o' : Objects} {key other : Text} {value : Value}
  {now : Value → Value}

theorem holds_text_iff {t : Text} :
    p.Holds o key (.text t) ↔ ∃ old, p.get? key = some old ∧ old.text? = some t := by
  simp only [Holds, Value.same_text_iff, Objects.text?_now]

theorem holds_add {t : Text} (added : p.add key (.text t) false o.now = .ok grown)
    (o' : Objects) : grown.Holds o' key (.text t) := by
  have found := get?_add added key
  rw [if_pos rfl] at found
  rw [add] at added
  rw [holds_text_iff]
  cases known : p.get? key with
  | none =>
    rw [known] at found
    exact ⟨_, found, rfl⟩
  | some old =>
    rw [known] at found added
    cases same : Value.same (o.now old) (.text t) with
    | true =>
      rw [Value.same_text_iff, Objects.text?_now] at same
      exact ⟨old, found, same⟩
    | false =>
      simp only [same] at added
      cases added

theorem Holds.add {added : Value} (holds : p.Holds o key value)
    (done : p.add other added false now = .ok grown) :
    grown.Holds o key value := by
  obtain ⟨old, known, same⟩ := holds
  exact ⟨old, get?_add_of_some done known, same⟩

end Parameters

namespace Session

/-- At the moment a compilation called its runner, which returned the result. The runner was called
once the command was prepared, and the files are as it left them. -/
inductive Moment.Returned (m : Moment) (i : Invocation) (r : ProcessResult) : Prop where
  | intro {source : PackageSource} {runner : ProcessRunner} {check : Bool} {s : Session} {w : World}
      (call : m.call = .compile source runner check)
      (prepared : Prepared source m.before.1 m.before.2 i.binary i.arguments s w)
      (ran : m.after.2.runs = m.before.2.runs ++ [i])
      (returned : (runner m.before.2.runs i w.files).result = .ok r)
      (left : m.after.2.files = (runner m.before.2.runs i w.files).files)

/-- At the moment no compilation came as far as to call its runner. -/
def Moment.IsIdle (m : Moment) : Prop :=
  ∀ source runner check, m.call = .compile source runner check → m.after.2.runs = m.before.2.runs

/-- The templates know where the program starts, whatever they have changed. -/
structure Published (p : Parameters) (i : ProgramInfo) : Prop where
  file : ∀ o, p.Holds o "entryPointFile" (entryPointFile i)
  name : ∀ o, p.Holds o "entryPointClass" (entryPointClass i)

/-- The command of the session was run by the latest compilation that called its runner, with the
result of the session. -/
structure Succeeded (past : List Moment) (s : Session) (binary : Text) (arguments : List Text)
    (r : ProcessResult) : Prop where
  command : s.lastCommand = binary :: arguments
  result : s.compileResult = some r
  exitCode : r.exitCode = 0
  returned : ∃ later m earlier, past = later ++ m :: earlier ∧ (∀ l ∈ later, l.IsIdle) ∧
    m.Returned ⟨s.plan.srcFolder, binary, arguments, true⟩ r

/-- What the state of a session stands for. -/
structure Sound (past : List Moment) (s : Session) : Prop where
  created : s.state = .created ↔ s.info = none
  compiled : s.state = .compiled ∨ s.state = .ran →
    ∃ binary arguments r, Succeeded past s binary arguments r
  published : ∀ i, s.info = some i → Published s.parameters i

theorem IsNew.sound {s : Session} {required : List LibraryReference} (new : IsNew s required) :
    Sound [] s where
  created := by
    rw [new.state, new.info]
    simp only
  compiled := by
    intro impossible
    rw [new.state] at impossible
    rcases impossible with impossible | impossible <;> cases impossible
  published := by
    intro i known
    rw [new.info] at known
    cases known

variable {past : List Moment} {s s' : Session} {w w' : World}

theorem Succeeded.keep {binary : Text} {arguments : List Text} {r : ProcessResult}
    {latest : Moment} (succeeded : Succeeded past s binary arguments r) (idle : latest.IsIdle)
    (command : s'.lastCommand = s.lastCommand) (result : s'.compileResult = s.compileResult)
    (folder : s'.plan.srcFolder = s.plan.srcFolder) :
    Succeeded (latest :: past) s' binary arguments r := by
  obtain ⟨later, m, earlier, rfl, idles, returned⟩ := succeeded.returned
  refine ⟨command.trans succeeded.command, result.trans succeeded.result, succeeded.exitCode,
    latest :: later, m, earlier, rfl, ?_, ?_⟩
  · exact List.forall_mem_cons.mpr ⟨idle, idles⟩
  · rw [folder]
    exact returned

theorem Published.add {p grown : Parameters} {key : Text} {value : Value} {i : ProgramInfo}
    {now : Value → Value} (published : Published p i)
    (added : p.add key value false now = .ok grown) : Published grown i :=
  ⟨fun o => (published.file o).add added, fun o => (published.name o).add added⟩

namespace Sound

/-- Calls that leave state, information, command and result alone can add parameters. -/
theorem keep {latest : Moment} (sound : Sound past s) (idle : latest.IsIdle)
    (state : s'.state = s.state) (info : s'.info = s.info)
    (command : s'.lastCommand = s.lastCommand) (result : s'.compileResult = s.compileResult)
    (folder : s'.plan.srcFolder = s.plan.srcFolder)
    (parameters : ∀ i, Published s.parameters i → Published s'.parameters i) :
    Sound (latest :: past) s' where
  created := by
    rw [state, info]
    exact sound.created
  compiled := by
    intro done
    rw [state] at done
    obtain ⟨binary, arguments, r, succeeded⟩ := sound.compiled done
    exact ⟨binary, arguments, r, succeeded.keep idle command result folder⟩
  published := by
    intro i known
    rw [info] at known
    exact parameters i (sound.published i known)

/-- A compilation that is stopped after the libraries are installed has not compiled anything. -/
theorem stopped (sound : Sound past s) (latest : Moment) (known : s.info ≠ none)
    (info : s'.info = s.info) (parameters : s'.parameters = s.parameters)
    (state : s'.state = .librariesInstalled ∨ s'.state = .assetsStaged) :
    Sound (latest :: past) s' where
  created := by
    rw [info]
    constructor
    · intro impossible
      rw [impossible] at state
      rcases state with state | state <;> cases state
    · intro unknown
      exact absurd unknown known
  compiled := by
    intro impossible
    rcases state with state | state <;> rw [state] at impossible <;>
      rcases impossible with impossible | impossible <;> cases impossible
  published := by
    intro i generated
    rw [info] at generated
    rw [parameters]
    exact sound.published i generated

theorem generated {latest : Moment} {o : Outcome ProgramInfo} (sound : Sound past s)
    (idle : latest.IsIdle) (exit : GenerationExit s w o s' w') : Sound (latest :: past) s' := by
  cases exit with
  | failed => exact sound.keep idle rfl rfl rfl rfl rfl fun _ => id
  | refused file conflict =>
    exact sound.keep idle rfl rfl rfl rfl rfl fun _ published => published.add file
  | generated file name =>
    refine ⟨?_, ?_, ?_⟩
    · simp only [reduceCtorEq]
    · intro impossible
      rcases impossible with impossible | impossible <;> cases impossible
    · intro i known
      cases known
      exact ⟨fun o => (Parameters.holds_add file o).add name, Parameters.holds_add name⟩

/-- The toolchain has only been successful if its result says so. -/
theorem toolchain {source : PackageSource} {runner : ProcessRunner} {check : Bool} {binary : Text}
    {arguments : List Text} {o : Outcome Bool} {s1 : Session} {w1 : World} {m : Moment}
    (sound : Sound past s) (known : s.info ≠ none)
    (prepared : Prepared source s w binary arguments s1 w1) (runs : w1.runs = w.runs)
    (exit : ToolchainExit runner check ⟨s.plan.srcFolder, binary, arguments, true⟩ s1 w1 o s' w')
    (call : m.call = .compile source runner check) (before : m.before = (s, w))
    (after : m.after.2 = w') : Sound (m :: past) s' := by
  obtain ⟨s2, w2, supplied, since⟩ := prepared.follows
  have info : s1.info = s.info := since.info.trans supplied.info_eq
  have parameters : s1.parameters = s.parameters := since.parameters.trans supplied.parameters_eq
  cases exit with
  | unstarted ran => exact sound.stopped m known info parameters (.inr prepared.state_eq)
  | failed ran => exact sound.stopped m known info parameters (.inr prepared.state_eq)
  | succeeded ran returned succeeds =>
    refine ⟨?_, ?_, ?_⟩
    · rw [info]
      simp only [reduceCtorEq, known]
    · intro _
      refine ⟨binary, arguments, _, ⟨prepared.lastCommand_eq, rfl, of_decide_eq_true succeeds,
        [], m, past, rfl, List.forall_mem_nil _, ?_⟩⟩
      rw [prepared.plan_eq]
      have recorded := ran.runs
      have left := ran.files
      rw [runs] at recorded left returned
      subst after
      refine .intro call ?_ ?_ ?_ ?_ (s := s1) (w := w1)
      all_goals rw [before]
      · exact prepared
      · exact recorded
      · exact returned
      · exact left
    · intro i generated
      rw [info] at generated
      rw [parameters]
      exact sound.published i generated

theorem compiled_exit {source : PackageSource} {runner : ProcessRunner} {check : Bool}
    {o : Outcome Bool} {declared : List LibraryReference} {m : Moment} (sound : Sound past s)
    (stocked : Stocked s w declared) (exit : CompileExit source runner check s w o s' w')
    (call : m.call = .compile source runner check) (before : m.before = (s, w))
    (after : m.after.2 = w') : Sound (m :: past) s' := by
  have idle (runs : w'.runs = w.runs) : m.IsIdle := by
    intro _ _ _ _
    rw [before, after, runs]
  cases exit with
  | outOfOrder => exact sound.keep (idle rfl) rfl rfl rfl rfl rfl fun _ => id
  | uncleared => exact sound.keep (idle rfl) rfl rfl rfl rfl rfl fun _ => id
  | unsupplied cleared refused =>
    have runs := (stocked.installed cleared refused).2
    exact sound.keep (idle runs) rfl rfl rfl rfl rfl fun _ => id
  | unstaged supplied unfinished =>
    exact sound.stopped m supplied.known supplied.info_eq supplied.parameters_eq
      (.inl supplied.state_eq)
  | unrendered staged unfinished =>
    obtain ⟨s1, w1, supplied, since⟩ := staged.follows
    exact sound.stopped m supplied.known (since.info.trans supplied.info_eq)
      (since.parameters.trans supplied.parameters_eq) (.inr staged.state_eq)
  | unprepared rendered unfinished =>
    obtain ⟨s1, w1, supplied, first⟩ := rendered.follows
    have exit := exit_of_prepareCommand unfinished
    have since := first.trans exit.follows
    exact sound.stopped m supplied.known (since.info.trans supplied.info_eq)
      (since.parameters.trans supplied.parameters_eq)
      (.inr (exit.state_eq.trans rendered.state_eq))
  | finished prepared exit =>
    have runs := (stocked.since prepared.follows).2
    exact sound.toolchain prepared.known prepared runs exit call before after

theorem ran_exit {runner : ProcessRunner} {redirect check : Bool} {o : Outcome ProcessResult}
    {latest : Moment} (sound : Sound past s) (idle : latest.IsIdle)
    (exit : RunExit runner redirect check s w o s' w') : Sound (latest :: past) s' := by
  cases exit with
  | outOfOrder => exact sound.keep idle rfl rfl rfl rfl rfl fun _ => id
  | unprobed => exact sound.keep idle rfl rfl rfl rfl rfl fun _ => id
  | missing => exact sound.keep idle rfl rfl rfl rfl rfl fun _ => id
  | unstarted => exact sound.keep idle rfl rfl rfl rfl rfl fun _ => id
  | ran ready =>
    refine ⟨?_, fun _ => ?_, sound.published⟩
    · have known : s.info ≠ none := by
        intro unknown
        rw [sound.created.mpr unknown] at ready
        rcases ready with impossible | impossible <;> cases impossible
      simp only [reduceCtorEq, known]
    · obtain ⟨binary, arguments, r, succeeded⟩ := sound.compiled ready
      exact ⟨binary, arguments, r, succeeded.keep idle rfl rfl rfl⟩

theorem goes {call : Call} {o : Outcome Answer} {declared : List LibraryReference} {m : Moment}
    (sound : Sound past s) (stocked : Stocked s w declared) (goes : Goes s w call o s' w')
    (is : m.call = call) (before : m.before = (s, w)) (after : m.after.2 = w') :
    Sound (m :: past) s' := by
  have idle (other : ∀ source runner check, call ≠ .compile source runner check) : m.IsIdle := by
    intro source runner check compiles
    exact absurd (is.symm.trans compiles) (other source runner check)
  cases goes with
  | buildSource exit => exact sound.generated (idle fun _ _ _ => nofun) exit
  | compile exit => exact sound.compiled_exit stocked exit is before after
  | run exit => exact sound.ran_exit (idle fun _ _ _ => nofun) exit
  | render => exact sound.keep (idle fun _ _ _ => nofun) rfl rfl rfl rfl rfl fun _ => id
  | added new =>
    refine sound.keep (idle fun _ _ _ => nofun) rfl rfl rfl rfl rfl ?_
    exact fun _ published => published.add new
  | refused => exact sound.keep (idle fun _ _ _ => nofun) rfl rfl rfl rfl rfl fun _ => id
  | changeProgram => exact sound.keep (idle fun _ _ _ => nofun) rfl rfl rfl rfl rfl fun _ => id
  | changeFiles => exact sound.keep (idle fun _ _ _ => nofun) rfl rfl rfl rfl rfl fun _ => id

end Sound

theorem Reached.sound {past : List Moment} {s : Session} {w : World}
    (reached : Reached past s w) : Sound past s := by
  induction reached with
  | created t clock made =>
    obtain ⟨required, new⟩ := isNew_of_new made
    exact new.sound
  | next reached call inductionHypothesis =>
    obtain ⟨declared, stocked⟩ := reached.stocked
    exact inductionHypothesis.goes stocked (goes_call call _ _) rfl rfl rfl

/-! ### The libraries that are installed -/

/-- Since the latest compilation that has installed its libraries, what it required is installed. -/
def Provided (past : List Moment) (s : Session) : Prop :=
  s.state.isSupplied = true → ∃ later m earlier, past = later ++ m :: earlier ∧ m.Compiles ∧
    (∀ l ∈ later, l.Compiles → l.after.1.state = l.before.1.state) ∧
    s.libraries.Provides s.plan.subject (s.plan.settingsNow m.before.2.objects)

namespace Provided

/-- A later moment at which nothing was installed that was required. -/
theorem keep {latest : Moment} (provided : Provided past s)
    (calm : latest.Compiles → latest.after.1.state = latest.before.1.state)
    (state : s'.state.isSupplied = true → s.state.isSupplied = true)
    (settings : s'.plan.settings = s.plan.settings) (read : s'.libraries.read = s.libraries.read)
    (installed : s.libraries.installed ⊆ s'.libraries.installed) :
    Provided (latest :: past) s' := by
  intro supplied
  obtain ⟨later, m, earlier, rfl, compiles, calms, provides⟩ := provided (state supplied)
  refine ⟨latest :: later, m, earlier, rfl, compiles, List.forall_mem_cons.mpr ⟨calm, calms⟩, ?_⟩
  have same (o : Objects) : s'.plan.settingsNow o = s.plan.settingsNow o := by
    rw [BuildPlan.settingsNow, settings, BuildPlan.settingsNow]
  rw [same]
  exact provides.mono read installed

theorem compiled {source : PackageSource} {runner : ProcessRunner} {check : Bool}
    {o : Outcome Bool} {declared : List LibraryReference} {m : Moment} (provided : Provided past s)
    (stocked : Stocked s w declared) (exit : CompileExit source runner check s w o s' w')
    (call : m.call = .compile source runner check) (before : m.before = (s, w))
    (after : m.after.1 = s') : Provided (m :: past) s' := by
  have calm (state : s'.state = s.state) : m.Compiles → m.after.1.state = m.before.1.state := by
    intro _
    rw [after, before, state]
  -- From here on what this compilation requires is installed.
  have newly {s1 s2 : Session} {w1 : World}
      (is : ∃ s0 w0, Supplied source s w s0 w0 ∧ Follows s0 w0 s1 w1)
      (plan : s2.plan = s1.plan) (libraries : s2.libraries = s1.libraries) :
      Provided (m :: past) s2 := by
    intro _
    refine ⟨[], m, past, rfl, ⟨source, runner, check, call⟩, List.forall_mem_nil _, ?_⟩
    obtain ⟨s0, w0, ⟨cleared, installed⟩, since⟩ := is
    have goes := stocked.installation installed
    rw [before, plan, libraries, since.plan, since.libraries]
    exact goes.provides stocked.read
  cases exit with
  | outOfOrder => exact provided.keep (calm rfl) id rfl rfl (List.Subset.refl _)
  | uncleared => exact provided.keep (calm rfl) id rfl rfl (List.Subset.refl _)
  | unsupplied cleared refused =>
    have goes := stocked.installation refused
    exact provided.keep (calm rfl) id rfl goes.read_eq goes.installed_subset
  | unstaged supplied unfinished =>
    exact newly ⟨_, _, supplied, follows_of_stage .created unfinished⟩ rfl rfl
  | unrendered staged => exact newly staged.follows rfl rfl
  | unprepared rendered unfinished =>
    have exit := (exit_of_prepareCommand unfinished).follows
    exact newly rendered.follows exit.plan exit.libraries
  | finished prepared exit => cases exit <;> exact newly prepared.follows rfl rfl

theorem goes {call : Call} {o : Outcome Answer} {declared : List LibraryReference} {m : Moment}
    (provided : Provided past s) (stocked : Stocked s w declared) (goes : Goes s w call o s' w')
    (is : m.call = call) (before : m.before = (s, w)) (after : m.after.1 = s') :
    Provided (m :: past) s' := by
  have calm (other : ∀ source runner check, call ≠ .compile source runner check) :
      m.Compiles → m.after.1.state = m.before.1.state := by
    rintro ⟨source, runner, check, compiles⟩
    exact absurd (is.symm.trans compiles) (other source runner check)
  have still (other : ∀ source runner check, call ≠ .compile source runner check)
      (state : s'.state.isSupplied = true → s.state.isSupplied = true)
      (settings : s'.plan.settings = s.plan.settings)
      (libraries : s'.libraries = s.libraries) : Provided (m :: past) s' :=
    provided.keep (calm other) state settings (congrArg _ libraries)
      (libraries ▸ List.Subset.refl _)
  cases goes with
  | buildSource exit =>
    cases exit with
    | failed => exact still (fun _ _ _ => nofun) id rfl rfl
    | refused => exact still (fun _ _ _ => nofun) id rfl rfl
    | generated => exact still (fun _ _ _ => nofun) nofun rfl rfl
  | compile exit => exact provided.compiled stocked exit is before after
  | run exit =>
    cases exit with
    | outOfOrder => exact still (fun _ _ _ => nofun) id rfl rfl
    | unprobed => exact still (fun _ _ _ => nofun) id rfl rfl
    | missing => exact still (fun _ _ _ => nofun) id rfl rfl
    | unstarted => exact still (fun _ _ _ => nofun) id rfl rfl
    | ran ready =>
      refine still (fun _ _ _ => nofun) (fun _ => ?_) rfl rfl
      rcases ready with compiled | ran
      · rw [compiled]
        rfl
      · rw [ran]
        rfl
  | render => exact still (fun _ _ _ => nofun) id rfl rfl
  | added => exact still (fun _ _ _ => nofun) id rfl rfl
  | refused => exact still (fun _ _ _ => nofun) id rfl rfl
  | changeProgram => exact still (fun _ _ _ => nofun) id rfl rfl
  | changeFiles => exact still (fun _ _ _ => nofun) id rfl rfl

end Provided

theorem Reached.provided {past : List Moment} {s : Session} {w : World}
    (reached : Reached past s w) : Provided past s := by
  induction reached with
  | created t clock made =>
    obtain ⟨required, new⟩ := isNew_of_new made
    intro impossible
    rw [new.state] at impossible
    cases impossible
  | next reached call inductionHypothesis =>
    obtain ⟨declared, stocked⟩ := reached.stocked
    exact inductionHypothesis.goes stocked (goes_call call _ _) rfl rfl rfl

/-- The manager has installed all libraries that it names as required when it is asked with the
settings. -/
def Installed (s : Session) (w : World) (settings : Settings) : Prop :=
  ∃ required,
    perform (LibraryManager.required s.plan.subject (some settings)) (s.libraries, w) =
      (.ok required, (s.libraries, w)) ∧
    ∀ l ∈ required, l.canonical ∈ s.libraries.installed

theorem installed_of_provides {settings : Settings}
    (provides : s.libraries.Provides s.plan.subject settings) (w : World) :
    Installed s w settings := by
  obtain ⟨required, knows, all⟩ := provides
  exact ⟨required, knows.perform_required w, all⟩

/-- State, command, result and parameters agree, however a session was reached. What the latest
compilation required that has installed its libraries is installed. This is what is required now,
unless a template has changed the libraries of the settings in between. -/
theorem sound_and_installed {past : List Moment} {s : Session} {w : World}
    (reached : Reached past s w) :
    Sound past s ∧ (s.state.isSupplied = true → ∃ later m earlier,
      past = later ++ m :: earlier ∧ m.Compiles ∧
        (∀ l ∈ later, l.Compiles → l.after.1.state = l.before.1.state) ∧
        Installed s w (s.plan.settingsNow m.before.2.objects) ∧
        ((s.plan.settingsNow w.objects).libraries =
            (s.plan.settingsNow m.before.2.objects).libraries →
          Installed s w (s.plan.settingsNow w.objects))) := by
  refine ⟨reached.sound, fun supplied => ?_⟩
  obtain ⟨later, m, earlier, split, compiles, calms, provides⟩ := reached.provided supplied
  exact ⟨later, m, earlier, split, compiles, calms, installed_of_provides provides w,
    fun same => installed_of_provides (provides.congr same) w⟩

/-- A library is refused at first; the build is successful when it is tried again. -/
theorem sound_and_installed_retried :
    ∃ past s w, Reached past s w ∧ s.state = .compiled ∧ Sound past s ∧
      ∃ settings, Installed s w settings := by
  have reached := Small.reached_start.follow
    [.buildSource Small.generator,
      .compile (Small.sourceWithout ["hxcpp"]) (Small.toolchain id) false,
      .compile (Small.sourceWithout []) (Small.toolchain id) false]
  have agree := sound_and_installed reached
  obtain ⟨later, m, earlier, -, -, -, installed, -⟩ := agree.2 (by decide +kernel)
  exact ⟨_, _, _, reached, by decide +kernel, agree.1, _, installed⟩

namespace Small

/-- The command line adds a library to the settings. -/
def appending : Program where
  classes := [⟨"app.Main", [], [], [(.customBuildCommandLine,
    [.text "haxe", .text "\x7b\x7b settings.libraries.append(\x27lime\x27) \x7d\x7d"])]⟩]
  resources := []
  resourcesDir := none

theorem appending_isOk : (created appending settings).toOption.isSome = true := by decide +kernel

def appended : List Moment × Session × World :=
  follow [.buildSource generator, .compile (sourceWithout []) (toolchain id) false] []
    (begun appending_isOk)

end Small

/-- The compilation is successful, and a library is required that is not installed. -/
theorem required_appended :
    Reached Small.appended.1 Small.appended.2.1 Small.appended.2.2 ∧
      Small.appended.2.1.state = .compiled ∧
      ¬ Installed Small.appended.2.1 Small.appended.2.2
        (Small.appended.2.1.plan.settingsNow Small.appended.2.2.objects) := by
  have reached := (Small.reached_begun Small.appending_isOk).follow
    [.buildSource Small.generator, .compile (Small.sourceWithout []) (Small.toolchain id) false]
  refine ⟨reached, by decide +kernel, ?_⟩
  rintro ⟨required, listed, installed⟩
  have missing : ("lime" : Text) ∉ Small.appended.2.1.libraries.installed := by decide +kernel
  have named : (perform (LibraryManager.required Small.appended.2.1.plan.subject
      (some (Small.appended.2.1.plan.settingsNow Small.appended.2.2.objects)))
        (Small.appended.2.1.libraries, Small.appended.2.2)).1.toOption.map
          (fun ls => ls.map (·.canonical)) = some (["hxcpp@4.3", "lime"] : List Text) := by
    decide +kernel
  rw [listed] at named
  have all : required.map (·.canonical) = (["hxcpp@4.3", "lime"] : List Text) :=
    Option.some.inj named
  have lime : ("lime" : Text) ∈ required.map (·.canonical) := by
    rw [all]
    exact List.mem_cons_of_mem _ List.mem_cons_self
  obtain ⟨l, among, is⟩ := List.mem_map.mp lime
  exact missing (is ▸ installed l among)

end Session

end HaxeBuild
