import HaxeBuild.Proofs.Build.DefaultCommand
import HaxeBuild.Proofs.Build.Requirements

namespace HaxeBuild

open Effect

/-- The libraries that a build requires: those that its program declares, then those of its
settings. -/
def BuildPlan.Requires (p : BuildPlan) (required : List LibraryReference) : Prop :=
  ∃ declared, LibraryReference.declared p.program = .ok declared ∧
    LibraryReference.withSettings declared (some p.settings) = .ok required

/-- No template has changed the lists of flags and defines, which were made for the libraries. -/
structure BuildPlan.Untouched (p : BuildPlan) (required : List LibraryReference) (o : Objects) :
    Prop where
  flags : flagsNow (LibraryManager.flags required) o = (LibraryManager.flags required).map .flag
  defines : p.definesNow o = p.settings.extraDefines.map .text

/-- The arguments of the default command as the lists of flags and defines are. -/
def BuildPlan.argumentsNow (p : BuildPlan) (required : List LibraryReference) (o : Objects)
    (i : ProgramInfo) : List Text :=
  Command.listedArguments p o (flagsNow (LibraryManager.flags required) o) (p.definesNow o) i

/-- Where no object of the command was changed, its arguments are the default ones. -/
theorem BuildPlan.Untouched.argumentsNow_eq {p : BuildPlan} {required : List LibraryReference}
    {o : Objects} (untouched : p.Untouched required o) (i : ProgramInfo) :
    p.argumentsNow required o i = Command.defaultArguments p required i := by
  rw [argumentsNow, untouched.flags, untouched.defines, Command.listedArguments_eq]

/-- Where no object at all was changed, none of the command was. -/
theorem BuildPlan.untouched_of_unchanged (p : BuildPlan) (required : List LibraryReference)
    {o : Objects} (unchanged : o.changed = []) : p.Untouched required o where
  flags := Objects.list_of_unchanged unchanged .extraFlags _
  defines := Objects.list_of_unchanged unchanged .extraDefines _

namespace Session

/-- Calls that neither add parameters nor change the program. -/
def Call.IsPlain : Call → Prop
  | .addParameter _ _ => False
  | .changeProgram _ => False
  | _ => True

/-- The build requires the libraries. Its parameters are those of the plan, and those of the entry
point once it is known. -/
structure Plain (s : Session) (required : List LibraryReference) : Prop where
  requires : s.plan.Requires required
  parameters : s.parameters =
    s.plan.parameters (LibraryManager.flags required) ++ s.info.elim [] ProgramInfo.parameters

/-- A new session is plain. -/
theorem IsNew.plain {s : Session} {required : List LibraryReference} (new : IsNew s required) :
    Plain s required where
  requires := by
    obtain ⟨declared, known, joined, -⟩ := new.read
    exact ⟨declared, known, joined⟩
  parameters := by
    rw [new.parameters, new.info, Option.elim_none, List.append_nil]

/-- The file of an entry point is new, or it is known already. -/
theorem add_entryPointFile {plan : BuildPlan} {flags : List CompilerFlag}
    {known : Option ProgramInfo} {i : ProgramInfo} {p : Parameters} {o : Objects}
    (added : (plan.parameters flags ++ known.elim [] ProgramInfo.parameters).add "entryPointFile"
      (entryPointFile i) false o.now = .ok p) :
    known = none ∧
        p = plan.parameters flags ++ ([("entryPointFile", entryPointFile i)] : Parameters) ∨
      ∃ i₀, known = some i₀ ∧ i.entryPointFile = i₀.entryPointFile ∧
        p = plan.parameters flags ++ i₀.parameters := by
  cases known with
  | none =>
    rw [Option.elim_none, List.append_nil, Parameters.add_of_unknown rfl] at added
    cases added
    exact .inl ⟨rfl, rfl⟩
  | some i₀ =>
    obtain ⟨same, rfl⟩ := Parameters.eq_of_add_text rfl rfl added
    exact .inr ⟨i₀, rfl, same, rfl⟩

namespace Plain

variable {s s' : Session} {w w' : World} {required : List LibraryReference}

/-- A plain session stays plain as long as its plan, its program and its parameters stay. -/
theorem keep (plain : Plain s required) (plan : s'.plan = s.plan) (info : s'.info = s.info)
    (parameters : s'.parameters = s.parameters) : Plain s' required where
  requires := by
    rw [plan]
    exact plain.requires
  parameters := by
    rw [parameters, plan, info]
    exact plain.parameters

/-- Staging, writing and preparing a command keep a session plain. -/
theorem follows (plain : Plain s required) (since : Follows s w s' w') : Plain s' required :=
  plain.keep since.plan since.info since.parameters

/-- Supplying the libraries keeps a session plain. -/
theorem supplied {source : PackageSource} (plain : Plain s required)
    (is : Supplied source s w s' w') : Plain s' required :=
  plain.keep is.plan_eq is.info_eq is.parameters_eq

/-- Supplying the libraries and all that follows keep a session plain. -/
theorem since {source : PackageSource} (plain : Plain s required)
    (is : ∃ s1 w1, Supplied source s w s1 w1 ∧ Follows s1 w1 s' w') : Plain s' required := by
  obtain ⟨s1, w1, supplied, since⟩ := is
  exact (plain.supplied supplied).follows since

/-- The first generation of sources adds the entry point, and later ones find the same. -/
theorem generated {o : Outcome ProgramInfo} (plain : Plain s required)
    (exit : GenerationExit s w o s' w') : Plain s' required := by
  have parameters := plain.parameters
  cases exit with
  | failed => exact plain.keep rfl rfl rfl
  | refused file conflict =>
    rw [parameters] at file
    rcases add_entryPointFile file with ⟨-, rfl⟩ | ⟨i₀, first, -, rfl⟩
    · rw [Parameters.add_of_unknown rfl] at conflict
      cases conflict
    · rw [first, Option.elim_some] at parameters
      exact plain.keep rfl rfl parameters.symm
  | @generated i p p' t log file name =>
    rw [parameters] at file
    refine ⟨plain.requires, ?_⟩
    rcases add_entryPointFile file with ⟨-, rfl⟩ | ⟨i₀, -, sameFile, rfl⟩
    · rw [Parameters.add_of_unknown rfl] at name
      cases name
      exact List.append_assoc _ _ _
    · obtain ⟨sameName, rfl⟩ := Parameters.eq_of_add_text rfl rfl name
      have same : i.parameters = i₀.parameters := by
        rw [ProgramInfo.parameters, entryPointFile, entryPointClass, sameFile, sameName]
        rfl
      exact congrArg (s.plan.parameters (LibraryManager.flags required) ++ ·) same.symm

/-- The toolchain leaves a session plain, however it ends. -/
theorem toolchain {runner : ProcessRunner} {check : Bool} {i : Invocation} {o : Outcome Bool}
    (plain : Plain s required) (exit : ToolchainExit runner check i s w o s' w') :
    Plain s' required := by
  cases exit with
  | unstarted => exact plain
  | failed => exact plain.keep rfl rfl rfl
  | succeeded => exact plain.keep rfl rfl rfl

/-- A compile leaves a session plain, however it ends. -/
theorem compiled {source : PackageSource} {runner : ProcessRunner} {check : Bool}
    {o : Outcome Bool} (plain : Plain s required)
    (exit : CompileExit source runner check s w o s' w') : Plain s' required := by
  cases exit with
  | outOfOrder => exact plain
  | uncleared => exact plain
  | unsupplied => exact plain.keep rfl rfl rfl
  | unstaged supplied => exact (plain.supplied supplied).keep rfl rfl rfl
  | unrendered staged => exact plain.since staged.follows
  | unprepared rendered unfinished =>
    exact (plain.since rendered.follows).follows (exit_of_prepareCommand unfinished).follows
  | finished prepared exit => exact (plain.since prepared.follows).toolchain exit

/-- A run leaves a session plain, however it ends. -/
theorem run {runner : ProcessRunner} {redirect check : Bool} {o : Outcome ProcessResult}
    (plain : Plain s required) (exit : RunExit runner redirect check s w o s' w') :
    Plain s' required := by
  cases exit with
  | outOfOrder => exact plain
  | unprobed => exact plain
  | missing => exact plain
  | unstarted => exact plain
  | ran => exact plain.keep rfl rfl rfl

/-- Every plain call leaves a session plain. -/
theorem goes {call : Call} {o : Outcome Answer} (plain : Plain s required) (is : call.IsPlain)
    (goes : Goes s w call o s' w') : Plain s' required := by
  cases goes with
  | buildSource exit => exact plain.generated exit
  | compile exit => exact plain.compiled exit
  | run exit => exact plain.run exit
  | render => exact plain
  | added => exact is.elim
  | refused => exact plain
  | changeProgram => exact is.elim
  | changeFiles => exact plain

/-- In a program without a command line of its own, the default command never fails. -/
theorem perform_prepareCommand {i : ProgramInfo} (plain : Plain s required)
    (known : s.info = some i)
    (standard : s.plan.program.allMetadata .customBuildCommandLine = []) (w : World) :
    ∃ binary arguments, s.plan.argumentsNow required w.objects i = binary :: arguments ∧
      perform prepareCommand (s, w) =
        (.ok (binary, arguments), ({ s with lastCommand := binary :: arguments }, w)) := by
  have template : Command.template s.plan.program = Command.defaultCall := by
    rw [Command.template, standard]
  have parameters := plain.parameters
  rw [known, Option.elim_some] at parameters
  have rendered := perform_renderLogged (Command.template s.plan.program) s w
  rw [template, render_defaultCall parameters, List.append_nil, ← template] at rendered
  obtain ⟨binary, arguments, is⟩ := List.exists_cons_of_ne_nil
    (Command.listedArguments_ne_nil s.plan w.objects
      (BuildPlan.flagsNow (LibraryManager.flags required) w.objects) (s.plan.definesNow w.objects) i)
  refine ⟨binary, arguments, is, ?_⟩
  rw [prepareCommand, perform_bind_ok (Action.perform_state s w), perform_bind_ok rendered,
    Command.split_defaultText, is]
  rfl

/-- The standard command renders to the arguments of the state it is rendered in. -/
theorem perform_of_rendered {source : PackageSource} {i : ProgramInfo} (plain : Plain s required)
    (known : s.info = some i)
    (standard : s.plan.program.allMetadata .customBuildCommandLine = [])
    (rendered : Rendered source s w s' w') :
    ∃ binary arguments, s.plan.argumentsNow required w'.objects i = binary :: arguments ∧
      perform prepareCommand (s', w') =
        (.ok (binary, arguments), ({ s' with lastCommand := binary :: arguments }, w')) := by
  obtain ⟨s1, w1, supplied, since⟩ := rendered.follows
  have plan := since.plan.trans supplied.plan_eq
  have info := since.info.trans supplied.info_eq
  rw [← plan] at standard ⊢
  exact (plain.since rendered.follows).perform_prepareCommand (info.trans known) standard w'

/-- The command of a compile is the standard one of the state it was rendered in. -/
theorem command_of_prepared {source : PackageSource} {i : ProgramInfo} {binary : Text}
    {arguments : List Text} (plain : Plain s required) (known : s.info = some i)
    (standard : s.plan.program.allMetadata .customBuildCommandLine = [])
    (prepared : Prepared source s w binary arguments s' w') :
    binary :: arguments = s.plan.argumentsNow required w'.objects i := by
  obtain ⟨rendered, performed⟩ := prepared
  obtain ⟨binary', arguments', is, performed'⟩ := plain.perform_of_rendered known standard rendered
  have same := performed'.symm.trans performed
  have command := congrArg Prod.fst same
  have objects := congrArg (fun ended => ended.2.2.objects) same
  cases command
  rw [← is]
  exact congrArg (s.plan.argumentsNow required · i) objects

end Plain

/-- A history of plain calls reaches plain sessions only. -/
theorem Reached.plain {past : List Moment} {s : Session} {w : World}
    (reached : Reached past s w) (calls : ∀ m ∈ past, m.call.IsPlain) :
    ∃ required, Plain s required := by
  induction reached with
  | created t clock made =>
    obtain ⟨required, new⟩ := isNew_of_new made
    exact ⟨required, new.plain⟩
  | next reached call inductionHypothesis =>
    have ⟨latest, earlier⟩ := List.forall_mem_cons.mp calls
    obtain ⟨required, plain⟩ := inductionHypothesis earlier
    exact ⟨required, plain.goes latest (goes_call call _ _)⟩

/-- In a program without a command line of its own, a compilation that has rendered its files gets
its command, and whenever it calls its runner, this is the default command with the flags and defines
that the lists hold. These are the intended ones unless a template has changed the lists. -/
theorem defaultCommand_run {past : List Moment} {s : Session} {w : World}
    (reached : Reached past s w) (calls : ∀ m ∈ past, m.call.IsPlain)
    (standard : s.plan.program.allMetadata .customBuildCommandLine = []) :
    ∃ required, s.plan.Requires required ∧
      (∀ source s1 w1, Rendered source s w s1 w1 →
        ∃ binary arguments s2 w2, Prepared source s w binary arguments s2 w2) ∧
      ∀ source runner check,
        let after := ((Call.compile source runner check).moment (s, w)).after
        after.2.runs ≠ w.runs → ∃ i binary arguments, s.info = some i ∧
          after.1.lastCommand = s.plan.argumentsNow required after.2.objects i ∧
          (s.plan.Untouched required after.2.objects →
            after.1.lastCommand = Command.defaultArguments s.plan required i) ∧
          after.1.lastCommand = binary :: arguments ∧
          after.2.runs = w.runs ++ [⟨s.plan.srcFolder, binary, arguments, true⟩] := by
  obtain ⟨required, plain⟩ := reached.plain calls
  obtain ⟨_, stocked⟩ := reached.stocked
  refine ⟨required, plain.requires, fun source s1 w1 rendered => ?_, ?_⟩
  · obtain ⟨i, known⟩ := Option.ne_none_iff_exists'.mp rendered.known
    obtain ⟨binary, arguments, -, performed⟩ := plain.perform_of_rendered known standard rendered
    exact ⟨binary, arguments, _, _, .intro rendered performed⟩
  intro source runner check
  have goes := goes_call (.compile source runner check) s w
  rcases ended : perform (Call.compile source runner check).act (s, w) with ⟨o, s', w'⟩
  rw [ended] at goes
  simp only [Call.moment, ended]
  intro ran
  cases goes with | compile exit => ?_
  obtain ⟨binary, arguments, s1, w1, prepared, exit⟩ := stocked.finished_of_ran exit ran
  obtain ⟨i, known⟩ := Option.ne_none_iff_exists'.mp prepared.known
  have before := (stocked.since prepared.follows).2
  have command : s'.lastCommand = s.plan.argumentsNow required w'.objects i := by
    rw [exit.lastCommand_eq, prepared.lastCommand_eq,
      plain.command_of_prepared known standard prepared, exit.objects_eq]
  refine ⟨i, binary, arguments, known, command, fun untouched => ?_, ?_, ?_⟩
  · rw [command, untouched.argumentsNow_eq]
  · rw [exit.lastCommand_eq, prepared.lastCommand_eq]
  · rw [exit.runs_eq, before]

namespace Small

/-- The program without a command line of its own. -/
def standardProgram : Program :=
  { program with classes := [⟨"app.Main", [], [], [(.addLibraries, [.text "format"])]⟩] }

/-- The session of the small program can be created. -/
theorem standard_isOk : (created standardProgram settings).toOption.isSome = true := by
  decide +kernel

/-- The sources of the program are generated. -/
def generated : List Moment × Session × World :=
  follow [.buildSource generator] [] (begun standard_isOk)

/-- The program is compiled, and nothing is missing. -/
def compiled : Moment :=
  (Call.compile (sourceWithout []) (toolchain id) false).moment (generated.2.1, generated.2.2)

/-- The command line of the small program, in full. -/
def commandLine : List Text := ["haxe", "-cp", "/target/haxe-build/src", "-main", "Main.hx",
  "-debug", "-js", "/out/program.js", "-lib", "format", "-lib", "hxcpp:4.3", "-D", "no-analyzer"]

end Small

/-- A generated program whose command line has all parts. -/
theorem defaultCommand_run_generated :
    (∀ m ∈ Small.generated.1, m.call.IsPlain) ∧
      Small.generated.2.1.plan.program.allMetadata .customBuildCommandLine = [] ∧
      Small.compiled.after.2.runs ≠ Small.generated.2.2.runs ∧
      Small.compiled.after.1.lastCommand = Small.commandLine ∧
      ∃ required i, Small.generated.2.1.plan.Requires required ∧
        Small.compiled.after.1.lastCommand =
          Command.defaultArguments Small.generated.2.1.plan required i := by
  have reached : Reached Small.generated.1 Small.generated.2.1 Small.generated.2.2 :=
    (Small.reached_begun Small.standard_isOk).follow _
  have calls : ∀ m ∈ Small.generated.1, m.call.IsPlain := by
    simp only [Small.generated, follow, List.forall_mem_singleton, Call.moment, Call.IsPlain]
  have standard : Small.generated.2.1.plan.program.allMetadata .customBuildCommandLine = [] :=
    List.isEmpty_iff.mp (by decide +kernel)
  obtain ⟨called, whole, unchanged⟩ : Small.compiled.after.2.runs ≠ Small.generated.2.2.runs ∧
      Small.compiled.after.1.lastCommand = Small.commandLine ∧
      Small.compiled.after.2.objects.changed.isEmpty := by decide +kernel
  obtain ⟨required, requires, -, runs⟩ := defaultCommand_run reached calls standard
  unfold Small.compiled at called whole unchanged ⊢
  obtain ⟨i, binary, arguments, -, -, command, -⟩ := runs _ _ _ called
  have untouched := BuildPlan.untouched_of_unchanged Small.generated.2.1.plan required
    (List.isEmpty_iff.mp unchanged)
  exact ⟨calls, standard, called, whole, required, i, requires, command untouched⟩

/-- A file that is rendered before has taken all flags away, so the command names no library. -/
theorem defaultCommand_cleared :
    Small.clearingSources.2.1.plan.Requires [⟨"format", none⟩, ⟨"hxcpp", some "4.3"⟩] ∧
      Small.clearingSources.2.1.plan.program.allMetadata .customBuildCommandLine = [] ∧
      Small.cleared.after.2.runs ≠ Small.clearingSources.2.2.runs ∧
      ("-lib" : Text) ∉ Small.cleared.after.1.lastCommand := by
  have standard :
      (Small.clearingSources.2.1.plan.program.allMetadata .customBuildCommandLine).isEmpty := by
    decide +kernel
  refine ⟨⟨[⟨"format", none⟩], ?_, ?_⟩, List.isEmpty_iff.mp standard, ?_, ?_⟩
  · decide +kernel
  · decide +kernel
  · decide +kernel
  · decide +kernel

end Session

end HaxeBuild
