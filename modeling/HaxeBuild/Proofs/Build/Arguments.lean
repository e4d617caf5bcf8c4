import Mathlib.Algebra.GroupWithZero.Nat
import HaxeBuild.Proofs.Build.CommandLine

namespace HaxeBuild

open Effect

namespace LibraryReference

/-- The name and the version have no blanks around them, and neither is empty. -/
structure IsTidy (l : LibraryReference) : Prop where
  named : l.name ≠ []
  name : Text.trim l.name = l.name
  version : ∀ version, l.version = some version → version ≠ [] ∧ Text.trim version = version

theorem isTidy_of_parse {text : Text} {l : LibraryReference} (read : parse text = .valid l) :
    IsTidy l := by
  have tidy {name : Text} {version : Option Text} (trimmed : Text.trim name = name)
      (stated : ∀ v, version = some v → v ≠ [] ∧ Text.trim v = v)
      (accepted : checked name version = .valid l) : IsTidy l := by
    rw [checked, checkedName] at accepted
    split at accepted
    · cases accepted
    · split at accepted
      · cases accepted
      · rename_i named
        cases accepted
        exact ⟨fun empty => named (List.isEmpty_iff.mpr empty), trimmed, stated⟩
  rw [parse] at read
  dsimp only at read
  split at read
  · rename_i name version _
    refine tidy (Text.trim_trim name) (fun v is => ?_) read
    split at is
    · cases is
    · rename_i present
      cases is
      exact ⟨fun empty => present (List.isEmpty_iff.mpr empty), Text.trim_trim version⟩
  · refine tidy (Text.trim_trim text) (fun v is => ?_) read
    cases is

/-- What the compiler is given for a library without outer blanks can only be spoiled by line
ends. -/
theorem IsTidy.isArgument_iff {l : LibraryReference} (tidy : IsTidy l) :
    Command.IsArgument l.haxeSpec ↔ ∀ c ∈ l.haxeSpec, c.endsLine = false := by
  refine ⟨fun is => is.inner, fun inner => ⟨?_, ?_, inner⟩⟩
  · rw [haxeSpec, joined]
    split
    · simp [tidy.named]
    · exact tidy.named
  · rw [haxeSpec, joined]
    split
    · rename_i version stated
      obtain ⟨known, -⟩ := Option.filter_eq_some_iff.mp stated
      obtain ⟨present, trimmed⟩ := tidy.version version known
      exact Text.trim_between tidy.named present tidy.name trimmed ":"
    · exact tidy.name

end LibraryReference

namespace Command

/-- A place for one argument: a word that stands in the template, or a value. -/
inductive Slot where
  | word (t : Text)
  | value (t : Text)

namespace Slot

def text : Slot → Text
  | word t => t
  | value t => t

def value? : Slot → Option Text
  | word _ => none
  | value t => some t

/-- The arguments that come out of the place. -/
def arguments (slot : Slot) : List Text := split slot.text

variable {slots : List Slot}

/-- All words are arguments. -/
def Worded (slots : List Slot) : Prop := ∀ t, word t ∈ slots → IsArgument t

theorem arguments_word {t : Text} (worded : Worded slots) (among : word t ∈ slots) :
    (word t).arguments = [t] :=
  split_eq_self_iff.mpr (worded t among)

/-- All places hold the argument that they are meant for exactly if all values are arguments. -/
theorem flatMap_arguments_eq_iff (worded : Worded slots) :
    slots.flatMap arguments = slots.map text ↔ ∀ v ∈ slots.filterMap value?, IsArgument v := by
  constructor
  · intro kept v among
    obtain ⟨slot, known, is⟩ := List.mem_filterMap.mp among
    have still : slot.text ∈ slots.flatMap arguments := by
      rw [kept]
      exact List.mem_map_of_mem known
    obtain ⟨other, -, part⟩ := List.mem_flatMap.mp still
    cases slot with
    | word t => cases is
    | value t =>
      cases is
      exact isArgument_of_mem_split part
  · intro all
    have each : ∀ slot ∈ slots, slot.arguments = [slot.text] := by
      intro slot known
      cases slot with
      | word t => exact arguments_word worded known
      | value t => exact split_eq_self_iff.mpr (all t (List.mem_filterMap.mpr ⟨_, known, rfl⟩))
    rw [List.flatMap_congr each]
    exact List.map_eq_flatMap.symm

/-- A value changes the number of arguments by as much as it has more or fewer of them than one. -/
theorem length_flatMap_arguments (worded : Worded slots) :
    (slots.flatMap arguments).length + (slots.filterMap value?).length =
      slots.length + ((slots.filterMap value?).map fun v => (split v).length).sum := by
  induction slots with
  | nil => rfl
  | cons slot slots inductionHypothesis =>
    have rest := inductionHypothesis fun t among => worded t (List.mem_cons_of_mem _ among)
    cases slot with
    | word t =>
      rw [List.flatMap_cons, arguments_word worded List.mem_cons_self,
        List.filterMap_cons_none rfl, List.length_append, List.length_singleton, List.length_cons]
      omega
    | value t =>
      have value : (Slot.value t).value? = some t := rfl
      rw [List.flatMap_cons, List.filterMap_cons_some value, List.length_append, List.map_cons,
        List.sum_cons, List.length_cons, List.length_cons, arguments, text]
      omega

end Slot

variable {p : BuildPlan} {required : List LibraryReference} {i : ProgramInfo}

/-- The places of the default command. -/
def slots (p : BuildPlan) (required : List LibraryReference) (i : ProgramInfo) : List Slot :=
  let option (name value : Text) : List Slot := [.word name, .value value]
  .value p.toolchain :: option "-cp" p.srcFolder.toText ++ option "-main" i.entryPointFile ++
    (if p.settings.release then [] else [.word "-debug"]) ++
    [.value p.subtarget.commandSwitch, .value p.outputFile.toText] ++
    required.flatMap (fun l => option "-lib" l.haxeSpec) ++
    p.settings.extraDefines.flatMap fun d => [.word "-D", .word d]

theorem length_slots (p : BuildPlan) (required : List LibraryReference) (i : ProgramInfo) :
    (slots p required i).length =
      7 + (if p.settings.release then 0 else 1) + 2 * required.length +
        2 * p.settings.extraDefines.length := by
  have pairs {α : Type} (as : List α) (first second : α → Slot) :
      (as.flatMap fun a => [first a, second a]).length = 2 * as.length := by
    simp [List.length_flatMap, Nat.mul_comm]
  simp only [slots, List.length_append, List.length_cons, List.length_nil, pairs]
  cases p.settings.release <;> simp

theorem worded_slots (p : BuildPlan) (required : List LibraryReference) (i : ProgramInfo) :
    Slot.Worded (slots p required i) := by
  intro t among
  refine split_eq_self_iff.mp ?_
  simp only [slots, List.mem_append, List.mem_cons, List.not_mem_nil, List.mem_flatMap,
    Slot.word.injEq, reduceCtorEq, or_false, false_or] at among
  rcases among with (((rfl | rfl) | debug) | ⟨_, -, rfl⟩) | ⟨d, known, rfl | rfl⟩
  · exact split_option _ (by simp)
  · exact split_option _ (by simp)
  · split at debug
    · cases debug
    · cases List.mem_singleton.mp debug
      exact split_option _ (by simp)
  · exact split_option _ (by simp)
  · exact split_option _ (by simp)
  · exact split_extraDefine known

/-- The default command is split place by place. -/
theorem defaultArguments_eq (p : BuildPlan) (required : List LibraryReference) (i : ProgramInfo) :
    defaultArguments p required i = (slots p required i).flatMap Slot.arguments := by
  have defines : p.settings.extraDefines.flatMap (fun d => split "-D" ++ split d) =
      p.settings.extraDefines.flatMap fun d => [("-D" : Text), d] := by
    refine List.flatMap_congr fun d known => ?_
    rw [split_option "-D" (by simp), split_extraDefine known]
    rfl
  simp only [slots, List.flatMap_append, List.flatMap_cons, List.flatMap_nil, List.flatMap_assoc,
    List.append_nil, Slot.arguments, Slot.text, defines]
  rw [split_option "-cp" (by simp), split_option "-main" (by simp), split_option "-lib" (by simp),
    defaultArguments]
  cases p.settings.release with
  | true => simp
  | false => simp [Slot.arguments, Slot.text, split_option "-debug" (by simp)]

end Command

namespace Session

/-- In a program without a command line of its own, a compilation that calls its runner has filled
the places of the default command, if no template has changed its lists. -/
theorem Plain.lastCommand_of_ran {past : List Moment} {s : Session} {w : World}
    {required : List LibraryReference} (plain : Plain s required) (reached : Reached past s w)
    (standard : s.plan.program.allMetadata .customBuildCommandLine = []) {source : PackageSource}
    {runner : ProcessRunner} {check : Bool}
    (ran : ((Call.compile source runner check).moment (s, w)).after.2.runs ≠ w.runs)
    (untouched : s.plan.Untouched required
      ((Call.compile source runner check).moment (s, w)).after.2.objects) :
    ∃ i, s.info = some i ∧
      ((Call.compile source runner check).moment (s, w)).after.1.lastCommand =
        (Command.slots s.plan required i).flatMap Command.Slot.arguments := by
  have goes := goes_call (.compile source runner check) s w
  obtain ⟨_, stocked⟩ := reached.stocked
  rcases ended : perform (Call.compile source runner check).act (s, w) with ⟨o, s', w'⟩
  rw [ended] at goes
  simp only [Call.moment, ended] at ran untouched ⊢
  cases goes with | compile exit => ?_
  obtain ⟨binary, arguments, s1, w1, prepared, exit⟩ := stocked.finished_of_ran exit ran
  obtain ⟨i, known⟩ := Option.ne_none_iff_exists'.mp prepared.known
  rw [exit.objects_eq] at untouched
  refine ⟨i, known, ?_⟩
  rw [exit.lastCommand_eq, prepared.lastCommand_eq,
    plain.command_of_prepared known standard prepared, untouched.argumentsNow_eq,
    Command.defaultArguments_eq]

/-- If no template has changed the lists of flags and defines, a command has as many arguments as it
is meant to have, up to those that its values have more or fewer than one of, and it is as it is
meant exactly if every value is one trimmed line. The library that a text of the settings names is
spoiled by line ends only. -/
theorem command_intended_iff {past : List Moment} {s : Session} {w : World}
    (reached : Reached past s w) (calls : ∀ m ∈ past, m.call.IsPlain)
    (standard : s.plan.program.allMetadata .customBuildCommandLine = []) :
    ∃ required, s.plan.Requires required ∧
      (∀ text, .text text ∈ s.plan.settings.libraries →
        ∀ l, LibraryReference.parse text = .valid l →
          (Command.IsArgument l.haxeSpec ↔ ∀ c ∈ l.haxeSpec, c.endsLine = false)) ∧
      ∀ source runner check,
        let after := ((Call.compile source runner check).moment (s, w)).after
        after.2.runs ≠ w.runs → s.plan.Untouched required after.2.objects →
          ∃ i, s.info = some i ∧
            let slots := Command.slots s.plan required i
            let values := slots.filterMap Command.Slot.value?
            slots.length = 7 + (if s.plan.settings.release then 0 else 1) + 2 * required.length +
              2 * s.plan.settings.extraDefines.length ∧
            after.1.lastCommand = slots.flatMap Command.Slot.arguments ∧
            after.1.lastCommand.length + values.length =
              slots.length + (values.map fun v => (Command.split v).length).sum ∧
            (after.1.lastCommand = slots.map Command.Slot.text ↔
              ∀ v ∈ values, Command.IsArgument v) := by
  obtain ⟨required, plain⟩ := reached.plain calls
  refine ⟨required, plain.requires, fun _ _ l read => ?_, fun source runner check => ?_⟩
  · exact (LibraryReference.isTidy_of_parse read).isArgument_iff
  · intro after ran untouched
    obtain ⟨i, known, command⟩ := plain.lastCommand_of_ran reached standard ran untouched
    have worded := Command.worded_slots s.plan required i
    refine ⟨i, known, Command.length_slots s.plan required i, command, ?_, ?_⟩
    · rw [command]
      exact Command.Slot.length_flatMap_arguments worded
    · rw [command]
      exact Command.Slot.flatMap_arguments_eq_iff worded

namespace Small

/-- The settings name a library on three lines. -/
def injectedSettings : Settings := { settings with libraries := [.text "hxcpp\n-lib\nlime"] }

theorem injected_isOk : (created standardProgram injectedSettings).toOption.isSome = true := by
  decide +kernel

def injectedSources : List Moment × Session × World :=
  follow [.buildSource generator] [] (begun injected_isOk)

/-- The program is compiled, and the package source accepts whatever it is asked for. -/
def injected : Moment :=
  (Call.compile (sourceWithout []) (toolchain id) false).moment
    (injectedSources.2.1, injectedSources.2.2)

def injectedCommand : List Text := ["haxe", "-cp", "/target/haxe-build/src", "-main", "Main.hx",
  "-debug", "-js", "/out/program.js", "-lib", "format", "-lib", "hxcpp", "-lib", "lime", "-D",
  "no-analyzer"]

/-- The compiler is called with a library that is not among those asked for. -/
theorem injected_after :
    injected.after.2.runs ≠ injectedSources.2.2.runs ∧
      injected.after.1.lastCommand = injectedCommand ∧
      injected.after.2.asked.map (·.library.name) = ["format", "hxcpp\n-lib\nlime"] := by
  decide +kernel

end Small

theorem command_intended_iff_injected :
    (∀ m ∈ Small.injectedSources.1, m.call.IsPlain) ∧
      Small.injectedSources.2.1.plan.program.allMetadata .customBuildCommandLine = [] ∧
      Small.injected.after.2.runs ≠ Small.injectedSources.2.2.runs ∧
      ∃ required i, Small.injectedSources.2.1.plan.Requires required ∧
        Small.injected.after.1.lastCommand =
          (Command.slots Small.injectedSources.2.1.plan required i).flatMap
            Command.Slot.arguments := by
  have reached : Reached Small.injectedSources.1 Small.injectedSources.2.1
      Small.injectedSources.2.2 := (Small.reached_begun Small.injected_isOk).follow _
  have calls : ∀ m ∈ Small.injectedSources.1, m.call.IsPlain := by
    simp only [Small.injectedSources, follow, List.forall_mem_singleton, Call.moment,
      Call.IsPlain]
  have standard :
      Small.injectedSources.2.1.plan.program.allMetadata .customBuildCommandLine = [] :=
    List.isEmpty_iff.mp (by decide +kernel)
  have called := Small.injected_after.1
  have unchanged : Small.injected.after.2.objects.changed.isEmpty := by decide +kernel
  obtain ⟨required, requires, -, runs⟩ := command_intended_iff reached calls standard
  unfold Small.injected at called unchanged ⊢
  have untouched := BuildPlan.untouched_of_unchanged Small.injectedSources.2.1.plan required
    (List.isEmpty_iff.mp unchanged)
  obtain ⟨i, -, -, command, -⟩ := runs _ _ _ called untouched
  exact ⟨calls, standard, called, required, i, requires, command⟩

/-- A library whose name has line ends brings two arguments more than its two, and so a library that
the package source was never asked for. -/
theorem command_injected :
    Small.injectedSources.2.1.plan.Requires
        [⟨"format", none⟩, ⟨"hxcpp\n-lib\nlime", none⟩] ∧
      Small.injected.after.2.runs ≠ Small.injectedSources.2.2.runs ∧
      Small.injected.after.1.lastCommand.length ≠ 7 + 1 + 2 * 2 + 2 * 1 ∧
      ([Text.ofString "-lib", Text.ofString "lime"] : List Text) <:+:
        Small.injected.after.1.lastCommand ∧
      ∀ r ∈ Small.injected.after.2.asked, r.library.name ≠ Text.ofString "lime" := by
  obtain ⟨called, command, asked⟩ := Small.injected_after
  refine ⟨⟨[⟨"format", none⟩], ?_, ?_⟩, called, ?_, ?_, fun r among => ?_⟩
  · decide +kernel
  · decide +kernel
  · rw [command]
    decide
  · rw [command]
    exact ⟨Small.injectedCommand.take 12, ["-D", "no-analyzer"], rfl⟩
  · have named := List.mem_map_of_mem (f := fun r : Request => r.library.name) among
    rw [asked] at named
    rcases List.mem_pair.mp named with is | is <;> rw [is] <;> decide

end Session

end HaxeBuild
