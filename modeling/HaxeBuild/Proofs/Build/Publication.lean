import HaxeBuild.Proofs.Build.History

namespace HaxeBuild

open Effect
open Session (entryPointFile entryPointClass)

namespace Parameters

variable {p grown : Parameters} {o o' : Objects} {i i' : ProgramInfo}

/-- The parameters know nothing else of where the program starts. -/
structure Allows (p : Parameters) (o : Objects) (i : ProgramInfo) : Prop where
  file : ¬ p.Refuses "entryPointFile" (entryPointFile i) false o.now
  name : ¬ p.Refuses "entryPointClass" (entryPointClass i) false o.now

/-- The parameters know another class, but no file. -/
structure Halves (p : Parameters) (o : Objects) (i : ProgramInfo) : Prop where
  unknown : p.get? "entryPointFile" = none
  refused : p.Refuses "entryPointClass" (entryPointClass i) false o.now

/-- The parameters after the entry point is told, and whether it is refused. -/
def tell (p : Parameters) (o : Objects) (i : ProgramInfo) : Parameters × Outcome Unit :=
  p.update i.parameters (fun _ => false) o.now

/-- The parameters with the file of an entry point. -/
def withFile (p : Parameters) (i : ProgramInfo) : Parameters :=
  p ++ ([("entryPointFile", entryPointFile i)] : Parameters)

/-- What becomes of an entry point, with the parameters that are left. -/
inductive Publication (p : Parameters) (o : Objects) (i : ProgramInfo) :
    Parameters × Outcome Unit → Prop where
  | fileRefused (refused : p.Refuses "entryPointFile" (entryPointFile i) false o.now) :
      Publication p o i (p, .error (.parameterConflict "entryPointFile"))
  | classRefused (known : p.get? "entryPointFile" ≠ none)
      (allowed : ¬ p.Refuses "entryPointFile" (entryPointFile i) false o.now)
      (refused : p.Refuses "entryPointClass" (entryPointClass i) false o.now) :
      Publication p o i (p, .error (.parameterConflict "entryPointClass"))
  | halved (half : p.Halves o i) :
      Publication p o i (p.withFile i, .error (.parameterConflict "entryPointClass"))
  | published (allowed : p.Allows o i) (grown : Parameters) : Publication p o i (grown, .ok ())

theorem class_ne_file : Text.ofString "entryPointClass" ≠ "entryPointFile" := by decide

/-- The file is added before the class is looked up. -/
theorem publication (p : Parameters) (o : Objects) (i : ProgramInfo) :
    Publication p o i (p.tell o i) := by
  simp only [tell, ProgramInfo.parameters, update]
  by_cases file : p.Refuses "entryPointFile" (entryPointFile i) false o.now
  · rw [add_of_refused file]
    exact .fileRefused file
  · obtain ⟨q, added⟩ := add_of_allowed file
    have same : q.Refuses "entryPointClass" (entryPointClass i) false o.now ↔
        p.Refuses "entryPointClass" (entryPointClass i) false o.now :=
      refuses_iff_of_add added class_ne_file
    rw [added]
    by_cases name : p.Refuses "entryPointClass" (entryPointClass i) false o.now
    · simp only [add_of_refused (same.mpr name)]
      rcases add_eq_ok_iff.mp added with ⟨⟨old, known, -⟩, rfl⟩ | ⟨unknown, rfl⟩
      · refine .classRefused ?_ file name
        rw [known]
        exact Option.some_ne_none old
      · exact .halved ⟨unknown, name⟩
    · obtain ⟨grown, done⟩ := add_of_allowed (mt same.mp name)
      simp only [done]
      exact .published ⟨file, name⟩ grown

theorem tell_of_refused (refused : p.Refuses "entryPointFile" (entryPointFile i) false o.now) :
    p.tell o i = (p, .error (.parameterConflict "entryPointFile")) := by
  have is := publication p o i
  generalize p.tell o i = result at is ⊢
  cases is with
  | fileRefused => rfl
  | classRefused _ allowed => exact absurd refused allowed
  | halved half => exact absurd refused (not_refuses_of_unknown half.unknown)
  | published allowed => exact absurd refused allowed.file

theorem Halves.tell_eq (half : p.Halves o i) :
    p.tell o i = (p.withFile i, .error (.parameterConflict "entryPointClass")) := by
  have is := publication p o i
  generalize p.tell o i = result at is ⊢
  cases is with
  | fileRefused refused => exact absurd refused (not_refuses_of_unknown half.unknown)
  | classRefused known => exact absurd half.unknown known
  | halved => rfl
  | published allowed => exact absurd half.refused allowed.name

/-- Otherwise an entry point that is refused changes nothing. -/
theorem tell_eq_self {e : BuildError} (refused : p.tell o i = (grown, .error e))
    (whole : ¬ p.Halves o i) : grown = p := by
  have is := publication p o i
  rw [refused] at is
  cases is with
  | fileRefused => rfl
  | classRefused => rfl
  | halved half => exact absurd half whole

theorem tell_ok_iff : (p.tell o i).2 = .ok () ↔ p.Allows o i := by
  have is := publication p o i
  generalize p.tell o i = result at is ⊢
  cases is with
  | fileRefused refused => exact ⟨nofun, fun allowed => absurd refused allowed.file⟩
  | classRefused _ _ refused => exact ⟨nofun, fun allowed => absurd refused allowed.name⟩
  | halved half => exact ⟨nofun, fun allowed => absurd half.refused allowed.name⟩
  | published allowed => exact ⟨fun _ => allowed, fun _ => rfl⟩

namespace Halves

theorem add_eq (half : p.Halves o i) :
    p.add "entryPointFile" (entryPointFile i) false o.now = .ok (p.withFile i) :=
  add_of_unknown half.unknown _

theorem known (half : p.Halves o i) :
    (p.withFile i).get? "entryPointFile" = some (entryPointFile i) := by
  rw [get?_add half.add_eq, if_pos rfl, half.unknown]
  rfl

/-- From then on the file decides that was published without a class. -/
theorem allows_iff (half : p.Halves o i) (allowed : p.Allows o' i') :
    (p.withFile i).Allows o' i' ↔ i'.entryPointFile = i.entryPointFile := by
  have file : (p.withFile i).Refuses "entryPointFile" (entryPointFile i') false o'.now ↔
      i'.entryPointFile ≠ i.entryPointFile := refuses_text_iff half.known (o'.now_text _)
  constructor
  · intro still
    exact Classical.not_not.mp (mt file.mpr still.file)
  · intro same
    refine ⟨fun refused => file.mp refused same, ?_⟩
    exact mt (refuses_iff_of_add half.add_eq class_ne_file).mp allowed.name

end Halves

end Parameters

namespace Session

variable {s s' : Session} {w w' : World} {generator : SourceGenerator} {i : ProgramInfo}
  {past : List Moment}

/-- The sources can be generated, and say where the program starts. -/
def Generates (generator : SourceGenerator) (s : Session) (w : World) (i : ProgramInfo) : Prop :=
  (perform (sources s.plan w.objects generator) w.files).1 = .ok i

/-- The program would start in a file that nobody knows of, but in another class. -/
structure HalfPublishes (generator : SourceGenerator) (s : Session) (w : World) (i : ProgramInfo) :
    Prop where
  generates : Generates generator s w i
  half : s.parameters.Halves w.objects i

theorem moment_of_generates (generates : Generates generator s w i) :
    let m := (Call.buildSource generator).moment (s, w)
    m.after.1.parameters = (s.parameters.tell w.objects i).1 ∧
      m.answer = (s.parameters.tell w.objects i).2.map fun _ => .info i := by
  rw [Generates] at generates
  rcases made : perform (sources s.plan w.objects generator) w.files with ⟨o, t⟩
  rw [made] at generates
  cases generates
  simp only [Call.moment, Call.act, perform_bind_pure, perform_buildSource, made, Parameters.tell]
  rcases s.parameters.update i.parameters (fun _ => false) w.objects.now with ⟨p, e | _⟩
  · exact ⟨rfl, rfl⟩
  · exact ⟨rfl, rfl⟩

theorem answer_ok_iff (generates : Generates generator s w i) :
    ((Call.buildSource generator).moment (s, w)).answer = .ok (.info i) ↔
      s.parameters.Allows w.objects i := by
  rw [(moment_of_generates generates).2, ← Parameters.tell_ok_iff]
  rcases (s.parameters.tell w.objects i).2 with e | _
  · exact ⟨nofun, nofun⟩
  · exact ⟨fun _ => rfl, fun _ => rfl⟩

/-- What is left of the session is the same, but for the parameters. -/
theorem after_of_failed {e : BuildError}
    (failed : ((Call.buildSource generator).moment (s, w)).answer = .error e) :
    let after := ((Call.buildSource generator).moment (s, w)).after.1
    after = { s with parameters := after.parameters } ∧
      (after.parameters = s.parameters ∨
        ∃ i p, Generates generator s w i ∧
          s.parameters.tell w.objects i = (p, .error e) ∧ after.parameters = p) := by
  simp only [Generates, Call.moment, Call.act, perform_bind_pure, perform_buildSource,
    Parameters.tell] at failed ⊢
  rcases made : perform (sources s.plan w.objects generator) w.files with ⟨f | i, t⟩
  · simp
  · simp only [made] at failed
    rcases updated : s.parameters.update i.parameters (fun _ => false) w.objects.now
      with ⟨p, e' | _⟩
    · simp only [updated] at failed ⊢
      cases failed
      exact ⟨trivial, .inr ⟨i, p, rfl, updated, rfl⟩⟩
    · simp only [updated] at failed
      cases failed

theorem parameters_of_failed {e : BuildError}
    (failed : ((Call.buildSource generator).moment (s, w)).answer = .error e)
    (whole : ∀ i, ¬ HalfPublishes generator s w i) :
    ((Call.buildSource generator).moment (s, w)).after.1.parameters = s.parameters := by
  rcases (after_of_failed failed).2 with same | ⟨i, p, generates, updated, same⟩
  · exact same
  · rw [same]
    exact Parameters.tell_eq_self updated fun half => whole i ⟨generates, half⟩

namespace HalfPublishes

theorem unique {i' : ProgramInfo} (first : HalfPublishes generator s w i)
    (second : HalfPublishes generator s w i') : i' = i :=
  Except.ok.inj (second.generates.symm.trans first.generates)

theorem moment_eq (published : HalfPublishes generator s w i) :
    let m := (Call.buildSource generator).moment (s, w)
    m.after.1.parameters = s.parameters.withFile i ∧
      m.answer = .error (.parameterConflict "entryPointClass") := by
  have is := moment_of_generates published.generates
  rw [published.half.tell_eq] at is
  exact is

/-- The file stays among the parameters, however the build goes on. -/
theorem refuses_later (published : HalfPublishes generator s w i) (calls : List Call)
    {generator' : SourceGenerator} {i' : ProgramInfo} :
    let m := (Call.buildSource generator).moment (s, w)
    let now := (follow calls (m :: past) m.after).2
    Generates generator' now.1 now.2 i' → i'.entryPointFile ≠ i.entryPointFile →
      ((Call.buildSource generator').moment now).answer =
        .error (.parameterConflict "entryPointFile") := by
  intro m now generates differs
  have first : m.after.1.parameters <+: now.1.parameters := (grows_follow calls _ _).first
  rw [published.moment_eq.1] at first
  have known := Parameters.get?_of_prefix first published.half.known
  have refused := (Parameters.refuses_text_iff known (now.2.objects.now_text _)).mpr differs
  rw [(moment_of_generates generates).2, Parameters.tell_of_refused refused]
  rfl

end HalfPublishes

/-- A caller has told the class of the entry point. -/
def Moment.TellsClass (m : Moment) : Prop :=
  ∃ value, m.call = .addParameter "entryPointClass" value ∧ m.answer = .ok .nothing

/-- Only a caller tells the class without a file. -/
theorem Goes.told {call : Call} {o : Outcome Answer} (goes : Goes s w call o s' w')
    (unknown : s'.parameters.get? "entryPointFile" = none)
    (known : s'.parameters.get? "entryPointClass" ≠ none) :
    s.parameters.get? "entryPointClass" ≠ none ∨
      ∃ value, call = .addParameter "entryPointClass" value ∧ o = .ok .nothing := by
  cases goes with
  | buildSource exit =>
    cases exit with
    | failed => exact .inl known
    | refused file => exact absurd unknown (Parameters.known_of_add file)
    | generated file name =>
      have same := Parameters.get?_add name "entryPointFile"
      rw [if_neg Parameters.class_ne_file.symm] at same
      exact absurd (same.symm.trans unknown) (Parameters.known_of_add file)
  | compile exit =>
    rw [exit.parameters_eq] at known
    exact .inl known
  | run exit => cases exit <;> exact .inl known
  | render => exact .inl known
  | @added key value grown new =>
    by_cases same : "entryPointClass" = key
    · exact .inr ⟨value, by rw [same], rfl⟩
    · have kept := Parameters.get?_add new "entryPointClass"
      rw [if_neg same] at kept
      rw [← kept]
      exact .inl known
  | refused => exact .inl known
  | changeProgram => exact .inl known
  | changeFiles => exact .inl known

theorem Reached.told (reached : Reached past s w)
    (unknown : s.parameters.get? "entryPointFile" = none)
    (known : s.parameters.get? "entryPointClass" ≠ none) : ∃ m ∈ past, m.TellsClass := by
  induction reached with
  | created t clock made =>
    obtain ⟨required, new⟩ := isNew_of_new made
    rw [new.parameters] at known
    exact absurd rfl known
  | @next past s w reached call inductionHypothesis =>
    have goes := goes_call call s w
    rcases goes.told unknown known with before | now
    · -- Parameters only grow, so the file was not known before either.
      have unknown : s.parameters.get? "entryPointFile" = none := by
        cases found : s.parameters.get? "entryPointFile" with
        | none => rfl
        | some old =>
          have still := Parameters.get?_of_prefix goes.grows.first found
          cases still.symm.trans unknown
      obtain ⟨m, among, tells⟩ := inductionHypothesis unknown before
      exact ⟨m, List.mem_cons_of_mem _ among, tells⟩
    · exact ⟨_, List.mem_cons_self, now⟩

/-- A generation of sources that fails changes parameters alone, and these only where somebody has
told another class of the entry point before there was a file: then the file is published without
its class. From then on no sources can be generated that start in another file, however the build
goes on. Otherwise everything that was allowed before still succeeds. -/
theorem failed_buildSource (reached : Reached past s w) (generator : SourceGenerator)
    {e : BuildError}
    (failed : ((Call.buildSource generator).moment (s, w)).answer = .error e) :
    let m := (Call.buildSource generator).moment (s, w)
    m.after.1 = { s with parameters := m.after.1.parameters } ∧
      (m.after.1.parameters = s.parameters ↔ ∀ i, ¬ HalfPublishes generator s w i) ∧
      (∀ i, HalfPublishes generator s w i →
        e = .parameterConflict "entryPointClass" ∧
          m.after.1.parameters = s.parameters.withFile i ∧
          (∃ told ∈ past, told.TellsClass) ∧
          ∀ calls generator' i', let now := (follow calls (m :: past) m.after).2
            Generates generator' now.1 now.2 i' → i'.entryPointFile ≠ i.entryPointFile →
              ((Call.buildSource generator').moment now).answer =
                .error (.parameterConflict "entryPointFile")) ∧
      ∀ s' w' generator' i', s'.parameters = m.after.1.parameters →
        Generates generator' s' w' i' → s.parameters.Allows w'.objects i' →
          (((Call.buildSource generator').moment (s', w')).answer = .ok (.info i') ↔
            ∀ i, HalfPublishes generator s w i → i'.entryPointFile = i.entryPointFile) := by
  intro m
  refine ⟨(after_of_failed failed).1, ⟨fun same i published => ?_, parameters_of_failed failed⟩,
    fun i published => ?_, fun s' w' generator' i' same generates allowed => ?_⟩
  · rw [published.moment_eq.1] at same
    simpa [Parameters.withFile] using congrArg List.length same
  · have ⟨left, answered⟩ := published.moment_eq
    obtain ⟨old, known, -⟩ := published.half.refused
    refine ⟨Except.error.inj (failed.symm.trans answered), left, ?_, ?_⟩
    · refine reached.told published.half.unknown ?_
      rw [known]
      exact Option.some_ne_none old
    · exact fun calls _ _ => published.refuses_later calls
  · rw [answer_ok_iff generates, same]
    by_cases exists_half : ∃ i, HalfPublishes generator s w i
    · obtain ⟨i, published⟩ := exists_half
      rw [published.moment_eq.1, published.half.allows_iff allowed]
      constructor
      · intro same i₂ again
        rw [published.unique again]
        exact same
      · exact fun all => all i published
    · have whole := not_exists.mp exists_half
      rw [parameters_of_failed failed whole]
      exact ⟨fun _ i published => absurd published (whole i), fun _ => allowed⟩

namespace Small

def startingIn (i : ProgramInfo) : SourceGenerator := fun _ _ _ _ t => (.ok i, t)

def main : ProgramInfo := ⟨"app.Main", "Main.hx"⟩

def other : ProgramInfo := ⟨"app.Other", "Other.hx"⟩

/-- Somebody tells the class before the sources are generated. -/
def told : List Moment × Session × World :=
  follow [.addParameter "entryPointClass" (.text "app.Other")] [] start

theorem reached_told : Reached told.1 told.2.1 told.2.2 := reached_start.follow _

theorem halfPublishes_told : HalfPublishes (startingIn main) told.2.1 told.2.2 main := by
  have ⟨generates, unknown, refused⟩ :
      (perform (sources told.2.1.plan told.2.2.objects (startingIn main)) told.2.2.files).1 =
          .ok main ∧
        told.2.1.parameters.get? "entryPointFile" = none ∧
        told.2.1.parameters.Refuses "entryPointClass" (entryPointClass main) false
          told.2.2.objects.now := by
    decide +kernel
  exact ⟨generates, unknown, refused⟩

/-- The sources are generated for another class. -/
def halfway : Moment := (Call.buildSource (startingIn main)).moment (told.2.1, told.2.2)

theorem halfway_eq :
    halfway.after.1.parameters = told.2.1.parameters.withFile main ∧
      halfway.answer = .error (.parameterConflict "entryPointClass") := by
  unfold halfway
  exact halfPublishes_told.moment_eq

end Small

theorem failed_buildSource_told :
    HalfPublishes (Small.startingIn Small.main) Small.told.2.1 Small.told.2.2 Small.main ∧
      Small.halfway.answer = .error (.parameterConflict "entryPointClass") ∧
      Small.halfway.after.1.parameters = Small.told.2.1.parameters.withFile Small.main := by
  have published := Small.halfPublishes_told
  have failed := Small.halfway_eq.2
  refine ⟨published, failed, ?_⟩
  unfold Small.halfway at failed ⊢
  have left := (failed_buildSource Small.reached_told (Small.startingIn Small.main) failed).2.2.1
  exact (left Small.main published).2.1

/-- What was allowed before the sources were generated is refused after that has failed. -/
theorem buildSource_halves :
    Reached Small.told.1 Small.told.2.1 Small.told.2.2 ∧
      Small.halfway.answer = .error (.parameterConflict "entryPointClass") ∧
      Small.halfway.after.1.parameters ≠ Small.told.2.1.parameters ∧
      Small.told.2.1.parameters.Allows Small.told.2.2.objects Small.other ∧
      ((Call.buildSource (Small.startingIn Small.other)).moment Small.halfway.before).answer =
        .ok (.info Small.other) ∧
      ((Call.buildSource (Small.startingIn Small.other)).moment Small.halfway.after).answer =
        .error (.parameterConflict "entryPointFile") := by
  have ⟨left, failed⟩ := Small.halfway_eq
  refine ⟨Small.reached_told, failed, fun same => ?_, ⟨?_, ?_⟩, ?_, ?_⟩
  · rw [left] at same
    simpa [Parameters.withFile] using congrArg List.length same
  all_goals decide +kernel

end Session

end HaxeBuild
