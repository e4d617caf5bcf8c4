import HaxeBuild.Proofs.Build.Compilation
import HaxeBuild.Proofs.Value.Objects

namespace HaxeBuild

open Effect HaxeBuild.Action

namespace Session

/-- A value is shared with the templates before it is compared with what is stored. -/
theorem perform_addParameter (key : Text) (value : Value) (s : Session) (w : World) :
    perform (addParameter key value) (s, w) =
      let (value, objects) := w.objects.adopt value
      match s.parameters.add key value false w.objects.now with
      | .ok grown => (.ok (), ({ s with parameters := grown }, { w with objects }))
      | .error e => (.error e, (s, { w with objects })) := by
  simp only [addParameter, update, perform_bind, perform_state, perform_adopt, perform_objects,
    perform_ofOutcome, Objects.now_adopt]
  rcases s.parameters.add key (w.objects.adopt value).1 false w.objects.now with e | grown <;> rfl

theorem perform_addParameter_text (key t : Text) (s : Session) (w : World) :
    perform (addParameter key (.text t)) (s, w) =
      match s.parameters.add key (.text t) false w.objects.now with
      | .ok grown => (.ok (), ({ s with parameters := grown }, w))
      | .error e => (.error e, (s, w)) :=
  perform_addParameter key (.text t) s w

/-- The parameters that tell templates where a program starts. -/
def entryPointFile (i : ProgramInfo) : Value := .text i.entryPointFile

def entryPointClass (i : ProgramInfo) : Value := .text (TargetNames.className i.entryPointClass)

end Session

/-- The parameters that are added when the sources are generated. -/
def ProgramInfo.parameters (i : ProgramInfo) : Parameters := [
  ("entryPointFile", Session.entryPointFile i), ("entryPointClass", Session.entryPointClass i)]

namespace Session

/-- What a generator makes of a source folder that is there, with the settings as they are now. -/
def sources (p : BuildPlan) (o : Objects) (generator : SourceGenerator) : Disk ProgramInfo := do
  Disk.ensureDirectory p.srcFolder
  generator p.program (p.settingsNow o) p.srcFolder p.names

/-- Sources are generated whole, and then the parameters are updated. -/
theorem perform_buildSource (generator : SourceGenerator) (s : Session) (w : World) :
    perform (buildSource generator) (s, w) =
      let (made, t) := perform (sources s.plan w.objects generator) w.files
      let message := "Generating sources into " ++ s.plan.srcFolder.toText
      let w' : World := { w with files := t, log := w.log ++ [⟨.info, message⟩] }
      match made with
      | .error f => (.error (.fault f), (s, w'))
      | .ok i =>
        match s.parameters.update i.parameters (fun _ => false) w.objects.now with
        | (p, .error e) => (.error e, ({ s with parameters := p }, w'))
        | (p, .ok ()) =>
          (.ok i, ({ s with parameters := p, info := some i, state := .sourceGenerated }, w')) := by
  rw [buildSource, perform_bind_ok (perform_state s w),
    perform_bind_ok (perform_log ..), sources]
  rcases made : perform (Disk.ensureDirectory s.plan.srcFolder) w.files with ⟨f | _, t⟩
  · rw [perform_bind_error (perform_onDisk_error made ..), perform_bind_error made]
  · rw [perform_bind_ok (perform_onDisk_ok made ..), perform_bind_ok made]
    rcases written : perform
      (generator s.plan.program (s.plan.settingsNow w.objects) s.plan.srcFolder s.plan.names :
        Disk ProgramInfo) t with ⟨f | i, t'⟩
    · rw [perform_bind_ok (perform_objects ..),
        perform_bind_error (perform_onDisk_error written ..)]
    · rw [perform_bind_ok (perform_objects ..), perform_bind_ok (perform_onDisk_ok written ..),
        perform_bind, perform_addParameter_text]
      simp only [ProgramInfo.parameters, Parameters.update, entryPointFile, entryPointClass]
      rcases s.parameters.add "entryPointFile" (.text i.entryPointFile) false w.objects.now
        with e | p
      · rfl
      · simp only [perform_bind, perform_addParameter_text]
        rcases p.add "entryPointClass" (.text (TargetNames.className i.entryPointClass)) false
          w.objects.now with e | p'
        · rfl
        · rfl

/-- How the generation of sources ends. The second parameter may be refused when the first one is
already added. -/
inductive GenerationExit (s : Session) (w : World) : Outcome ProgramInfo → Session → World →
    Prop where
  | failed {e : BuildError} {t : FileTree} {log : Log} :
      GenerationExit s w (.error e) s { w with files := t, log }
  | refused {e : BuildError} {i : ProgramInfo} {p : Parameters} {t : FileTree} {log : Log}
      (file : s.parameters.add "entryPointFile" (entryPointFile i) false w.objects.now = .ok p)
      (conflict : p.add "entryPointClass" (entryPointClass i) false w.objects.now = .error e) :
      GenerationExit s w (.error e) { s with parameters := p } { w with files := t, log }
  | generated {i : ProgramInfo} {p p' : Parameters} {t : FileTree} {log : Log}
      (file : s.parameters.add "entryPointFile" (entryPointFile i) false w.objects.now = .ok p)
      (name : p.add "entryPointClass" (entryPointClass i) false w.objects.now = .ok p') :
      GenerationExit s w (.ok i)
        { s with parameters := p', info := some i, state := .sourceGenerated }
        { w with files := t, log }

theorem exit_of_buildSource {generator : SourceGenerator} {s s' : Session} {w w' : World}
    {o : Outcome ProgramInfo}
    (performed : perform (buildSource generator) (s, w) = (o, (s', w'))) :
    GenerationExit s w o s' w' := by
  rw [perform_buildSource] at performed
  rcases made : perform (sources s.plan w.objects generator) w.files with ⟨f | i, t⟩
  · rw [made] at performed
    cases performed
    exact .failed
  · simp only [made, ProgramInfo.parameters, Parameters.update] at performed
    rcases file : s.parameters.add "entryPointFile" (entryPointFile i) false w.objects.now with e | p
    · simp only [file] at performed
      cases performed
      exact .failed
    · simp only [file] at performed
      rcases name : p.add "entryPointClass" (entryPointClass i) false w.objects.now with e | p'
      · simp only [name] at performed
        cases performed
        exact .refused file name
      · simp only [name] at performed
        cases performed
        exact .generated file name

/-- How a run of the artifact ends. Where it is missing, nothing is run, and on request this is an
error. -/
inductive RunExit (runner : ProcessRunner) (redirect check : Bool) (s : Session) (w : World) :
    Outcome ProcessResult → Session → World → Prop where
  | outOfOrder (early : s.state ≠ .compiled ∧ s.state ≠ .ran) :
      RunExit runner redirect check s w (.error (.outOfOrder .compilation)) s w
  | unprobed {f : Fault} (ready : s.state = .compiled ∨ s.state = .ran)
      (fault : w.files.probe s.plan.outputFile = .error f) :
      RunExit runner redirect check s w (.error (.fault f)) s w
  | missing {o : Outcome ProcessResult} {log : Log}
      (ready : s.state = .compiled ∨ s.state = .ran)
      (absent : w.files.probe s.plan.outputFile = .ok none)
      (told : let missing := BuildError.artifactMissing s.plan.outputFile.toText
        o = if check then .error missing else .ok ⟨-1, missing.message⟩) :
      RunExit runner redirect check s w o s { w with log }
  | unstarted {f : Fault} {found : Location × Entry} {w' : World}
      (ready : s.state = .compiled ∨ s.state = .ran)
      (present : w.files.probe s.plan.outputFile = .ok (some found))
      (ran : Ran runner (artifactInvocation s.plan redirect) w w') :
      RunExit runner redirect check s w (.error (.fault f)) s w'
  | ran {r : ProcessResult} {found : Location × Entry} {w' : World}
      (ready : s.state = .compiled ∨ s.state = .ran)
      (present : w.files.probe s.plan.outputFile = .ok (some found))
      (ran : Ran runner (artifactInvocation s.plan redirect) w w') :
      RunExit runner redirect check s w (.ok r) { s with state := .ran } w'

theorem perform_logSize (p : BuildPlan) (found : Entry) (s : Session) (w : World) :
    ∃ log, perform (logSize p found) (s, w) = (.ok (), (s, { w with log })) := by
  cases found with
  | directory => exact ⟨w.log, rfl⟩
  | file content => exact ⟨_, rfl⟩
  | link target => exact ⟨w.log, rfl⟩

theorem exit_of_run {runner : ProcessRunner} {redirect check : Bool} {s s' : Session}
    {w w' : World} {o : Outcome ProcessResult}
    (performed : perform (run runner redirect check) (s, w) = (o, (s', w'))) :
    RunExit runner redirect check s w o s' w' := by
  rw [run, perform_bind_ok (perform_state s w)] at performed
  by_cases early : s.state ≠ .compiled ∧ s.state ≠ .ran
  · simp only [early, ne_eq, not_false_eq_true, and_self, if_true, perform_throw] at performed
    cases performed
    exact .outOfOrder early
  · have ready : s.state = .compiled ∨ s.state = .ran := by
      by_cases compiled : s.state = .compiled
      · exact .inl compiled
      · exact .inr (Classical.not_not.mp fun other => early ⟨compiled, other⟩)
    simp only [early, if_false] at performed
    have looked := Disk.perform_probe s.plan.outputFile w.files
    rcases probed : w.files.probe s.plan.outputFile with f | found
    · rw [probed] at looked
      rw [perform_bind_error (perform_onDisk_error looked ..)] at performed
      cases performed
      exact .unprobed ready probed
    · rw [probed] at looked
      rw [perform_bind_ok (perform_onDisk_ok looked ..)] at performed
      cases found with
      | none =>
        rw [perform_bind_ok (perform_log ..)] at performed
        cases check
        · cases performed
          exact .missing ready probed rfl
        · cases performed
          exact .missing ready probed rfl
      | some found =>
        obtain ⟨log, sized⟩ := perform_logSize s.plan found.2 s w
        simp only [perform_bind_ok sized, perform_bind_ok (perform_log ..)] at performed
        rw [perform_bind_ok (perform_readClock ..), perform_bind, perform_run] at performed
        rcases returned : (runner w.runs (artifactInvocation s.plan redirect) w.files).result
          with f | r
        · simp only [returned, Outcome.ofFault] at performed
          cases performed
          exact .unstarted ready probed ⟨rfl, rfl, rfl, rfl⟩
        · simp only [returned, Outcome.ofFault, perform_bind, perform_readClock, perform_log,
            perform_enter, perform_pure] at performed
          cases performed
          exact .ran ready probed ⟨rfl, rfl, rfl, rfl⟩

end Session

end HaxeBuild
