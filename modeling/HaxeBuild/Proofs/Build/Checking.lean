import HaxeBuild.Proofs.Build.Consistency

namespace HaxeBuild.Session

open Effect HaxeBuild.Action

variable {source : PackageSource} {runner : ProcessRunner} {s : Session} {w : World}

/-- Makes a failed compilation an error with what the session has on record. -/
def insist (done : Bool) : Step Bool := do
  let s ← Action.state
  match done, s.compileResult with
  | false, some r => throw (.toolchain r.exitCode r.output s.lastCommand)
  | _, _ => return done

theorem perform_insist_true (s : Session) (w : World) :
    perform (insist true) (s, w) = (.ok true, (s, w)) := by
  rw [insist, perform_bind_ok (perform_state s w)]
  rfl

theorem perform_insist_false {r : ProcessResult} (failed : s.compileResult = some r) (w : World) :
    perform (insist false) (s, w) =
      (.error (.toolchain r.exitCode r.output s.lastCommand), (s, w)) := by
  rw [insist, perform_bind_ok (perform_state s w), failed]
  rfl

theorem perform_runToolchain_check {binary : Text} {arguments : List Text}
    (command : s.lastCommand = binary :: arguments) (runner : ProcessRunner) (w : World) :
    perform (runToolchain runner true binary arguments) (s, w) =
      perform (runToolchain runner false binary arguments >>= insist) (s, w) := by
  simp only [runToolchain, bind_assoc]
  rw [perform_bind_ok (perform_state s w), perform_bind_ok (perform_state s w),
    perform_bind_ok (perform_log ..), perform_bind_ok (perform_log ..)]
  refine perform_bind_congr fun r now ran => ?_
  obtain ⟨s', w'⟩ := now
  have same : s' = s := by
    rw [perform_run] at ran
    exact (congrArg (·.2.1) ran).symm
  subst same
  cases succeeds : r.success with
  | true =>
    simp only [update, enter, perform_bind, perform_state, perform_setState, if_true, perform_pure,
      perform_insist_true]
  | false =>
    simp only [update, perform_bind, perform_state, perform_setState, Bool.false_eq_true, if_false,
      if_true, perform_log, perform_throw, perform_pure]
    rw [perform_insist_false rfl, command]

/-- To check a compilation is to look at its answer afterwards. -/
theorem perform_compile_check (source : PackageSource) (runner : ProcessRunner) (s : Session)
    (w : World) :
    perform (compile source runner true) (s, w) =
      perform (compile source runner false >>= insist) (s, w) := by
  rw [perform_compile, perform_bind (compile source runner false), perform_compile, ← perform_bind]
  simp only [bind_assoc]
  refine perform_bind_congr fun _ x _ => perform_bind_congr fun _ y _ => ?_
  refine perform_bind_congr fun command now prepared => ?_
  obtain ⟨s', w'⟩ := now
  cases exit_of_prepareCommand prepared with
  | prepared => exact perform_runToolchain_check rfl runner _

/-- A compilation that does not answer that it failed goes the same way when it is checked. -/
theorem perform_compile_check_of_ne {o : Outcome Bool} {now : Session × World}
    (performed : perform (compile source runner false) (s, w) = (o, now)) (other : o ≠ .ok false) :
    perform (compile source runner true) (s, w) = (o, now) := by
  rw [perform_compile_check]
  cases o with
  | error e => exact perform_bind_error performed _
  | ok done =>
    cases done with
    | false => exact absurd rfl other
    | true => exact (perform_bind_ok performed _).trans (perform_insist_true now.1 now.2)

theorem perform_compile_check_of_failed {s' : Session} {w' : World} {r : ProcessResult}
    (performed : perform (compile source runner false) (s, w) = (.ok false, (s', w')))
    (failed : s'.compileResult = some r) :
    perform (compile source runner true) (s, w) =
      (.error (.toolchain r.exitCode r.output s'.lastCommand), (s', w')) := by
  rw [perform_compile_check, perform_bind_ok performed, perform_insist_false failed]

/-- A compilation answers that it failed only if it has called a toolchain that did. -/
theorem Stocked.failed {required : List LibraryReference} {s' : Session} {w' : World}
    (stocked : Stocked s w required)
    (exit : CompileExit source runner false s w (.ok false) s' w') :
    ∃ i r s1 w1, Prepared source s w i.binary i.arguments s1 w1 ∧ w'.runs = w.runs ++ [i] ∧
      (runner w.runs i w1.files).result = .ok r ∧ w'.files = (runner w.runs i w1.files).files ∧
      r.success = false ∧ s'.compileResult = some r ∧
      s'.lastCommand = i.binary :: i.arguments := by
  generalize answered : (.ok false : Outcome Bool) = o at exit
  cases exit with
  | @finished o binary arguments s1 _ w1 _ prepared exit =>
    have runs := (stocked.since prepared.follows).2
    have command := prepared.lastCommand_eq
    cases exit with
    | @failed r _ ran returned fails =>
      refine ⟨⟨s.plan.srcFolder, binary, arguments, true⟩, r, s1, w1, prepared, ?_, ?_, ?_, fails,
        rfl, command⟩
      · rw [ran.runs, runs]
      · rw [← runs]
        exact returned
      · rw [ran.files, runs]
    | unstarted => cases answered
    | succeeded => cases answered
  | _ => cases answered

/-- The artifact could be run, but it is not there. -/
def ArtifactMissing (s : Session) (w : World) : Prop :=
  (s.state = .compiled ∨ s.state = .ran) ∧ w.files.probe s.plan.outputFile = .ok none

def missing (s : Session) : BuildError := .artifactMissing s.plan.outputFile.toText

theorem perform_run_of_missing (absent : ArtifactMissing s w) (runner : ProcessRunner)
    (redirect check : Bool) :
    perform (run runner redirect check) (s, w) =
      (if check then .error s.missing else .ok ⟨-1, s.missing.message⟩,
        (s, { w with log := w.log ++ [⟨.error, s.missing.message⟩] })) := by
  obtain ⟨ready, probed⟩ := absent
  have late : ¬ (s.state ≠ .compiled ∧ s.state ≠ .ran) := by
    rintro ⟨first, second⟩
    exact ready.elim first second
  have looked := Disk.perform_probe s.plan.outputFile w.files
  rw [probed] at looked
  rw [run, perform_bind_ok (perform_state s w)]
  simp only [late, if_false]
  rw [perform_bind_ok (perform_onDisk_ok looked ..)]
  cases check <;> rfl

/-- Otherwise it does not matter whether a run is checked. -/
theorem perform_run_check (present : ¬ ArtifactMissing s w) (runner : ProcessRunner)
    (redirect : Bool) :
    perform (run runner redirect true) (s, w) = perform (run runner redirect false) (s, w) := by
  rw [run, run, perform_bind_ok (perform_state s w), perform_bind_ok (perform_state s w)]
  by_cases early : s.state ≠ .compiled ∧ s.state ≠ .ran
  · simp only [early, ne_eq, not_false_eq_true, and_self, if_true]
  · simp only [early, if_false]
    refine perform_bind_congr fun found x looked => ?_
    cases found with
    | some found => rfl
    | none =>
      rw [perform_onDisk, Disk.perform_probe] at looked
      have ready : s.state = .compiled ∨ s.state = .ran := by
        by_contra neither
        exact early (not_or.mp neither)
      cases probed : w.files.probe s.plan.outputFile with
      | error f =>
        rw [probed] at looked
        cases looked
      | ok found =>
        rw [probed] at looked
        cases looked
        exact absurd ⟨ready, probed⟩ present

/-- A run of the artifact is on record. -/
theorem RunExit.called {redirect check : Bool} {o : Outcome ProcessResult} {s' : Session}
    {w' : World} (exit : RunExit runner redirect check s w o s' w')
    (present : ¬ ArtifactMissing s w) :
    o ≠ .error s.missing ∧ ∀ r, o = .ok r → w'.runs ≠ w.runs := by
  cases exit with
  | outOfOrder => exact ⟨nofun, nofun⟩
  | unprobed => exact ⟨nofun, nofun⟩
  | missing ready absent => exact absurd ⟨ready, absent⟩ present
  | unstarted => exact ⟨nofun, nofun⟩
  | ran ready found ran =>
    refine ⟨nofun, fun r _ same => ?_⟩
    rw [ran.runs] at same
    simp at same

/-- The first call did the same as the second one, and raised an error where that says that the
toolchain has failed. -/
structure Moment.TellsFailure (strict lenient : Moment) : Prop where
  after : strict.after = lenient.after
  otherwise : lenient.answer ≠ .ok (.success false) → strict.answer = lenient.answer
  failed : lenient.answer = .ok (.success false) → ∃ i r, lenient.Returned i r ∧
    r.success = false ∧ lenient.after.1.compileResult = some r ∧
    lenient.after.1.lastCommand = i.binary :: i.arguments ∧
    strict.answer = .error (.toolchain r.exitCode r.output lenient.after.1.lastCommand)

/-- The first call did the same as the second one, and raised an error where that says, without
having run anything, that the artifact is missing. -/
structure Moment.TellsMissing (strict lenient : Moment) : Prop where
  after : strict.after = lenient.after
  otherwise : strict.answer ≠ .error lenient.before.1.missing → strict.answer = lenient.answer
  missing : strict.answer = .error lenient.before.1.missing ↔
    lenient.answer = .ok (.result ⟨-1, lenient.before.1.missing.message⟩) ∧
      lenient.after.2.runs = lenient.before.2.runs

theorem Reached.compile_tells {past : List Moment} (reached : Reached past s w)
    (source : PackageSource) (runner : ProcessRunner) :
    ((Call.compile source runner true).moment (s, w)).TellsFailure
      ((Call.compile source runner false).moment (s, w)) := by
  obtain ⟨required, stocked⟩ := reached.stocked
  rcases performed : perform (compile source runner false) (s, w) with ⟨o, s', w'⟩
  by_cases failed : o = .ok false
  · subst failed
    obtain ⟨i, r, s1, w1, prepared, ran, returned, left, fails, result, command⟩ :=
      stocked.failed (exit_of_compile performed)
    have checked := perform_compile_check_of_failed performed result
    simp only [Call.moment, Call.act, perform_bind_pure, performed, checked]
    refine ⟨rfl, fun other => absurd rfl other, fun _ => ?_⟩
    exact ⟨i, r, .intro rfl prepared ran returned left, fails, result, command, rfl⟩
  · have checked := perform_compile_check_of_ne performed failed
    simp only [Call.moment, Call.act, perform_bind_pure, performed, checked]
    refine ⟨rfl, fun _ => rfl, fun answered => ?_⟩
    have injective : Function.Injective Answer.success := fun _ _ => Answer.success.inj
    exact absurd ((except_map_ok injective).mp answered) failed

theorem run_tells (s : Session) (w : World) (runner : ProcessRunner) (redirect : Bool) :
    ((Call.run runner redirect true).moment (s, w)).TellsMissing
      ((Call.run runner redirect false).moment (s, w)) := by
  by_cases absent : ArtifactMissing s w
  · simp only [Call.moment, Call.act, perform_bind_pure, perform_run_of_missing absent]
    exact ⟨rfl, fun other => absurd rfl other, fun _ => ⟨rfl, rfl⟩, fun _ => rfl⟩
  · simp only [Call.moment, Call.act, perform_bind_pure, perform_run_check absent]
    rcases performed : perform (run runner redirect false) (s, w) with ⟨o, s', w'⟩
    obtain ⟨other, called⟩ := (exit_of_run performed).called absent
    refine ⟨rfl, fun _ => rfl, ?_, ?_⟩
    · intro raised
      exact absurd (except_map_error.mp raised) other
    · rintro ⟨answered, uncalled⟩
      have injective : Function.Injective Answer.result := fun _ _ => Answer.result.inj
      exact absurd uncalled (called _ ((except_map_ok injective).mp answered))

/-- The call as it is when it is not asked to raise an error. -/
def Call.lenient : Call → Call
  | compile source runner _ => compile source runner false
  | run runner redirect _ => run runner redirect false
  | call => call

theorem Reached.after_lenient {past : List Moment} (reached : Reached past s w) (call : Call) :
    (call.lenient.moment (s, w)).after = (call.moment (s, w)).after := by
  cases call with
  | compile source runner check =>
    cases check with
    | false => rfl
    | true => exact (reached.compile_tells source runner).after.symm
  | run runner redirect check =>
    cases check with
    | false => rfl
    | true => exact (run_tells s w runner redirect).after.symm
  | _ => rfl

/-- Whoever asks for errors on the way comes to the same session and the same world as somebody who
does not. -/
theorem follow_lenient {past : List Moment} {now : Session × World}
    (reached : Reached past now.1 now.2) (calls : List Call) (other : List Moment) :
    (follow (calls.map Call.lenient) other now).2 = (follow calls past now).2 := by
  induction calls generalizing past other now with
  | nil => rfl
  | cons call calls inductionHypothesis =>
    rw [List.map_cons, follow, follow, reached.after_lenient call]
    exact inductionHypothesis (reached.next call) _

/-- Whether a call is asked to raise an error matters for its answer alone, and for this only where
the toolchain has failed or the artifact is missing. There the error says what the session has on
record, or what the answer says otherwise. A process may leave the same result behind as a missing
artifact; then it has been called. -/
theorem check_tells {past : List Moment} (reached : Reached past s w) (runner : ProcessRunner) :
    (∀ source,
      ((Call.compile source runner true).moment (s, w)).TellsFailure
        ((Call.compile source runner false).moment (s, w))) ∧
      ∀ redirect,
        ((Call.run runner redirect true).moment (s, w)).TellsMissing
          ((Call.run runner redirect false).moment (s, w)) := by
  constructor
  · intro source
    exact reached.compile_tells source runner
  · intro redirect
    exact run_tells s w runner redirect

namespace Small

/-- A toolchain that reports an error. -/
def failing : ProcessRunner := fun _ _ t => ⟨.ok ⟨2, "Type not found"⟩, [], t⟩

/-- A successful build whose toolchain has not left an artifact behind. -/
def unwritten : List Moment × Session × World :=
  follow [.buildSource generator, .compile (sourceWithout []) (toolchain id) false] [] start

theorem reached_unwritten : Reached unwritten.1 unwritten.2.1 unwritten.2.2 :=
  reached_start.follow _

/-- After that the toolchain fails. -/
def recompiled (check : Bool) : Moment :=
  (Call.compile (sourceWithout []) failing check).moment (unwritten.2.1, unwritten.2.2)

/-- There is nothing to run. -/
def rerun (check : Bool) : Moment :=
  (Call.run failing true check).moment (unwritten.2.1, unwritten.2.2)

end Small

theorem check_tells_unwritten :
    Reached Small.unwritten.1 Small.unwritten.2.1 Small.unwritten.2.2 ∧
      (Small.recompiled true).after = (Small.recompiled false).after ∧
      (Small.recompiled false).answer = .ok (.success false) ∧
      (Small.recompiled true).answer = .error (.toolchain 2 "Type not found" ["haxe"]) ∧
      (Small.rerun true).after = (Small.rerun false).after ∧
      (Small.rerun false).answer = .ok (.result ⟨-1, "file /out/program.js doesn't exist"⟩) ∧
      (Small.rerun true).answer = .error (.artifactMissing "/out/program.js") := by
  have ⟨compiled, ran⟩ := check_tells Small.reached_unwritten Small.failing
  refine ⟨Small.reached_unwritten, (compiled (Small.sourceWithout [])).after, ?_, ?_,
    (ran true).after, ?_, ?_⟩
  all_goals decide +kernel

end HaxeBuild.Session
