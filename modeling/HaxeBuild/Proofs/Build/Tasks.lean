import HaxeBuild.Proofs.Build.Copying
import HaxeBuild.Proofs.Build.Requirements
import HaxeBuild.Proofs.Files.Removal

namespace HaxeBuild

open Effect HaxeBuild.Action

/-- The effects that can be seen in the world, without the log. -/
structure Traces where
  files : FileTree
  asked : List Request
  runs : List Invocation
  objects : Objects

def World.traces (w : World) : Traces := ⟨w.files, w.asked, w.runs, w.objects⟩

/-- The effects once an action has changed files and objects. -/
def World.tracesTo (w w' : World) : Traces := ⟨w'.files, w.asked, w.runs, w'.objects⟩

theorem World.traces_eq {w w' : World} (asked : w'.asked = w.asked) (runs : w'.runs = w.runs) :
    w'.traces = w.tracesTo w' := by
  rw [traces, tracesTo, asked, runs]

theorem World.tracesTo_eq {w w' : World} (objects : w'.objects = w.objects) :
    w.tracesTo w' = { w.traces with files := w'.files } := by
  rw [tracesTo, objects]
  rfl

namespace Session

/-- What the templates of a session are rendered with: the tag of the program, the parameters, and
the default command, which has no default command itself. -/
def templates (s : Session) : Template.Context where
  tags := [.reference ⟨s.plan.program, s.plan.names⟩]
  parameters := s.parameters
  command := fun o =>
    (Template.render ⟨[.reference ⟨s.plan.program, s.plan.names⟩], s.parameters,
      fun _ => Outcome.fail .wrongType⟩ o Command.defaultTemplate).result

/-- A resource is rendered, and the encoded text is written to its place below the source folder.
Only directories are made for it. -/
inductive FileRendered (s : Session) (v : Value) (t : FileTree) (o : Objects) :
    FileTree → Objects → Prop where
  | intro {path template text : Text} {content encoded : Bytes} {t1 : FileTree} {l : Location}
      (names : AssetStager.Names t s.plan.srcFolder v path) (made : t.Grows t1)
      (found : AssetStager.Finds s.plan.program t1 path content)
      (decoded : Text.ofUtf8? content = some template)
      (rendered : (Template.render s.templates o template).result = .ok text)
      (written : Text.utf8? text = some encoded)
      (opens : t1.Opens (s.plan.srcFolder.under path) l) :
      FileRendered s v t o (t1.set l (.file encoded)) (Template.render s.templates o template).objects

/-- Templates are rendered alike by sessions with the same plan and the same parameters. -/
structure RendersAs (s s' : Session) : Prop where
  plan : s'.plan = s.plan
  parameters : s'.parameters = s.parameters

theorem RendersAs.render_eq {s s' : Session} (alike : RendersAs s s') (o : Objects)
    (template : Text) : s'.render o template = Template.render s.templates o template := by
  have tags : s'.tags = s.tags := by rw [Session.tags, Session.tags, alike.plan]
  have command : s'.defaultCommand = s.defaultCommand := by
    funext o
    rw [defaultCommand, defaultCommand, tags, alike.parameters]
  rw [render, tags, command, alike.parameters]
  rfl

theorem fileRendered_of_renderFile {s s1 s2 : Session} {v : Value} {w w' : World}
    (alike : RendersAs s s1) (done : perform (renderFile v) (s1, w) = (.ok (), (s2, w'))) :
    FileRendered s v w.files w.objects w'.files w'.objects := by
  rw [renderFile, perform_bind_ok (perform_state s1 w), perform_bind_ok (perform_log ..)] at done
  obtain ⟨path, named, done⟩ := perform_ofOutcome_bind_eq_ok.mp done
  rw [perform_bind_ok (perform_files ..)] at done
  obtain ⟨destination, inside, done⟩ := perform_ofOutcome_bind_eq_ok.mp done
  obtain ⟨_, t1, made, done⟩ := perform_onDisk_bind_eq_ok.mp done
  rw [perform_bind_ok (perform_files ..)] at done
  obtain ⟨template, found, done⟩ := perform_ofOutcome_bind_eq_ok.mp done
  obtain ⟨text, _, logged, done⟩ := perform_bind_eq_ok.mp done
  rw [perform_renderLogged, alike.render_eq] at logged
  obtain ⟨rendered, rfl⟩ := Prod.mk.inj logged
  obtain ⟨t', written, is⟩ := perform_onDisk_eq_ok.mp done
  cases is
  rw [alike.plan] at inside found
  obtain ⟨rfl, names⟩ := AssetStager.names_of_contained named inside
  obtain ⟨content, found, decoded⟩ := FileTree.resourceText_eq_ok.mp found
  obtain ⟨content', l, encoded, opens, rfl⟩ := Disk.opens_of_writeText written
  exact .intro names (AssetStager.grows_of_made made) (AssetStager.finds_of_resource found) decoded
    rendered encoded opens

/-- What the command line is rendered to. -/
def preparedCommand (s : Session) (o : Objects) : Template.Rendering :=
  Template.render s.templates o (Command.template s.plan.program)

/-- What a compilation has to do before it runs the toolchain. -/
inductive Task where
  | remove
  | list
  | ask (l : LibraryReference)
  | stage (directory : Path) (v : Value)
  | merge (directory : Path) (v : Value)
  | render (v : Value)
  | prepare

namespace Task

/-- The phases are the deletion of the previous artifact, the libraries, the assets, the files that
are rendered, and the command. -/
def phase : Task → Nat
  | remove => 0
  | list => 1
  | ask _ => 1
  | stage _ _ => 2
  | merge _ _ => 2
  | render _ => 3
  | prepare => 4

/-- What a task leaves behind that is done. -/
inductive Done (source : PackageSource) (s : Session) : Task → Traces → Traces → Prop where
  | removed {t : Traces} {files : FileTree} (gone : t.files.Removed s.plan.outputFile files) :
      Done source s remove t { t with files }
  | listed {t : Traces} {required : List LibraryReference}
      (listed : s.libraries.requiredNow s.plan.subject (some (s.plan.settingsNow t.objects)) =
        .ok required) : Done source s list t t
  | accepted {l : LibraryReference} {t : Traces} {files : FileTree}
      (answered : source l t.files = (.ok true, files)) :
      Done source s (ask l) t { t with files, asked := t.asked ++ [⟨l, .ok true⟩] }
  | staged {directory : Path} {v : Value} {t : Traces} {files : FileTree}
      (staged : AssetStager.ResourceStaged s.plan.program directory v t.files files) :
      Done source s (stage directory v) t { t with files }
  | merged {directory tree : Path} {v : Value} {t : Traces} {files : FileTree}
      (named : AssetStager.treePath v = .ok tree)
      (staged : AssetStager.TreeStaged directory tree t.files files) :
      Done source s (merge directory v) t { t with files }
  | rendered {v : Value} {t : Traces} {files : FileTree} {objects : Objects}
      (rendered : FileRendered s v t.files t.objects files objects) :
      Done source s (render v) t { t with files, objects }
  | prepared {t : Traces} {text : Text}
      (rendered : (preparedCommand s t.objects).result = .ok text)
      (given : Command.split text ≠ []) :
      Done source s prepare t { t with objects := (preparedCommand s t.objects).objects }

/-- What a task leaves behind that fails. -/
inductive Fails (source : PackageSource) (s : Session) :
    Task → Traces → BuildError → Traces → Prop where
  | kept {t : Traces} {f : Fault} {files : FileTree}
      (kept : perform (Disk.remove s.plan.outputFile) t.files = (.error f, files)) :
      Fails source s remove t (.fault f) { t with files }
  | unlisted {t : Traces} {e : BuildError}
      (unlisted : s.libraries.requiredNow s.plan.subject (some (s.plan.settingsNow t.objects)) =
        .error e) : Fails source s list t e t
  | refused {r : Request} {t : Traces} {files : FileTree}
      (answered : source r.library t.files = (r.answer, files)) (is : r.accepted = false) :
      Fails source s (ask r.library) t r.refusal { t with files, asked := t.asked ++ [r] }
  | unstaged {directory : Path} {v : Value} {e : BuildError} {a a' : AssetStager} {w w' : World}
      (failed : perform (AssetStager.stageResource s.plan.program directory v) (a, w) =
        (.error e, (a', w'))) :
      Fails source s (stage directory v) w.traces e (w.tracesTo w')
  | unnamed {directory : Path} {v : Value} {t : Traces} {e : BuildError}
      (unnamed : AssetStager.treePath v = .error e) : Fails source s (merge directory v) t e t
  | unmerged {directory tree : Path} {v : Value} {e : BuildError} {a a' : AssetStager}
      {w w' : World} (named : AssetStager.treePath v = .ok tree)
      (failed : perform (AssetStager.stageTree directory tree) (a, w) = (.error e, (a', w'))) :
      Fails source s (merge directory v) w.traces e (w.tracesTo w')
  | unrendered {v : Value} {e : BuildError} {s1 s2 : Session} {w w' : World}
      (alike : RendersAs s s1) (failed : perform (renderFile v) (s1, w) = (.error e, (s2, w'))) :
      Fails source s (render v) w.traces e (w.tracesTo w')
  | unprepared {t : Traces} {e : BuildError}
      (failed : (preparedCommand s t.objects).result = .error e) :
      Fails source s prepare t e { t with objects := (preparedCommand s t.objects).objects }
  | empty {t : Traces} {text : Text} (rendered : (preparedCommand s t.objects).result = .ok text)
      (nothing : Command.split text = []) :
      Fails source s prepare t (.toolchain (-1) "Build command rendered empty" [])
        { t with objects := (preparedCommand s t.objects).objects }

end Task

/-- The tasks are done one after the other, up to the first one that fails. -/
inductive InTurn (source : PackageSource) (s : Session) :
    List Task → Traces → Outcome Unit → Traces → Prop where
  | none {t : Traces} : InTurn source s [] t (.ok ()) t
  | next {task : Task} {tasks : List Task} {t t1 t' : Traces} {o : Outcome Unit}
      (done : task.Done source s t t1) (rest : InTurn source s tasks t1 o t') :
      InTurn source s (task :: tasks) t o t'
  | stopped {task : Task} {tasks : List Task} {t t' : Traces} {e : BuildError}
      (fails : task.Fails source s t e t') : InTurn source s (task :: tasks) t (.error e) t'

namespace InTurn

variable {source : PackageSource} {s : Session} {tasks more : List Task} {t t1 t' : Traces}
  {o : Outcome Unit} {e : BuildError}

theorem append (first : InTurn source s tasks t (.ok ()) t1) (rest : InTurn source s more t1 o t') :
    InTurn source s (tasks ++ more) t o t' := by
  generalize is : (Except.ok () : Outcome Unit) = done at first
  induction first with
  | none => exact rest
  | next done _ inductionHypothesis => exact .next done (inductionHypothesis rest is)
  | stopped => cases is

/-- After a failure nothing more is done. -/
theorem stops (first : InTurn source s tasks t (.error e) t') (more : List Task) :
    InTurn source s (tasks ++ more) t (.error e) t' := by
  generalize is : (Except.error e : Outcome Unit) = failed at first
  induction first with
  | none => cases is
  | next done _ inductionHypothesis => exact .next done (inductionHypothesis is)
  | stopped fails => exact .stopped fails

/-- Before the task that fails all tasks are done. -/
theorem split (turn : InTurn source s tasks t (.error e) t') :
    ∃ before task later t1, tasks = before ++ task :: later ∧
      InTurn source s before t (.ok ()) t1 ∧ task.Fails source s t1 e t' := by
  generalize is : (Except.error e : Outcome Unit) = failed at turn
  induction turn with
  | none => cases is
  | @next task tasks _ _ _ _ done _ inductionHypothesis =>
    obtain ⟨before, other, later, t1, rfl, turn, fails⟩ := inductionHypothesis is
    exact ⟨task :: before, other, later, t1, rfl, .next done turn, fails⟩
  | @stopped task tasks t _ _ fails =>
    cases is
    exact ⟨[], task, tasks, t, rfl, .none, fails⟩

/-- No task runs a process. -/
theorem runs_eq (turn : InTurn source s tasks t o t') : t'.runs = t.runs := by
  induction turn with
  | none => rfl
  | next done _ inductionHypothesis =>
    rw [inductionHypothesis]
    cases done <;> rfl
  | stopped fails => cases fails <;> rfl

end InTurn

/-- Requests to a source are tasks that are done in turn. -/
theorem inTurn_of_asks {source : PackageSource} {s : Session} {missing : List LibraryReference}
    {rs : List Request} {t : Traces} {files : FileTree} {o : Outcome Unit}
    (asks : Request.Asks missing rs) (answers : source.Answers rs t.files files)
    (ends : Request.Ends rs () o) :
    InTurn source s (missing.map .ask) t o { t with files, asked := t.asked ++ rs } := by
  induction asks generalizing t with
  | none =>
    cases answers
    cases ends with
    | complete =>
      rw [List.append_nil]
      exact .none
    | stopped last => cases last
  | @accepted l answer ls rs is rest inductionHypothesis =>
    cases answers with
    | @next _ _ _ files1 _ _ first others =>
      cases Request.answer_of_accepted is
      have later := @inductionHypothesis
        ⟨files1, t.asked ++ [⟨l, .ok true⟩], t.runs, t.objects⟩ others (ends.tail is)
      simp only [List.append_assoc, List.singleton_append] at later
      exact .next (.accepted first) later
  | refused is =>
    cases answers with
    | next first rest =>
      cases rest
      cases ends with
      | complete all =>
        rw [all _ List.mem_cons_self] at is
        cases is
      | stopped last =>
        cases last
        exact .stopped (.refused first is)

section Carries

variable {σ α β : Type} {source : PackageSource} {s : Session} {good : σ → Prop}
  {tasks more : List Task}

/-- An action on a good state does the tasks in turn and leads to a good state. -/
def Carries (source : PackageSource) (s : Session) (good : σ → Prop) (tasks : List Task)
    (act : Action σ α) : Prop :=
  ∀ x w, good x → good (perform act (x, w)).2.1 ∧
    InTurn source s tasks w.traces ((perform act (x, w)).1.map fun _ => ())
      (perform act (x, w)).2.2.traces

theorem carries_pure (a : α) : Carries source s good [] (pure a : Action σ α) :=
  fun _ _ known => ⟨known, .none⟩

theorem carries_log (level : Level) (message : Text) :
    Carries source s good [] (log level message : Action σ Unit) :=
  fun _ _ known => ⟨known, .none⟩

theorem carries_setState {x : σ} (is : good x) : Carries source s good [] (setState x) :=
  fun _ _ _ => ⟨is, .none⟩

theorem Carries.ofState {next : σ → Action σ α}
    (rest : ∀ x, good x → Carries source s good tasks (next x)) :
    Carries source s good tasks (Action.state >>= next) := by
  intro x w known
  rw [perform_bind_ok (perform_state x w)]
  exact rest x known x w known

theorem Carries.bind {act : Action σ α} {next : α → Action σ β}
    (first : Carries source s good tasks act) (rest : ∀ a, Carries source s good more (next a)) :
    Carries source s good (tasks ++ more) (act >>= next) := by
  intro x w known
  have ⟨left, turn⟩ := first x w known
  rw [perform_bind]
  rcases performed : perform act (x, w) with ⟨e | a, y, w1⟩
  · rw [performed] at left turn
    exact ⟨left, turn.stops more⟩
  · rw [performed] at left turn
    have ⟨left, turns⟩ := rest a y w1 left
    exact ⟨left, turn.append turns⟩

/-- A quiet action can be one task. -/
theorem carries_task {task : Task} {act : Action σ α} (quiet : Quiet good act)
    (done : ∀ {x w a y w'}, good x → perform act (x, w) = (.ok a, (y, w')) →
      task.Done source s w.traces (w.tracesTo w'))
    (fails : ∀ {x w e y w'}, good x → perform act (x, w) = (.error e, (y, w')) →
      task.Fails source s w.traces e (w.tracesTo w')) :
    Carries source s good [task] act := by
  intro x w known
  have ⟨left, asked, runs⟩ := (quiet w.asked w.runs (x, w) ⟨known, rfl, rfl⟩).1
  rw [World.traces_eq asked runs]
  refine ⟨left, ?_⟩
  rcases performed : perform act (x, w) with ⟨e | a, y, w'⟩
  · exact .stopped (fails known performed)
  · exact .next (done known performed) .none

variable {directory : Path}

theorem carries_stageResources (vs : List Value) :
    Carries source s (AssetStager.At (some directory)) (vs.map (.stage directory))
      (AssetStager.stageResources s.plan.program directory vs) := by
  induction vs with
  | nil => exact carries_pure []
  | cons v vs inductionHypothesis =>
    have first : Carries source s (AssetStager.At (some directory)) [.stage directory v]
        (AssetStager.stageResource s.plan.program directory v) := by
      refine carries_task (AssetStager.quiet_stageResource _ directory v) ?_
        fun _ failed => .unstaged failed
      intro _ _ _ _ _ _ done
      obtain ⟨placed, objects, -⟩ := AssetStager.placed_of_stageResource done
      rw [World.tracesTo_eq objects]
      exact .staged placed.staged
    have all := first.bind fun path => inductionHypothesis.bind fun paths =>
      carries_pure (path :: paths)
    rw [List.append_nil] at all
    exact all

/-- A tree that has no path is not staged. -/
theorem carries_tree (v : Value) :
    Carries source s (AssetStager.At (some directory)) [.merge directory v] (do
      let tree ← Action.ofOutcome (AssetStager.treePath v)
      AssetStager.stageTree directory tree) := by
  refine carries_task ((quiet_ofOutcome _).bind fun _ => AssetStager.quiet_stageTree _ _) ?_ ?_
  · intro _ _ _ _ _ _ done
    obtain ⟨tree, named, done⟩ := perform_ofOutcome_bind_eq_ok.mp done
    obtain ⟨merged, objects, -⟩ := AssetStager.merged_of_stageTree done
    rw [World.tracesTo_eq objects]
    exact .merged named merged.staged
  · intro x w _ _ _ _ failed
    rcases named : AssetStager.treePath v with e | tree
    · rw [named, perform_bind_error (perform_ofOutcome ..)] at failed
      cases failed
      exact .unnamed named
    · rw [named, perform_bind_ok (perform_ofOutcome ..)] at failed
      exact .unmerged named failed

theorem carries_stageAll (trees : List Value) :
    Carries source s (AssetStager.At (some directory)) (trees.map (.merge directory))
      (AssetStager.stageAll directory trees) := by
  induction trees with
  | nil => exact carries_pure []
  | cons v trees inductionHypothesis =>
    have all := (carries_tree v).bind fun paths => inductionHypothesis.bind fun others =>
      carries_pure (paths ++ others)
    rw [List.append_nil, bind_assoc] at all
    exact all

theorem carries_renderFiles {s1 : Session} (alike : RendersAs s s1) (vs : List Value) :
    Carries source s (· = s1) (vs.map .render) (renderFiles vs) := by
  induction vs with
  | nil => exact carries_pure ()
  | cons v vs inductionHypothesis =>
    have first : Carries source s (· = s1) [.render v] (renderFile v) := by
      refine carries_task (quiet_renderFile s1 v) ?_ ?_
      · rintro _ w _ _ _ rfl done
        exact .rendered (fileRendered_of_renderFile alike done)
      · rintro _ w _ _ _ rfl failed
        exact .unrendered alike failed
    exact first.bind fun _ => inductionHypothesis

end Carries

end Session

end HaxeBuild
