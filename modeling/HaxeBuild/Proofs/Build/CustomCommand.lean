import HaxeBuild.Proofs.Build.Growth
import HaxeBuild.Proofs.Build.Interference
import HaxeBuild.Proofs.Template.Interleaving

namespace HaxeBuild

open Effect
open Template (Clean Unmarked filled filled_append interleave render_interleave unmarked_append)

namespace Command

/-- The command lines that a program declares. -/
def declaredLines (p : Program) : List Text :=
  (Value.flattenAll (p.allMetadata .customBuildCommandLine)).map Value.print

/-- Where lines are declared, the template of the command is made of them. -/
theorem template_of_declared {p : Program}
    (declared : p.allMetadata .customBuildCommandLine ≠ []) :
    template p = Text.join "\n" (declaredLines p) := by
  rw [template]
  split
  · contradiction
  · rfl

/-- The arguments of a line: a call of the default command has those of the default command. -/
def ofLine (standard : Outcome (List Text)) (line : Text) : Outcome (List Text) :=
  if line = defaultCall then standard else .ok (split line)

/-- The arguments of all lines. -/
def ofLines (standard : Outcome (List Text)) (lines : List Text) : Outcome (List Text) := do
  return (← lines.mapM (ofLine standard)).flatten

/-- The arguments of lines come line by line. -/
theorem ofLines_cons (standard : Outcome (List Text)) (line : Text) (lines : List Text) :
    ofLines standard (line :: lines) = do
      let arguments ← ofLine standard line
      return arguments ++ (← ofLines standard lines) := by
  simp only [ofLines, List.mapM_cons, bind_assoc, pure_bind, List.flatten_cons]

/-- Lines give arguments if the default command is known or not asked for. -/
theorem ofLines_eq_ok {standard : Outcome (List Text)} {arguments : List Text} {lines : List Text}
    (known : standard = .ok arguments ∨ defaultCall ∉ lines) :
    ofLines standard lines =
      .ok (lines.flatMap fun line => if line = defaultCall then arguments else split line) := by
  induction lines with
  | nil => rfl
  | cons line lines inductionHypothesis =>
    have later := inductionHypothesis (known.imp_right List.not_mem_of_not_mem_cons)
    rw [ofLines_cons, later, ofLine, List.flatMap_cons]
    split
    · rename_i call
      rcases known with rfl | absent
      · rfl
      · exact absurd (call ▸ .head _) absent
    · rfl

/-- A default command that fails makes the lines fail that ask for it. -/
theorem ofLines_eq_error {e : BuildError} {lines : List Text} (among : defaultCall ∈ lines) :
    ofLines (.error e) lines = .error e := by
  induction lines with
  | nil => cases among
  | cons line lines inductionHypothesis =>
    rw [ofLines_cons, ofLine]
    split
    · rfl
    · rename_i other
      rw [inductionHypothesis ((List.mem_cons.mp among).resolve_left (Ne.symm other))]
      rfl

/-- Every line has its arguments, unless one of them is a call that has none. -/
theorem ofLines_cases {standard : Outcome (List Text)} {arguments : List Text}
    (known : ∀ others, standard = .ok others → arguments = others) (lines : List Text) :
    ofLines standard lines =
        .ok (lines.flatMap fun line => if line = defaultCall then arguments else split line) ∨
      ∃ e, standard = .error e ∧ defaultCall ∈ lines ∧ ofLines standard lines = .error e := by
  cases standard with
  | ok others =>
    rw [known others rfl]
    exact .inl (ofLines_eq_ok (.inl rfl))
  | error e =>
    by_cases among : defaultCall ∈ lines
    · exact .inr ⟨e, rfl, among, ofLines_eq_error among⟩
    · exact .inl (ofLines_eq_ok (.inr among))

/-! ### Lines as pieces between calls -/

/-- Lines with a line feed before each, as text before the first call and behind every call. -/
def pieces : List Text → Text × List Text
  | [] => ([], [])
  | line :: lines =>
    if line = defaultCall then ([.char '\n'], (pieces lines).1 :: (pieces lines).2)
    else (.char '\n' :: (line ++ (pieces lines).1), (pieces lines).2)

/-- A call in front splits the lines at it. -/
theorem pieces_call (lines : List Text) :
    pieces (defaultCall :: lines) = ([.char '\n'], (pieces lines).1 :: (pieces lines).2) := by
  rw [pieces, if_pos rfl]

/-- Any other line belongs to the first piece. -/
theorem pieces_of_ne {line : Text} (other : line ≠ defaultCall) (lines : List Text) :
    pieces (line :: lines) = (.char '\n' :: (line ++ (pieces lines).1), (pieces lines).2) := by
  rw [pieces, if_neg other]

/-- The pieces put together around the calls are the lines again. -/
theorem interleave_pieces (lines : List Text) :
    interleave defaultCall (pieces lines).1 (pieces lines).2 =
      lines.flatMap (.char '\n' :: ·) := by
  induction lines with
  | nil => rfl
  | cons line lines inductionHypothesis =>
    rw [List.flatMap_cons, ← inductionHypothesis]
    by_cases call : line = defaultCall
    · rw [call, pieces_call]
      rfl
    · rw [pieces_of_ne call]
      cases (pieces lines).2 with
      | nil => rfl
      | cons next later => simp [interleave]

/-- Lines joined, each led in by a newline. -/
theorem newline_join (line : Text) (lines : List Text) :
    .char '\n' :: Text.join "\n" (line :: lines) = (line :: lines).flatMap (.char '\n' :: ·) := by
  induction lines generalizing line with
  | nil => simp
  | cons next lines inductionHypothesis =>
    rw [Text.join_cons_cons, List.flatMap_cons, ← inductionHypothesis next, newline_eq,
      List.append_assoc]
    rfl

/-- Behind a line there is nothing, or a line feed. -/
def EndsLine (t : Text) : Prop := t = [] ∨ ∃ rest, t = .char '\n' :: rest

/-- There is no line, or a line feed comes first. -/
theorem pieces_cases (lines : List Text) :
    pieces lines = ([], []) ∨ ∃ first later, pieces lines = (.char '\n' :: first, later) := by
  cases lines with
  | nil => exact .inl rfl
  | cons line lines =>
    by_cases call : line = defaultCall
    · rw [call, pieces_call]
      exact .inr ⟨_, _, rfl⟩
    · rw [pieces_of_ne call]
      exact .inr ⟨_, _, rfl⟩

/-- No mark forms between a line and the one after it. -/
theorem unmarked_line {line t : Text} (unmarked : Unmarked line) (ends : EndsLine t)
    (rest : Unmarked t) : Unmarked (.char '\n' :: (line ++ t)) := by
  refine List.isChain_cons.mpr ⟨?_, unmarked_append.mpr ⟨unmarked, rest, ?_⟩⟩
  · rintro c - ⟨is, -⟩
    cases is
  · rintro c - d starts ⟨-, opens⟩
    rcases ends with rfl | ⟨rest, rfl⟩
    · cases starts
    · cases starts
      rcases opens with is | is | is <;> cases is

/-- A line feed keeps an opening mark from forming across lines. -/
theorem clean_pieces {lines : List Text}
    (plain : ∀ line ∈ lines, line = defaultCall ∨ Unmarked line) :
    Clean (pieces lines).1 (pieces lines).2 := by
  induction lines with
  | nil => exact List.isChain_nil
  | cons line lines inductionHypothesis =>
    have ⟨is, plain⟩ := List.forall_mem_cons.mp plain
    have clean := inductionHypothesis plain
    by_cases call : line = defaultCall
    · have inner : [Code.char '\n'].getLast? ≠ some (.char '\x7b') := by decide
      rw [call, pieces_call]
      exact ⟨List.isChain_singleton _, inner, clean⟩
    have unmarked := is.resolve_left call
    rw [pieces_of_ne call]
    rcases pieces_cases lines with none | ⟨first, later, some⟩
    · rw [none]
      exact unmarked_line unmarked (.inl rfl) List.isChain_nil
    · rw [some] at clean ⊢
      have ends : EndsLine (.char '\n' :: first) := .inr ⟨first, rfl⟩
      cases later with
      | nil => exact unmarked_line unmarked ends clean
      | cons next later =>
        obtain ⟨rest, apart, clean⟩ := clean
        refine ⟨unmarked_line unmarked ends rest, ?_, clean⟩
        rw [← List.cons_append, List.getLast?_append_of_ne_nil _ (List.cons_ne_nil _ _)]
        exact apart

/-- A text that begins with a line end is split by itself. -/
theorem split_append {u : Text} (ends : EndsLine u) (t : Text) :
    split (t ++ u) = split t ++ split u := by
  rcases ends with rfl | ⟨rest, rfl⟩
  · rw [List.append_nil, split_nil, List.append_nil]
  · rw [split_append_newline, split_newline]

/-- A line has its own arguments when line ends are unified. -/
theorem exists_unifyLineEnds_append {u : Text} (ends : EndsLine u) (t : Text) :
    ∃ t', (t ++ u).unifyLineEnds = t' ++ u.unifyLineEnds ∧ split t' = split t := by
  rcases ends with rfl | ⟨rest, rfl⟩
  · exact ⟨t.unifyLineEnds, by simp [Text.unifyLineEnds], split_unifyLineEnds t⟩
  · rw [Text.unifyLineEnds_cons (by decide)]
    exact exists_unifyLineEnds_newline t rest

/-- The lines, rendered. -/
def rendered (o : Outcome Text) (lines : List Text) : Outcome Text :=
  filled o (pieces lines).1.unifyLineEnds ((pieces lines).2.map Text.unifyLineEnds)

/-- The lines render with the default command in the place of its call. -/
theorem rendered_call (o : Outcome Text) (lines : List Text) :
    rendered o (defaultCall :: lines) = do
      let t ← o
      return .char '\n' :: (t ++ (← rendered o lines)) := by
  rw [rendered, pieces_call]
  rfl

/-- Any other line renders to its own arguments. -/
theorem rendered_of_ne {line : Text} (other : line ≠ defaultCall) (o : Outcome Text)
    (lines : List Text) : ∃ t, split t = split line ∧
      rendered o (line :: lines) = (rendered o lines).map fun u => .char '\n' :: (t ++ u) := by
  have ends : EndsLine (pieces lines).1 := by
    rcases pieces_cases lines with none | ⟨first, later, some⟩
    · rw [none]
      exact .inl rfl
    · rw [some]
      exact .inr ⟨first, rfl⟩
  obtain ⟨t, is, same⟩ := exists_unifyLineEnds_append ends line
  refine ⟨t, same, ?_⟩
  rw [rendered, pieces_of_ne other, Text.unifyLineEnds_cons (by decide), is]
  exact filled_append o (.char '\n' :: t) _ _

/-- What the lines render to begins with a line end, if it is not empty. -/
theorem endsLine_rendered {o : Outcome Text} {lines : List Text} {t : Text}
    (done : rendered o lines = .ok t) : EndsLine t := by
  cases lines with
  | nil =>
    cases done
    exact .inl rfl
  | cons line lines =>
    by_cases call : line = defaultCall
    · rw [call, rendered_call] at done
      obtain ⟨u, -, done⟩ := except_bind_ok.mp done
      obtain ⟨rest, -, done⟩ := except_bind_ok.mp done
      cases done
      exact .inr ⟨_, rfl⟩
    · obtain ⟨u, -, is⟩ := rendered_of_ne call o lines
      rw [is] at done
      rcases others : rendered o lines with e | rest
      · rw [others] at done
        cases done
      · rw [others] at done
        cases done
        exact .inr ⟨_, rfl⟩

/-- The arguments of rendered lines are those of the lines. -/
theorem split_rendered (o : Outcome Text) (lines : List Text) :
    (rendered o lines).map split = ofLines (o.map split) lines := by
  induction lines with
  | nil => rfl
  | cons line lines inductionHypothesis =>
    rw [ofLines_cons, ← inductionHypothesis]
    by_cases call : line = defaultCall
    · rw [call, rendered_call, ofLine, if_pos rfl]
      cases o with
      | error e => rfl
      | ok t =>
        rcases others : rendered (.ok t) lines with e | rest
        · rfl
        · refine congrArg Except.ok ?_
          rw [split_newline, split_append (endsLine_rendered others)]
    · obtain ⟨t, same, is⟩ := rendered_of_ne call o lines
      rw [is, ofLine, if_neg call]
      rcases others : rendered o lines with e | rest
      · rfl
      · refine congrArg Except.ok ?_
        rw [split_newline, split_append (endsLine_rendered others), same]

/-- A piece stays clean without its first character. -/
theorem clean_tail {c : Code} {first : Text} {later : List Text}
    (clean : Clean (c :: first) later) : Clean first later := by
  cases later with
  | nil => exact (List.isChain_cons.mp clean).2
  | cons next later =>
    obtain ⟨unmarked, apart, clean⟩ := clean
    refine ⟨(List.isChain_cons.mp unmarked).2, fun last => apart ?_, clean⟩
    rw [List.getLast?_cons, last]
    rfl

/-- A command of lines without marks has the arguments of its lines. -/
theorem split_render_join {c : Template.Context} {lines : List Text}
    (plain : ∀ line ∈ lines, line = defaultCall ∨ Unmarked line)
    (given : c.find? "defaultBuildCommand" = some (.builtin .defaultCommand)) (o : Objects) :
    (Template.render c o (Text.join "\n" lines)).result.map split =
      ofLines ((c.command o).map split) lines := by
  cases lines with
  | nil =>
    have empty : Clean [] [] := List.isChain_nil
    exact congrArg (fun r => r.result.map split) (render_interleave empty given o)
  | cons line lines =>
    have clean := clean_pieces plain
    have joined := (newline_join line lines).trans (interleave_pieces (line :: lines)).symm
    rw [← split_rendered, rendered]
    rcases pieces_cases (line :: lines) with none | ⟨first, later, some⟩
    · rw [none] at joined
      cases joined
    · rw [some] at joined clean ⊢
      have is : Text.join "\n" (line :: lines) = interleave defaultCall first later := by
        cases later <;> exact (List.cons.inj joined).2
      rw [is, render_interleave (clean_tail clean) given,
        Text.unifyLineEnds_cons (by decide)]
      have front := filled_append (c.command o) [.char '\n'] (Text.unifyLineEnds first)
        (later.map Text.unifyLineEnds)
      rw [List.singleton_append] at front
      rw [front]
      rcases filled (c.command o) (Text.unifyLineEnds first) (later.map Text.unifyLineEnds) with e | t
      · rfl
      · exact congrArg Except.ok (split_newline t).symm

end Command

namespace Session

/-! ### Commands of sessions -/

/-- The same session, but its program has no command lines. -/
def standard (s : Session) : Session :=
  s.withProgram (s.plan.program.without .customBuildCommandLine)

/-- What the command is rendered to, cut into arguments. -/
def command (s : Session) (o : Objects) : Outcome (List Text) :=
  (renderedCommand s o).result.map Command.split

/-- The command depends on the plan and the parameters alone. -/
theorem command_congr {s s' : Session} (plan : s'.plan = s.plan)
    (parameters : s'.parameters = s.parameters) : s'.command = s.command := by
  have rendered : s'.render = s.render :=
    render_congr (by rw [plan]) parameters (by rw [plan])
  funext o
  rw [command, command, renderedCommand, renderedCommand, rendered, plan]

/-- A program without its lines differs in this metadata only. -/
theorem similar_without (p p' : Program) (is : p' = p.without .customBuildCommandLine) :
    p.Similar p' := by
  rw [is]
  exact p.similar_without _ rfl

/-- The parameters have the default command. -/
def HasDefault (s : Session) : Prop :=
  s.parameters.get? "defaultBuildCommand" = some (.builtin .defaultCommand)

section

variable {s : Session}

/-- The joined lines render to the arguments of each line. -/
theorem HasDefault.split_render_join {lines : List Text} (has : HasDefault s)
    (plain : ∀ line ∈ lines, line = Command.defaultCall ∨ Unmarked line) (o : Objects) :
    (s.render o (Text.join "\n" lines)).result.map Command.split =
      Command.ofLines ((s.defaultCommand o).map Command.split) lines := by
  have given : Template.Context.find? ⟨s.tags, s.parameters, s.defaultCommand⟩
      "defaultBuildCommand" = some (.builtin .defaultCommand) := by
    rw [HasDefault, Parameters.get?] at has
    rw [Template.Context.find?, has]
    rfl
  rw [render, Command.split_render_join plain given]

/-- Without command lines, the command is the default command. -/
theorem HasDefault.command_standard (has : HasDefault s) (o : Objects) :
    s.standard.command o = (s.defaultCommand o).map Command.split := by
  have template : Command.template s.standard.plan.program = Command.defaultCall := by
    rw [Command.template, standard, withProgram, Program.allMetadata_without]
  have plain : ∀ line ∈ [Command.defaultCall], line = Command.defaultCall ∨ Unmarked line := by
    simp
  have rendered := has.split_render_join plain o
  rw [Text.join_singleton] at rendered
  rw [command, renderedCommand, template, standard, render_withProgram (similar_without _ _ rfl),
    rendered]
  cases s.defaultCommand o with
  | error e => exact Command.ofLines_eq_error (.head _)
  | ok t =>
    refine (Command.ofLines_eq_ok (.inl rfl)).trans ?_
    rw [List.flatMap_singleton, if_pos rfl]
    rfl

/-- With command lines, it has the arguments of the lines. -/
theorem HasDefault.command_eq (has : HasDefault s)
    (declared : s.plan.program.allMetadata .customBuildCommandLine ≠ [])
    (plain : ∀ line ∈ Command.declaredLines s.plan.program,
      line = Command.defaultCall ∨ Unmarked line) (o : Objects) :
    s.command o =
      Command.ofLines (s.standard.command o) (Command.declaredLines s.plan.program) := by
  rw [command, renderedCommand, Command.template_of_declared declared,
    has.split_render_join plain, has.command_standard]

end

/-! ### Compilations that get as far as their commands -/

section

variable {s s' s1 : Session} {w w' w1 : World} {source : PackageSource} {runner : ProcessRunner}
  {check : Bool}

/-- Every session of a history has the default command among its parameters. -/
theorem Reached.hasDefault {past : List Moment} (reached : Reached past s w) : HasDefault s := by
  induction reached with
  | created t clock made =>
    obtain ⟨required, new⟩ := isNew_of_new made
    rw [HasDefault, new.parameters]
    rfl
  | next reached call inductionHypothesis =>
    exact Parameters.get?_of_prefix (goes_call call _ _).grows.first inductionHypothesis

/-- What a compilation does before it renders its command. -/
def beforeCommand (source : PackageSource) : Step Unit := do
  let p := (← Action.state).plan
  beforeRendering source
  renderFiles (prebuildFiles p)

/-- The same happens without command lines. -/
theorem perform_beforeCommand_standard
    (begun : perform (beforeCommand source) (s, w) = (.ok (), (s1, w1))) :
    perform (beforeCommand source) (s.standard, w) = (.ok (), (s1.standard, w1)) := by
  have alike : Action.Alike (Exchanged fun p p' => p' = p.without .customBuildCommandLine)
      (beforeCommand source) (beforeCommand source) := by
    refine alike_ofState fun s p is => ?_
    refine (alike_beforeRendering similar_without source).bind fun _ => ?_
    have files : prebuildFiles (s.withProgram p).plan = prebuildFiles s.plan :=
      congrArg Value.flattenAll
        ((similar_without _ _ is).metadata .filesBeforeBuildTemplate rfl).symm
    rw [files]
    exact alike_renderFiles similar_without _
  obtain ⟨same, ⟨p, is, left⟩, world⟩ := alike (s, w) (s.standard, w) ⟨⟨_, rfl, rfl⟩, rfl⟩
  rw [begun] at same is left world
  exact Prod.ext same.symm (Prod.ext (left.trans (congrArg _ is)) world.symm)

/-- What happens before the files are rendered keeps what the command is made of. -/
theorem keeps_beforeRendering
    (begun : perform (beforeRendering source) (s, w) = (.ok (), (s1, w1))) :
    s1.plan = s.plan ∧ s1.parameters = s.parameters ∧ s1.lastCommand = s.lastCommand := by
  rw [beforeRendering, perform_bind_ok (Action.perform_state s w)] at begun
  cases known : s.info with
  | none =>
    rw [known] at begun
    cases begun
  | some i =>
    simp only [known, Option.isNone_some, Bool.false_eq_true, if_false] at begun
    obtain ⟨_, ⟨s2, w2⟩, removed, begun⟩ := perform_bind_eq_ok.mp begun
    rw [Action.perform_onDisk] at removed
    cases congrArg (·.2.1) removed
    rw [perform_bind_ok (Action.perform_log ..), perform_bind_ok (Action.perform_objects ..)]
      at begun
    obtain ⟨_, ⟨s3, w3⟩, installed, begun⟩ := perform_bind_eq_ok.mp begun
    rw [perform_onLibraries] at installed
    cases congrArg (·.2.1) installed
    rw [perform_bind_ok (perform_enter ..), perform_bind_ok (Action.perform_log ..)] at begun
    obtain ⟨_, ⟨s4, w4⟩, staged, begun⟩ := perform_bind_eq_ok.mp begun
    rw [perform_onAssets] at staged
    cases congrArg (·.2.1) staged
    cases begun
    exact ⟨rfl, rfl, rfl⟩

/-- What happens before the command is rendered keeps what it is made of. -/
theorem keeps_beforeCommand (begun : perform (beforeCommand source) (s, w) = (.ok (), (s1, w1))) :
    s1.plan = s.plan ∧ s1.parameters = s.parameters ∧ s1.lastCommand = s.lastCommand := by
  rw [beforeCommand, perform_bind_ok (Action.perform_state s w)] at begun
  obtain ⟨_, ⟨s2, w2⟩, begun, rendered⟩ := perform_bind_eq_ok.mp begun
  obtain ⟨rfl, -, -⟩ := renderFiles_keeps rendered
  exact keeps_beforeRendering begun

/-- What a command is taken for: the last command of the session, or an error with which the
compilation ends. -/
def Takes (command : Outcome (List Text)) (before : Session)
    (ended : Outcome Bool × Session × World) : Prop :=
  match command with
  | .ok arguments => ended.2.1.lastCommand = arguments
  | .error e => ended.1 = .error e ∧ ended.2.1.lastCommand = before.lastCommand

/-- A compile takes the command from the state that the steps before it leave. -/
theorem takes_command (begun : perform (beforeCommand source) (s, w) = (.ok (), (s1, w1)))
    (runner : ProcessRunner) (check : Bool) :
    Takes (s.command w1.objects) s (perform (compile source runner check) (s, w)) := by
  obtain ⟨plan, parameters, last⟩ := keeps_beforeCommand begun
  rw [beforeCommand, perform_bind_ok (Action.perform_state s w)] at begun
  have parts : perform (compile source runner check) (s, w) = perform (do
      let prepared ← prepareCommand
      runToolchain runner check prepared.1 prepared.2) (s1, w1) := by
    rw [perform_compile, ← bind_assoc, perform_bind_ok begun]
  rw [parts, ← command_congr plan parameters]
  rcases prepared : perform prepareCommand (s1, w1) with ⟨e | ⟨binary, arguments⟩, s2, w2⟩
  · rw [perform_bind_error prepared]
    cases exit_of_prepareCommand prepared with
    | unrendered failed =>
      rw [command, failed]
      exact ⟨rfl, last⟩
    | empty rendered nothing =>
      rw [command, rendered]
      exact nothing.symm
  · rw [perform_bind_ok prepared]
    rcases finished : perform (runToolchain runner check binary arguments) (s2, w2)
      with ⟨o, s3, w3⟩
    have kept := (exit_of_runToolchain finished).lastCommand_eq
    cases exit_of_prepareCommand prepared with
    | prepared rendered is =>
      rw [command, rendered]
      exact kept.trans is.symm

end

/-- Whenever a compilation gets as far as its command, this has the arguments of the declared lines
in their order, and a call of the default command has those that the same compilation has without
command lines. If the default command cannot be rendered but is called, both end with its error. -/
theorem command_of_lines {past : List Moment} {s : Session} {w : World}
    (reached : Reached past s w)
    (declared : s.plan.program.allMetadata .customBuildCommandLine ≠ [])
    (plain : ∀ line ∈ Command.declaredLines s.plan.program, line = Command.defaultCall ∨
      ∀ mark ∈ [Template.Mark.valueOpen, Template.Mark.blockOpen, Template.Mark.commentOpen],
        ¬ mark <:+: line)
    (source : PackageSource)
    (begun : (perform (beforeCommand source) (s, w)).1 = .ok ()) (runner : ProcessRunner)
    (check : Bool) :
    let lines := Command.declaredLines s.plan.program
    let custom := perform (compile source runner check) (s, w)
    let standard := perform (compile source runner check) (s.standard, w)
    let objects := (perform (beforeCommand source) (s, w)).2.2.objects
    (perform (beforeCommand source) (s.standard, w)).1 = .ok () ∧
      (custom.2.1.lastCommand = lines.flatMap (fun line =>
          if line = Command.defaultCall then standard.2.1.lastCommand else Command.split line) ∨
        ∃ e, s.defaultCommand objects = .error e ∧ Command.defaultCall ∈ lines ∧
          custom.1 = .error e ∧ standard.1 = .error e) := by
  intro lines custom standard objects
  have has := reached.hasDefault
  rcases performed : perform (beforeCommand source) (s, w) with ⟨o, s1, w1⟩
  have same : objects = w1.objects := congrArg (·.2.2.objects) performed
  rw [performed] at begun
  cases begun
  have begun := perform_beforeCommand_standard performed
  have taken : Takes (s.command w1.objects) s custom := takes_command performed runner check
  have takenStandard : Takes (s.standard.command w1.objects) s.standard standard :=
    takes_command begun runner check
  rw [same]
  refine ⟨by rw [begun], ?_⟩
  rw [has.command_eq declared fun line among =>
    (plain line among).imp_right Template.unmarked_iff.mpr] at taken
  have answers : ∀ arguments, s.standard.command w1.objects = .ok arguments →
      standard.2.1.lastCommand = arguments := by
    intro arguments is
    rw [is] at takenStandard
    exact takenStandard
  rcases Command.ofLines_cases answers (Command.declaredLines s.plan.program)
    with known | ⟨e, failed, among, known⟩
  · rw [known] at taken
    exact .inl taken
  · rw [known] at taken
    rw [failed] at takenStandard
    refine .inr ⟨e, ?_, among, taken.1, takenStandard.1⟩
    rw [has.command_standard] at failed
    cases rendered : s.defaultCommand w1.objects with
    | error e' =>
      rw [rendered] at failed
      exact congrArg _ (Except.error.inj failed)
    | ok t =>
      rw [rendered] at failed
      cases failed

/-! A class that declares a line of two arguments, a method that declares the default command and a
flag, and a field that declares a number. -/

namespace Small

/-- A program whose class, method and field declare command lines of all kinds. -/
def customProgram : Program :=
  { program with classes := [⟨"app.Main",
    [⟨"main", "()V", true,
      [(.customBuildCommandLine, [.list [.text Command.defaultCall, .text " --flag \r"]])]⟩],
    [⟨"width", "I", false, [(.customBuildCommandLine, [.int 7])]⟩],
    [(.customBuildCommandLine, [.text "nice\n-n"])]⟩] }

/-- The sources of the program are generated before it declares its command lines. -/
def customized : List Moment × Session × World :=
  follow [.buildSource generator, .changeProgram fun _ => customProgram] [] start

/-- The compilation with these command lines. -/
def customCompiled : Except BuildError Bool × Session × World :=
  perform (compile (sourceWithout []) (toolchain id) false) (customized.2.1, customized.2.2)

/-- The same compilation without command lines. -/
def plainCompiled : Except BuildError Bool × Session × World :=
  perform (compile (sourceWithout []) (toolchain id) false)
    (customized.2.1.standard, customized.2.2)

/-- What the compilation does before it renders its command. -/
def customBegun : Outcome Unit × Session × World :=
  perform (beforeCommand (sourceWithout [])) (customized.2.1, customized.2.2)

/-- The arguments of the default command stand between those of the other lines. -/
def customLine : List Text := ["nice", "-n", "haxe", "-cp", "/target/haxe-build/src", "-main",
  "Main.hx", "-debug", "-js", "/out/program.js", "-lib", "format", "-lib", "hxcpp:4.3", "-D",
  "no-analyzer", "--flag", "7"]

end Small

/-- A small build with two lines and the default command between them. -/
theorem command_of_lines_members :
    Small.customized.2.1.plan.program.allMetadata .customBuildCommandLine ≠ [] ∧
      (∀ line ∈ Command.declaredLines Small.customized.2.1.plan.program,
        line = Command.defaultCall ∨
          ∀ mark ∈ [Template.Mark.valueOpen, Template.Mark.blockOpen, Template.Mark.commentOpen],
            ¬ mark <:+: line) ∧
      Small.customBegun.1 = .ok () ∧
      Small.customCompiled.2.1.lastCommand =
        (Command.declaredLines Small.customized.2.1.plan.program).flatMap (fun line =>
          if line = Command.defaultCall then Small.plainCompiled.2.1.lastCommand
          else Command.split line) ∧
      Small.customCompiled.2.1.lastCommand = Small.customLine := by
  have reached : Reached Small.customized.1 Small.customized.2.1 Small.customized.2.2 :=
    Small.reached_start.follow _
  have declared : Small.customized.2.1.plan.program.allMetadata .customBuildCommandLine ≠ [] :=
    List.isEmpty_eq_false_iff.mp (by decide +kernel)
  have plain : ∀ line ∈ Command.declaredLines Small.customized.2.1.plan.program,
      line = Command.defaultCall ∨
        ∀ mark ∈ [Template.Mark.valueOpen, Template.Mark.blockOpen, Template.Mark.commentOpen],
          ¬ mark <:+: line := by
    decide +kernel
  have begun : Small.customBegun.1 = .ok () := by
    have done : Small.customBegun.1.toBool = true := by decide +kernel
    rcases performed : Small.customBegun.1 with e | _
    · rw [performed] at done
      cases done
    · rfl
  obtain ⟨succeeds, whole⟩ : Small.customCompiled.1.toBool = true ∧
      Small.customCompiled.2.1.lastCommand = Small.customLine := by decide +kernel
  have lines := command_of_lines reached declared plain _ begun (Small.toolchain id) false
  unfold Small.customCompiled Small.plainCompiled at *
  refine ⟨declared, plain, begun, ?_, whole⟩
  rcases lines.2 with taken | ⟨e, -, -, failed, -⟩
  · exact taken
  · rw [failed] at succeeds
    cases succeeds

end Session

end HaxeBuild
