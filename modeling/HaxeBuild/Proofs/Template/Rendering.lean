import HaxeBuild.Template.Render
import HaxeBuild.Proofs.Effect
import HaxeBuild.Proofs.Value.Objects

namespace HaxeBuild.Template

open Effect Render

/-- A compiled template is rendered by running it from the start. -/
theorem render_of_compiled {c : Context} {template : Text} {t : Compiled}
    (compiled : compile c.tags template = .ok t) (o : Objects) :
    render c o template =
      ⟨(perform (t.run c) ⟨[], [], o⟩).1, (perform (t.run c) ⟨[], [], o⟩).2.log,
        (perform (t.run c) ⟨[], [], o⟩).2.objects⟩ := by
  simp only [render, compiled]
  rfl

/-- Evaluating changes the objects and nothing else of the progress. -/
theorem perform_evaluate {α : Type} (act : Evaluation α) (p : Progress) :
    perform (evaluate act : Render α) p =
      ((perform act p.objects).1, { p with objects := (perform act p.objects).2 }) := by
  rw [evaluate, perform_bind_ok (perform_get p)]
  simp only [perform]
  rcases act.run p.objects with ⟨e | a, o⟩ <;> rfl

/-- Arguments are passed as the objects now stand. -/
theorem perform_nowPassed (arguments : Passed) (o : Objects) :
    perform (Expr.nowPassed arguments) o =
      (.ok ⟨arguments.positional.map o.now, arguments.named.map fun (word, v) => (word, o.now v)⟩,
        o) := rfl

/-- What expressions refer to at a point of a rendering. -/
def Progress.scope (c : Context) (p : Progress) : Scope := ⟨value p.frames, Call.run c.command, []⟩

/-- A rule for what nodes write is about nodes that leave the progress of a rendering as it was: at
this point the node writes the text and does nothing else. -/
def Writes (c : Context) (p : Progress) (n : Node) (t : Text) : Prop :=
  perform (Node.render c n) p = (.ok (some t), p)

/-- The nodes write the text one after the other. -/
def WritesAll (c : Context) (p : Progress) (ns : List Node) (t : Text) : Prop :=
  perform (Node.renderAll c ns) p = (.ok (some t), p)

/-- At this point the expression has the value, as it is now, and changes nothing. -/
def Has (c : Context) (p : Progress) (e : Expr) (v : Value) : Prop :=
  ∃ held, perform (e.eval (p.scope c)) p.objects = (.ok held, p.objects) ∧ p.objects.now held = v

/-- Where the body of a loop begins in a round for the value. -/
def Progress.inRound (c : Context) (p : Progress) (line : Nat) (n : Text) (body : List Node)
    (state : LoopState) (v : Value) : Progress :=
  ⟨setIn n v (entered c p.frames
    (Symbols.ofLoopBody (p.frames.flatMap fun frame => frame.map Prod.fst) (.name line n) body)
    [("loop", .loop state)] :: p.frames), p.log, p.objects⟩

section

variable {c : Context} {p : Progress}

/-- Entries that are mapped by their keys are looked up under them. -/
theorem lookup_map_snd {α β : Type} (f : Text → α → β) (n : Text) (entries : List (Text × α)) :
    (entries.map fun (m, a) => (m, f m a)).lookup n = (entries.lookup n).map (f n) := by
  induction entries with
  | nil => rfl
  | cons entry entries inductionHypothesis =>
    obtain ⟨m, a⟩ := entry
    rw [List.map_cons, List.lookup_cons, List.lookup_cons, inductionHypothesis]
    by_cases same : n = m
    · subst same
      simp
    · simp [beq_false_of_ne same]

/-- A name has the value of its slot, as the objects now stand. -/
theorem has_name {n : Text} {v : Value} (slot : slot? p.frames n = some (some v)) :
    Has c p (.name n) (p.objects.now v) := by
  refine ⟨v, ?_, rfl⟩
  simp only [Expr.eval, Progress.scope, value, slot]
  rfl

/-- What a name holds when its part is entered. -/
def initial (c : Context) (frames : List Frame) (given : List (Text × Value)) (n : Text) :
    Origin → Option Value
  | .given => given.lookup n
  | .parameter => c.find? n
  | .outer => (slot? frames n).join
  | .nothing => none

/-- A scope that is entered holds the initial value of each of its names. -/
theorem lookup_entered (frames : List Frame) (s : Symbols) (given : List (Text × Value))
    (n : Text) :
    (entered c frames s given).lookup n = (s.names.lookup n).map (initial c frames given n) := by
  rw [← lookup_map_snd, entered]
  congr 2

/-- A scope that is entered has the names of its symbols. -/
theorem map_fst_entered (frames : List Frame) (s : Symbols) (given : List (Text × Value)) :
    (entered c frames s given).map Prod.fst = s.names.map Prod.fst := by
  rw [entered, List.map_map]
  rfl

/-- A template reads the parameters that it is given. -/
theorem Has.parameter {s : Symbols} {log : Log} {o : Objects} {n : Text} {v : Value}
    (reads : s.names.lookup n = some .parameter) (given : c.find? n = some v) :
    Has c ⟨[entered c [] s []], log, o⟩ (.name n) (o.now v) := by
  refine has_name ?_
  rw [slot?, List.findSome?_cons, lookup_entered, reads, Option.map_some, initial, given]

/-- A name of the innermost scope is set there. -/
theorem slot_setIn {n : Text} {v : Value} {frame : Frame} (outer : List Frame)
    (known : frame.lookup n ≠ none) : slot? (setIn n v (frame :: outer)) n = some (some v) := by
  have step : (fun ((m, old) : Text × Option Value) => if m == n then (m, some v) else (m, old)) =
      fun (m, old) => (m, if m == n then some v else old) := by
    funext ⟨m, old⟩
    by_cases same : m == n <;> simp [same]
  obtain ⟨old, held⟩ := Option.ne_none_iff_exists'.mp known
  rw [setIn, step, slot?, List.findSome?_cons,
    lookup_map_snd (fun m old => if m == n then some v else old), held]
  simp

/-- A loop reads the member of the round. -/
theorem Has.inRound {line : Nat} {n : Text} {body : List Node} {state : LoopState} {v : Value}
    (reads : (Symbols.ofLoopBody (p.frames.flatMap fun frame => frame.map Prod.fst) (.name line n)
      body).names.lookup n ≠ none) :
    Has c (p.inRound c line n body state (p.objects.now v)) (.name n) (p.objects.now v) := by
  have slot : slot? (p.inRound c line n body state (p.objects.now v)).frames n =
      some (some (p.objects.now v)) := by
    refine slot_setIn p.frames ?_
    rw [lookup_entered]
    exact mt Option.map_eq_none_iff.mp reads
  have read := has_name (c := c) slot
  rwa [Progress.inRound, Objects.now_now] at read

/-- A member of a value is read as the objects now stand. -/
theorem Has.member {e : Expr} {v : Value} (owner : Has c p e v) (name : Text) :
    Has c p (.member e name) (p.objects.now (v.member name)) := by
  obtain ⟨held, evaluated, rfl⟩ := owner
  refine ⟨(p.objects.now held).member name, ?_, rfl⟩
  rw [Expr.eval, perform_bind_ok evaluated, perform_bind_ok (Evaluation.perform_now ..)]
  rfl

/-- What a loop goes over is a list, as it is now. -/
theorem Has.iterate {e : Expr} {id : Nat} {items : List Value} {line : Nat}
    (function : Has c p (.name "_iterate") (.builtin .iterate))
    (source : Has c p e (.sharedList id items)) :
    Has c p (.call (.name "_iterate") (.mk [e, .const (.int line)] [] none none))
      (.sharedList id items) := by
  obtain ⟨f, found, isIterate⟩ := function
  obtain ⟨held, evaluated, now⟩ := source
  have given : perform (Expr.evalArguments (p.scope c) (.mk [e, .const (.int line)] [] none none))
      p.objects = (.ok ⟨[held, .int line], []⟩, p.objects) := by
    have both : perform (Expr.evalAll (p.scope c) [e, .const (.int line)]) p.objects =
        (.ok [held, .int line], p.objects) := by
      rw [Expr.evalAll, perform_bind_ok evaluated]
      rfl
    rw [Expr.evalArguments, perform_bind_ok both]
    rfl
  refine ⟨.sharedList id items, ?_, ?_⟩
  · rw [Expr.eval, perform_bind_ok found, perform_bind_ok given,
      perform_bind_ok (Evaluation.perform_now ..), isIterate,
      perform_bind_ok (perform_nowPassed ..)]
    simp only [List.map_cons, List.map_nil, now]
    rfl
  · rw [← now, Objects.now_now]

/-- A call of the default build command is what that renders to. -/
theorem perform_command {e : Expr} (function : Has c p e (.builtin .defaultCommand)) :
    perform ((Expr.call e .none).eval (p.scope c)) p.objects =
      ((c.command p.objects).map Value.text, p.objects) := by
  obtain ⟨f, found, isCommand⟩ := function
  rw [Expr.eval, perform_bind_ok found]
  change perform (Call.run c.command (p.objects.now f) ⟨[], []⟩) p.objects = _
  rw [isCommand]
  change perform (liftM (c.command p.objects) >>= fun t => pure (Value.text t)) p.objects = _
  rw [perform_bind_pure, perform_lift]

/-- Calling the default command gives its text. -/
theorem Has.command {e : Expr} {t : Text} (function : Has c p e (.builtin .defaultCommand))
    (rendered : c.command p.objects = .ok t) : Has c p (.call e .none) (.text t) := by
  refine ⟨.text t, ?_, rfl⟩
  rw [perform_command function, rendered]
  rfl

/-- An expression that has a value leaves the progress as it is. -/
theorem perform_eval {e : Expr} {v : Value} (has : Has c p e v) :
    perform (Render.eval c e) p = (.ok v, p) := by
  obtain ⟨held, evaluated, now⟩ := has
  change perform (evaluate (e.eval (p.scope c) >>= Evaluation.now)) p = _
  rw [perform_evaluate, perform_bind_ok evaluated, Evaluation.perform_now, now]

/-- An expression that fails leaves the progress as it is. -/
theorem perform_eval_of_error {e : Expr} {why : BuildError}
    (failed : perform (e.eval (p.scope c)) p.objects = (.error why, p.objects)) :
    perform (Render.eval c e) p = (.error why, p) := by
  change perform (evaluate (e.eval (p.scope c) >>= Evaluation.now)) p = _
  rw [perform_evaluate, perform_bind_error failed]

/-- No nodes write nothing. -/
theorem WritesAll.nil : WritesAll c p [] [] := rfl

/-- Nodes write one after the other. -/
theorem WritesAll.cons {n : Node} {ns : List Node} {t ts : Text} (first : Writes c p n t)
    (later : WritesAll c p ns ts) : WritesAll c p (n :: ns) (t ++ ts) := by
  rw [WritesAll, Node.renderAll, perform_bind_ok first, perform_bind_ok later]
  rfl

/-- A passage writes itself. -/
theorem Writes.data (t : Text) : Writes c p (.data t) t := rfl

/-- A printed expression writes its value as text. -/
theorem Writes.print {e : Expr} {v : Value} (has : Has c p e v) :
    Writes c p (.print e) v.toText := by
  rw [Writes, Node.render, perform_bind_ok (perform_eval has)]
  rfl

/-- A branch without alternatives writes its body or nothing. -/
theorem Writes.branch {test : Expr} {v : Value} {body : List Node} {t : Text}
    (has : Has c p test v) (inside : WritesAll c p body t) :
    Writes c p (.branch test body [] []) (if v.truthy then t else []) := by
  rw [Writes, Node.render, perform_bind_ok (perform_eval has)]
  split
  · exact inside
  · rfl

/-- One round of a loop writes the text for its member. -/
def WritesRound (c : Context) (p : Progress) (target : Target) (body : List Node) (length : Nat)
    (v : Value) (t : Text) : Prop :=
  ∀ index, perform (within c
    (Symbols.ofLoopBody (p.frames.flatMap fun frame => frame.map Prod.fst) target body)
    [("loop", .loop ⟨index, length⟩)] (do
      bind target (← evaluate (Evaluation.now v))
      Node.renderAll c body)) p = (.ok (some t), p)

/-- A loop writes what its rounds write, one after the other. -/
theorem perform_each {α : Type} {target : Target} {body : List Node} {length : Nat}
    {items : List α} {value : α → Value} {text : α → Text}
    (rounds : ∀ a ∈ items, WritesRound c p target body length (value a) (text a)) (index : Nat) :
    perform (each c target
      (Symbols.ofLoopBody (p.frames.flatMap fun frame => frame.map Prod.fst) target body) length
      (Node.renderAll c body) index (items.map value)) p =
        (.ok (some (items.flatMap text)), p) := by
  induction items generalizing index with
  | nil => rfl
  | cons a items inductionHypothesis =>
    have ⟨first, later⟩ := List.forall_mem_cons.mp rounds
    rw [List.map_cons, each, perform_bind_ok (first index),
      perform_bind_ok (inductionHypothesis later _)]
    rfl

/-- The names that are known are those of all scopes. -/
theorem perform_known (p : Progress) :
    perform known p = (.ok (p.frames.flatMap fun frame => frame.map Prod.fst), p) := rfl

/-- A loop writes one round for every member of its source. -/
theorem Writes.loop {α : Type} {target : Target} {source : Expr} {v : Value} {body : List Node}
    {items : List α} {value : α → Value} {text : α → Text} (has : Has c p source v)
    (members : v.items? = some (items.map value))
    (rounds : ∀ a ∈ items, WritesRound c p target body items.length (value a) (text a)) :
    Writes c p (.loop target source none body []) (items.flatMap text) := by
  rw [Writes, Node.render, perform_bind_ok (perform_eval has), members]
  simp only [pure_bind]
  cases items with
  | nil =>
    rw [List.map_nil, if_pos List.isEmpty_nil, perform_bind_ok (perform_known p)]
    rfl
  | cons a items =>
    rw [if_neg (by simp), perform_bind_ok (perform_known p), List.length_map]
    exact perform_each rounds 0

/-- The frame of a part is gone behind the part. -/
theorem perform_within {α : Type} {s : Symbols} {given : List (Text × Value)} {part : Render α}
    {a : α} {q : Progress}
    (done : perform part ⟨entered c p.frames s given :: p.frames, p.log, p.objects⟩ = (.ok a, q)) :
    perform (within c s given part) p = (.ok a, { q with frames := q.frames.drop 1 }) := by
  rw [within, perform_bind_ok (perform_modify ..), perform_bind_ok done,
    perform_bind_ok (perform_modify ..)]
  rfl

/-- Binding a name sets it in its scope. -/
theorem perform_bindName (line : Nat) (n : Text) (v : Value) (p : Progress) :
    perform (Render.bind (.name line n) v) p = (.ok (), { p with frames := setIn n v p.frames }) :=
  rfl

/-- A round writes what the body writes with the name bound. -/
theorem WritesRound.of_body {line : Nat} {n : Text} {v : Value} {body : List Node} {length : Nat}
    {t : Text} (inside : ∀ index,
      WritesAll c (p.inRound c line n body ⟨index, length⟩ (p.objects.now v)) body t) :
    WritesRound c p (.name line n) body length v t := by
  intro index
  refine perform_within (q := p.inRound c line n body ⟨index, length⟩ (p.objects.now v)) ?_
  rw [perform_bind_ok (perform_evaluate ..), Evaluation.perform_now,
    perform_bind_ok (perform_bindName ..)]
  exact inside index

/-- A template writes what its nodes write in the frame of the template. -/
theorem run_of_writesAll {nodes : List Node} {t : Text} {o : Objects}
    (writes : WritesAll c ⟨[entered c [] (Symbols.ofTemplate nodes) []], [], o⟩ nodes t) :
    perform (Compiled.run c ⟨nodes⟩) ⟨[], [], o⟩ = (.ok t, ⟨[], [], o⟩) := by
  refine perform_within (q := ⟨[entered c [] (Symbols.ofTemplate nodes) []], [], o⟩) ?_
  rw [perform_bind_ok writes]
  rfl

/-- A template renders to what its nodes write. -/
theorem render_of_writesAll {template : Text} {nodes : List Node} {t : Text} {o : Objects}
    (compiled : compile c.tags template = .ok ⟨nodes⟩)
    (writes : WritesAll c ⟨[entered c [] (Symbols.ofTemplate nodes) []], [], o⟩ nodes t) :
    render c o template = ⟨.ok t, [], o⟩ := by
  rw [render_of_compiled compiled, run_of_writesAll writes]

end

end HaxeBuild.Template
