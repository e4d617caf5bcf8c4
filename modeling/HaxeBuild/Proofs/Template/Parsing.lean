import HaxeBuild.Template.Parser

namespace HaxeBuild.Template

/-- What follows a reader goes on from where that one has come to. -/
theorem Read.run_bind_ok {α β : Type} {read : Read α} {next : α → Read β} {r r' : Reader} {a : α}
    (first : read.run r = .ok (a, r')) : (read >>= next).run r = (next a).run r' := by
  rw [StateT.run_bind, first]
  rfl

namespace Node

open Read

/-- A reader at the tokens, inside of the given blocks and before the tags that would end them. -/
def reading (blocks : List Text) (ends : List (List Text)) (line : Nat) : List Token → Reader
  | [] => ⟨⟨line, .templateEnd⟩, [], none, blocks, ends⟩
  | t :: ts => ⟨t, ts, none, blocks, ends⟩

/-- The nodes are read up to one of the tags or to the end, and the reader has moved. -/
def Reads (l : Limits) (steps : Nat) (tags : Option (List Text)) (r : Reader) (nodes : List Node)
    (r' : Reader) : Prop :=
  (readAll l steps tags).run r = .ok (nodes, r')

variable {l : Limits} {steps line line' lineEnd : Nat} {tags : Option (List Text)}
  {blocks : List Text} {ends : List (List Text)} {ts after : List Token} {nodes : List Node}
  {r' : Reader}

/-- The reader moves from one token to the next. -/
theorem run_next (t : Token) (ts : List Token) :
    next.run (reading blocks ends line (t :: ts)) = .ok (t, reading blocks ends t.line ts) := by
  cases ts <;> rfl

/-- The reader moves on from a token that is expected. -/
theorem run_expect {wanted : Lexeme → Bool} {t : Token} (is : wanted t.lexeme = true)
    (described : Text) (ts : List Token) :
    (expect wanted described).run (reading blocks ends line (t :: ts)) =
      .ok (t, reading blocks ends t.line ts) := by
  have here : (isAt wanted).run (reading blocks ends line (t :: ts)) =
      .ok (true, reading blocks ends line (t :: ts)) := by
    rw [← is]
    rfl
  rw [expect, run_bind_ok here, if_pos rfl, run_next]

/-- The reader stays before a token that is not to be skipped. -/
theorem run_skipIf {wanted : Lexeme → Bool} {t : Token} (other : wanted t.lexeme = false)
    (ts : List Token) : (skipIf wanted).run (reading blocks ends line (t :: ts)) =
      .ok (false, reading blocks ends line (t :: ts)) := by
  have here : (isAt wanted).run (reading blocks ends line (t :: ts)) =
      .ok (false, reading blocks ends line (t :: ts)) := by
    rw [← other]
    rfl
  rw [skipIf, run_bind_ok here, if_neg Bool.false_ne_true]
  rfl

/-- Nothing is read from no tokens. -/
theorem reads_end (line : Nat) :
    Reads l (steps + 1) tags (reading blocks ends line []) [] (reading blocks ends line []) :=
  rfl

/-- Nothing is read beyond a tag that ends the block. -/
theorem reads_tag {word : Text} {ending : List Text} (among : word ∈ ending) :
    Reads l (steps + 1) (some ending)
      (reading blocks ends line' (⟨line, .blockBegin⟩ :: ⟨line, .name word⟩ :: ts)) []
      (reading blocks ends line (⟨line, .name word⟩ :: ts)) := by
  have ended : ending.any (Lexeme.name word).isName = true :=
    List.any_eq_true.mpr ⟨word, among, beq_self_eq_true word⟩
  have step : (readAll l (steps + 1) (some ending)).run
        (reading blocks ends line' (⟨line, .blockBegin⟩ :: ⟨line, .name word⟩ :: ts)) =
      (if ending.any (Lexeme.name word).isName then pure [] else (do
        let nodes ← readStatement l (readAll l steps)
        let _ ← expectBlockEnd
        return nodes ++ (← readAll l steps (some ending))) : Read (List Node)).run
        (reading blocks ends line (⟨line, .name word⟩ :: ts)) := rfl
  rw [Reads, step, if_pos ended]
  rfl

/-- A passage is read into its node. -/
theorem Reads.data (t : Text) (reads : Reads l steps tags (reading blocks ends line ts) nodes r') :
    Reads l (steps + 1) tags (reading blocks ends line' (⟨line, .data t⟩ :: ts))
      (.data t :: nodes) r' := by
  have step : (readAll l (steps + 1) tags).run
        (reading blocks ends line' (⟨line, .data t⟩ :: ts)) = do
      let rest ← (readAll l steps tags).run (reading blocks ends line ts)
      return (.data t :: rest.1, rest.2) := by
    cases ts <;> rfl
  rw [Reads, step, reads]
  rfl

/-- An expression between its marks is read into a node that prints it. -/
theorem Reads.print (inner : List Token) {e : Expr}
    (printed : (l.tuple true).run (reading blocks ends line (inner ++ ⟨line, .variableEnd⟩ :: ts)) =
      .ok (e, reading blocks ends line (⟨line, .variableEnd⟩ :: ts)))
    (reads : Reads l steps tags (reading blocks ends line ts) nodes r') :
    Reads l (steps + 1) tags (reading blocks ends line'
        (⟨line, .variableBegin⟩ :: (inner ++ ⟨line, .variableEnd⟩ :: ts)))
      (.print e :: nodes) r' := by
  have step : (readAll l (steps + 1) tags).run (reading blocks ends line'
        (⟨line, .variableBegin⟩ :: (inner ++ ⟨line, .variableEnd⟩ :: ts))) =
      ((do
        let e ← l.tuple true
        let _ ← expect isVariableEnd "end of print statement"
        return .print e :: (← readAll l steps tags)) : Read (List Node)).run
        (reading blocks ends line (inner ++ ⟨line, .variableEnd⟩ :: ts)) := by
    cases inner <;> rfl
  rw [Reads, step, run_bind_ok printed, run_bind_ok (run_expect rfl ..), run_bind_ok reads]
  rfl

/-- A statement between its marks is read into its node. -/
theorem Reads.statement (inner : List Token) {first : Node}
    (stated : (readStatement l (readAll l steps)).run
        (reading blocks ends line (inner ++ ⟨lineEnd, .blockEnd⟩ :: ts)) =
      .ok ([first], reading blocks ends lineEnd (⟨lineEnd, .blockEnd⟩ :: ts)))
    (reads : Reads l steps none (reading blocks ends lineEnd ts) nodes r') :
    Reads l (steps + 1) none (reading blocks ends line'
        (⟨line, .blockBegin⟩ :: (inner ++ ⟨lineEnd, .blockEnd⟩ :: ts))) (first :: nodes) r' := by
  have step : (readAll l (steps + 1) none).run (reading blocks ends line'
        (⟨line, .blockBegin⟩ :: (inner ++ ⟨lineEnd, .blockEnd⟩ :: ts))) =
      ((do
        let nodes ← readStatement l (readAll l steps)
        let _ ← expectBlockEnd
        return nodes ++ (← readAll l steps none)) : Read (List Node)).run
        (reading blocks ends line (inner ++ ⟨lineEnd, .blockEnd⟩ :: ts)) := by
    cases inner <;> rfl
  rw [Reads, step, run_bind_ok stated, expectBlockEnd, run_bind_ok (run_expect rfl ..),
    run_bind_ok reads]
  rfl

/-- The body of a block is read up to the tag that ends it. -/
theorem run_readBody {ending : List Text} {word : Text}
    (reads : Reads l steps (some ending) (reading blocks (ending :: ends) line ts) nodes
      (reading blocks (ending :: ends) lineEnd (⟨lineEnd, .name word⟩ :: after))) :
    (readBody (readAll l steps) ending).run
        (reading blocks ends line (⟨line, .blockEnd⟩ :: ts)) =
      .ok (nodes, reading blocks ends lineEnd (⟨lineEnd, .name word⟩ :: after)) := by
  have awaited : (modify fun r => { r with ends := ending :: r.ends } : Read PUnit).run
        (reading blocks ends line ts) = .ok (⟨⟩, reading blocks (ending :: ends) line ts) := by
    cases ts <;> rfl
  have read : (upTo ending (readAll l steps (some ending))).run (reading blocks ends line ts) =
      .ok (nodes, reading blocks ends lineEnd (⟨lineEnd, .name word⟩ :: after)) := by
    rw [upTo, run_bind_ok awaited, run_bind_ok reads]
    rfl
  rw [readBody, run_bind_ok (run_skipIf rfl _), expectBlockEnd, run_bind_ok (run_expect rfl ..),
    run_bind_ok read]
  rfl

/-- A loop without a filter and without an alternative is read part by part. -/
theorem run_loop {t : Target} {e : Expr} (target source : List Token)
    (bound : (l.target false).run (reading ("for" :: blocks) ends line (target ++
        ⟨line, .name "in"⟩ :: (source ++ ⟨line, .blockEnd⟩ :: ts))) =
      .ok (t, reading ("for" :: blocks) ends line
        (⟨line, .name "in"⟩ :: (source ++ ⟨line, .blockEnd⟩ :: ts))))
    (given : (l.tuple false).run
        (reading ("for" :: blocks) ends line (source ++ ⟨line, .blockEnd⟩ :: ts)) =
      .ok (e, reading ("for" :: blocks) ends line (⟨line, .blockEnd⟩ :: ts)))
    (reads : Reads l steps (some ["endfor", "else"])
      (reading ("for" :: blocks) (["endfor", "else"] :: ends) line ts) nodes
      (reading ("for" :: blocks) (["endfor", "else"] :: ends) lineEnd
        (⟨lineEnd, .name "endfor"⟩ :: ⟨lineEnd, .blockEnd⟩ :: after))) :
    (readStatement l (readAll l steps)).run (reading blocks ends line (⟨line, .name "for"⟩ ::
        (target ++ ⟨line, .name "in"⟩ :: (source ++ ⟨line, .blockEnd⟩ :: ts)))) =
      .ok ([.loop t e none nodes []], reading blocks ends lineEnd (⟨lineEnd, .blockEnd⟩ :: after)) := by
  have loop : (readLoop l (readAll l steps)).run (reading ("for" :: blocks) ends line
        (⟨line, .name "for"⟩ :: (target ++ ⟨line, .name "in"⟩ ::
          (source ++ ⟨line, .blockEnd⟩ :: ts)))) =
      .ok (.loop t e none nodes [],
        reading ("for" :: blocks) ends lineEnd (⟨lineEnd, .blockEnd⟩ :: after)) := by
    rw [readLoop, run_bind_ok (run_next ..), run_bind_ok bound, expectWord,
      run_bind_ok (run_expect rfl ..), run_bind_ok given, run_bind_ok (run_skipIf rfl _),
      if_neg Bool.false_ne_true, run_bind_ok rfl, run_bind_ok (run_skipIf rfl _),
      run_bind_ok (run_readBody reads), run_bind_ok (run_next ..)]
    rfl
  have opened : (modify fun r => { r with blocks := "for" :: r.blocks } : Read PUnit).run
        (reading blocks ends line (⟨line, .name "for"⟩ :: (target ++ ⟨line, .name "in"⟩ ::
          (source ++ ⟨line, .blockEnd⟩ :: ts)))) =
      .ok (⟨⟩, reading ("for" :: blocks) ends line (⟨line, .name "for"⟩ :: (target ++
        ⟨line, .name "in"⟩ :: (source ++ ⟨line, .blockEnd⟩ :: ts)))) := rfl
  change (inBlock "for" do return [← readLoop l (readAll l steps)]).run _ = _
  rw [inBlock, run_bind_ok opened, run_bind_ok (run_bind_ok loop)]
  rfl

/-- Nodes that are read as far as the tokens go are those of the template. -/
theorem ofTokens_of_reads (size : ts.length + 2 = steps)
    (reads : Reads ⟨steps⟩ steps none (reading [] [] 1 ts) nodes r') :
    ofTokens ⟨ts, none⟩ = .ok nodes := by
  have start : Reader.start ⟨ts, none⟩ = .ok (reading [] [] 1 ts) := by cases ts <;> rfl
  subst size
  rw [ofTokens, start]
  change (do
    let read ← (readAll ⟨ts.length + 2⟩ (ts.length + 2) none).run (reading [] [] 1 ts)
    return read.1) = _
  rw [reads]
  rfl

end Node

end HaxeBuild.Template
