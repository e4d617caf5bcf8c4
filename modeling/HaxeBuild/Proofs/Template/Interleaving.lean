import Mathlib.Data.List.Infix
import HaxeBuild.Proofs.Build.DefaultCommand
import HaxeBuild.Proofs.Template.Cutting
import HaxeBuild.Proofs.Template.Lexing
import HaxeBuild.Proofs.Text.LineEnds

namespace HaxeBuild.Template

open Effect Render

/-- Two neighbouring code points are an opening mark. -/
def Opens (c d : Code) : Prop :=
  c = .char '\x7b' ∧ (d = .char '\x7b' ∨ d = .char '%' ∨ d = .char '#')

instance (c d : Code) : Decidable (Opens c d) := inferInstanceAs (Decidable (_ ∧ _))

/-- No opening mark occurs in the text. -/
def Unmarked (t : Text) : Prop := t.IsChain fun c d => ¬ Opens c d

/-- A text is unmarked if none of the opening marks stands in it. -/
theorem unmarked_iff {t : Text} :
    Unmarked t ↔ ∀ mark ∈ [Mark.valueOpen, Mark.blockOpen, Mark.commentOpen], ¬ mark <:+: t := by
  have spelled (mark : Text) : mark ∈ [Mark.valueOpen, Mark.blockOpen, Mark.commentOpen] ↔
      ∃ c d, Opens c d ∧ mark = [c, d] := by
    simp [Opens, Mark.valueOpen, Mark.blockOpen, Mark.commentOpen, Text.ofString]
  rw [Unmarked, List.isChain_iff_forall_rel_of_append_cons_cons]
  constructor
  · rintro apart mark among ⟨before, after, is⟩
    obtain ⟨c, d, opens, rfl⟩ := (spelled mark).mp among
    have split : t = before ++ c :: d :: after := by
      rw [← is, List.append_assoc]
      rfl
    exact apart split opens
  · rintro absent c d before after rfl opens
    exact absent [c, d] ((spelled _).mpr ⟨c, d, opens, rfl⟩) ⟨before, after, by simp⟩

/-- Joined texts are unmarked if both are and no mark forms at the seam. -/
theorem unmarked_append {t u : Text} :
    Unmarked (t ++ u) ↔ Unmarked t ∧ Unmarked u ∧
      ∀ c ∈ t.getLast?, ∀ d ∈ u.head?, ¬ Opens c d :=
  List.isChain_append

/-- Unifying line ends brings no mark about. -/
theorem Unmarked.unifyLineEnds {t : Text} (unmarked : Unmarked t) : Unmarked t.unifyLineEnds := by
  refine Text.isChain_unifyLineEnds (fun c => ?_) (fun c => ?_) unmarked
  · rintro ⟨-, is | is | is⟩ <;> cases is
  · rintro ⟨is, -⟩
    cases is

/-- Pieces of text with a mark between them. -/
def interleave (mark : Text) : (first : Text) → (later : List Text) → Text
  | first, [] => first
  | first, next :: later => first ++ (mark ++ interleave mark next later)

/-- No opening mark occurs in the pieces, and none begins at the end of one that has a successor. -/
def Clean : (first : Text) → (later : List Text) → Prop
  | first, [] => Unmarked first
  | first, next :: later =>
    Unmarked first ∧ first.getLast? ≠ some (.char '\x7b') ∧ Clean next later

/-- Unifying line ends keeps all pieces clean. -/
theorem Clean.unifyLineEnds {first : Text} {later : List Text} (clean : Clean first later) :
    Clean first.unifyLineEnds (later.map Text.unifyLineEnds) := by
  induction later generalizing first with
  | nil => exact Unmarked.unifyLineEnds clean
  | cons next later inductionHypothesis =>
    obtain ⟨unmarked, last, rest⟩ := clean
    refine ⟨unmarked.unifyLineEnds, fun ends => last ?_, inductionHypothesis rest⟩
    exact Text.getLast?_of_unifyLineEnds (by decide) ends

/-- Line ends are unified in the pieces. -/
theorem unifyLineEnds_interleave (first : Text) (later : List Text) :
    (interleave Command.defaultCall first later).unifyLineEnds =
      interleave Command.defaultCall first.unifyLineEnds (later.map Text.unifyLineEnds) := by
  induction later generalizing first with
  | nil => rfl
  | cons next later inductionHypothesis =>
    have opening (rest : Text) :
        (Command.defaultCall ++ rest).head? = some (.char '\x7b') := rfl
    have closing : Command.defaultCall.getLast? ≠ some (.char '\r') := by decide
    have call : Command.defaultCall.unifyLineEnds = Command.defaultCall := by decide
    rw [interleave, Text.unifyLineEnds_append, Text.unifyLineEnds_append fun ⟨last, _⟩ =>
      closing last, inductionHypothesis, call]
    · rfl
    · rintro ⟨-, is⟩
      rw [opening] at is
      cases is

/-! ### Tags -/

/-- No block tag begins in the text. -/
def Unopened (t : Text) : Prop := t.IsChain fun c d => ¬ (c = .char '\x7b' ∧ d = .char '%')

/-- Without marks no custom tag opens. -/
theorem Unmarked.unopened {t : Text} (unmarked : Unmarked t) : Unopened t :=
  unmarked.imp fun _ _ apart ⟨first, second⟩ => apart ⟨first, .inr (.inl second)⟩

/-- Clean pieces between calls open no custom tag. -/
theorem Clean.unopened {first : Text} {later : List Text} (clean : Clean first later) :
    Unopened (interleave Command.defaultCall first later) := by
  induction later generalizing first with
  | nil => exact Unmarked.unopened clean
  | cons next later inductionHypothesis =>
    obtain ⟨unmarked, last, rest⟩ := clean
    have call : Unopened Command.defaultCall := by
      unfold Unopened
      decide
    refine List.isChain_append.mpr ⟨unmarked.unopened, ?_, ?_⟩
    · refine List.isChain_append.mpr ⟨call, inductionHypothesis rest, ?_⟩
      rintro c ends d - ⟨rfl, -⟩
      cases ends
    · rintro c ends d - ⟨rfl, -⟩
      exact last ends

/-- A text without custom tags is one plain segment. -/
theorem cut_of_unopened {t : Text} (unopened : Unopened t) (present : t ≠ []) :
    Segment.cut t = [.plain t] := by
  induction t with
  | nil => exact absurd rfl present
  | cons c rest inductionHypothesis =>
    have ⟨next, later⟩ := List.isChain_cons.mp unopened
    have apart : ∀ more, c :: rest ≠ Mark.blockOpen ++ more := by
      intro more is
      cases is
      exact next _ rfl ⟨rfl, rfl⟩
    rw [Segment.cut_cons apart]
    cases rest with
    | nil => rfl
    | cons d rest =>
      rw [inductionHypothesis later (List.cons_ne_nil _ _)]
      rfl

/-- A template without tags is expanded to itself. -/
theorem expand_of_unopened {t : Text} (unopened : Unopened t) (tags : List Tag) :
    expand tags t = .ok t := by
  cases t with
  | nil => rfl
  | cons c rest =>
    have cut := cut_of_unopened unopened (List.cons_ne_nil c rest)
    have expanded : Expansion.segments tags [] 1 (Segment.cut (c :: rest)) =
        .ok (Segment.cut (c :: rest)) := by
      rw [cut]
      rfl
    rw [(expand_of_segments expanded).1, Segment.join_cut]

/-! ### Tokens -/

namespace Lexer

/-- A search goes on behind a text in which it finds nothing. -/
theorem search_append {α : Type} {find : Text → Option α} {t rest : Text}
    (nothing : ∀ s, s <:+ t → s ≠ [] → find (s ++ rest) = none) :
    search find (t ++ rest) = (search find rest).map fun (front, a) => (t ++ front, a) := by
  induction t with
  | nil => simp
  | cons c t inductionHypothesis =>
    have later := inductionHypothesis fun s behind =>
      nothing s (behind.trans (List.suffix_cons c t))
    have here := nothing (c :: t) (List.suffix_refl _) (List.cons_ne_nil _ _)
    rw [List.cons_append] at here ⊢
    rw [search, here]
    simp only [later, Option.map_map]
    rfl

/-- No tag opens where no mark stands. -/
theorem opening?_eq_none {c : Code} {rest : Text} (apart : ∀ d ∈ rest.head?, ¬ Opens c d) :
    opening? (c :: rest) = none := by
  have absent {d : Code} (opens : ∀ e, e = d → Opens (.char '\x7b') e) :
      Text.after? [.char '\x7b', d] (c :: rest) = none := by
    rcases found : Text.after? [.char '\x7b', d] (c :: rest) with _ | more
    · rfl
    · have is := Text.eq_append_of_after? found
      cases is
      exact absurd (opens d rfl) (apart d rfl)
  have value : Text.after? Mark.valueOpen (c :: rest) = none :=
    absent fun _ is => ⟨rfl, .inl is⟩
  have block : Text.after? Mark.blockOpen (c :: rest) = none :=
    absent fun _ is => ⟨rfl, .inr (.inl is)⟩
  have comment : Text.after? Mark.commentOpen (c :: rest) = none :=
    absent fun _ is => ⟨rfl, .inr (.inr is)⟩
  simp [opening?, wordTag?, value, block, comment]

/-- In a text without marks none is found, unless its end and what follows are one. -/
theorem search_opening?_append {t rest : Text} (unmarked : Unmarked t)
    (apart : ∀ c ∈ t.getLast?, ∀ d ∈ rest.head?, ¬ Opens c d) :
    search opening? (t ++ rest) = (search opening? rest).map fun (front, a) => (t ++ front, a) := by
  refine search_append fun s behind present => ?_
  obtain ⟨before, rfl⟩ := behind
  obtain ⟨-, unmarked, -⟩ := unmarked_append.mp unmarked
  cases s with
  | nil => exact absurd rfl present
  | cons c s =>
    refine opening?_eq_none fun d first => ?_
    cases s with
    | nil => exact apart c (by simp) d first
    | cons e s =>
      cases first
      exact (List.isChain_cons.mp unmarked).1 _ rfl

/-- No opening is found in an unmarked text. -/
theorem search_opening?_unmarked {t : Text} (unmarked : Unmarked t) :
    search opening? t = none := by
  have found : search opening? (t ++ []) = none := search_opening?_append unmarked (by simp)
  rwa [List.append_nil] at found

/-- A passage as a token, unless it is empty. -/
def dataTokens (line : Nat) (t : Text) : List Token := if t.isEmpty then [] else [⟨line, .data t⟩]

/-- The tokens of a call of the default command. -/
def callTokens (line : Nat) : List Token := [
  ⟨line, .variableBegin⟩, ⟨line, .name "defaultBuildCommand"⟩, ⟨line, .symbol .lparen⟩,
  ⟨line, .symbol .rparen⟩, ⟨line, .variableEnd⟩]

/-- The tokens of pieces of text with calls between them. -/
def interleavedTokens : (line : Nat) → (first : Text) → (later : List Text) → List Token
  | line, first, [] => dataTokens line first
  | line, first, next :: later =>
    let line' := line + first.countNewlines
    dataTokens line first ++ (callTokens line' ++ interleavedTokens line' next later)

/-- A passage goes before the tokens of what follows it. -/
theorem withData_eq (line : Nat) (t : Text) (ts : List Token) :
    withData line t ⟨ts, none⟩ = ⟨dataTokens line t ++ ts, none⟩ := by
  rw [withData, dataTokens]
  split <;> rfl

/-- The lexer passes an unmarked passage and opens the call behind it. -/
theorem read_data {first rest : Text} (unmarked : Unmarked first)
    (apart : first.getLast? ≠ some (.char '\x7b')) (steps offset line : Nat) :
    read (steps + 1) .text ⟨first ++ (Command.defaultCall ++ rest), offset, line⟩ =
      withData line first ((read steps (.inside .variable [] false)
        ⟨(" defaultBuildCommand() \x7d\x7d" : Text) ++ rest, offset + first.length + 2,
          line + first.countNewlines⟩).prepend ⟨line + first.countNewlines, .variableBegin⟩) := by
  have here : search opening? (Command.defaultCall ++ rest) =
      some ([], Opening.variable, Mark.valueOpen, Trim.keep) := rfl
  have found : search opening? (first ++ (Command.defaultCall ++ rest)) =
      some (first, Opening.variable, Mark.valueOpen, Trim.keep) := by
    rw [search_opening?_append unmarked, here, Option.map_some]
    · dsimp only
      rw [List.append_nil]
    · rintro c ends d - ⟨rfl, -⟩
      exact apart ends
  rw [read]
  simp only [found, Cursor.past_append, kept]
  rfl

/-- A call that is begun is read in six steps. -/
theorem read_call (rest : Text) (steps offset line : Nat) :
    read (steps + 6) (.inside .variable [] false)
      ⟨(" defaultBuildCommand() \x7d\x7d" : Text) ++ rest, offset, line⟩ =
    ((((read steps .text ⟨rest, offset + 25, line⟩).prepend ⟨line, .variableEnd⟩).prepend
      ⟨line, .symbol .rparen⟩).prepend ⟨line, .symbol .lparen⟩).prepend
        ⟨line, .name "defaultBuildCommand"⟩ := rfl

/-- Seven steps are enough for each call and the text before it. -/
theorem read_interleaved {first : Text} {later : List Text} (clean : Clean first later)
    {steps : Nat} (enough : 7 * later.length < steps) (offset line : Nat) :
    read steps .text ⟨interleave Command.defaultCall first later, offset, line⟩ =
      ⟨interleavedTokens line first later, none⟩ := by
  induction later generalizing first steps offset line with
  | nil =>
    obtain ⟨steps, rfl⟩ : ∃ n, steps = n + 1 := ⟨steps - 1, by omega⟩
    rw [read]
    simp only [interleave, search_opening?_unmarked clean, finished, withData_eq,
      List.append_nil, interleavedTokens]
  | cons next later inductionHypothesis =>
    obtain ⟨unmarked, apart, rest⟩ := clean
    rw [List.length_cons] at enough
    obtain ⟨steps, rfl⟩ : ∃ n, steps = n + 6 + 1 := ⟨steps - 7, by omega⟩
    rw [interleave, read_data unmarked apart, read_call, inductionHypothesis rest (by omega)]
    exact withData_eq ..

/-- A template without tags is read as its pieces. -/
theorem tokens_interleave {first : Text} {later : List Text} (clean : Clean first later) :
    tokens (interleave Command.defaultCall first later) =
      ⟨interleavedTokens 1 first.unifyLineEnds (later.map Text.unifyLineEnds), none⟩ := by
  have size (first : Text) (later : List Text) :
      7 * later.length ≤ (interleave Command.defaultCall first later).length := by
    have call : Command.defaultCall.length = 27 := rfl
    induction later generalizing first with
    | nil => exact Nat.zero_le _
    | cons next later inductionHypothesis =>
      have rest := inductionHypothesis next
      simp only [interleave, List.length_append, List.length_cons, call]
      omega
  rw [tokens, unifyLineEnds_interleave, read_interleaved clean.unifyLineEnds]
  have enough := size first.unifyLineEnds (later.map Text.unifyLineEnds)
  omega

end Lexer

/-! ### Nodes -/

/-- A passage as a node, unless it is empty. -/
def dataNodes (t : Text) : List Node := if t.isEmpty then [] else [.data t]

/-- The call of the default command. -/
def call : Expr := .call (.name "defaultBuildCommand") .none

/-- The nodes of pieces of text with calls between them. -/
def interleavedNodes : (first : Text) → (later : List Text) → List Node
  | first, [] => dataNodes first
  | first, next :: later => dataNodes first ++ .print call :: interleavedNodes next later

namespace Node

open Lexer

variable {l : Limits} {steps line : Nat} {ts : List Token} {nodes : List Node}

/-- A call is read as an expression of its own. -/
theorem run_tuple_call (enough : 6 ≤ l.steps) (line : Nat) (ts : List Token) :
    (l.tuple true).run (reading [] [] line ((Lexer.callTokens line).tail ++ ts)) =
      .ok (call, reading [] [] line (⟨line, .variableEnd⟩ :: ts)) := by
  obtain ⟨n, is⟩ : ∃ n, l = ⟨n + 6⟩ := ⟨l.steps - 6, by cases l; simp_all⟩
  rw [is]
  rfl

/-- A call of the default command is read into a node that prints it. -/
theorem Reads.call {line' : Nat} {r' : Reader} (enough : 6 ≤ l.steps)
    (reads : Reads l steps none (reading [] [] line ts) nodes r') :
    Reads l (steps + 1) none (reading [] [] line' (Lexer.callTokens line ++ ts))
      (.print Template.call :: nodes) r' :=
  reads.print [⟨line, .name "defaultBuildCommand"⟩, ⟨line, .symbol .lparen⟩,
    ⟨line, .symbol .rparen⟩] (run_tuple_call enough line ts)

/-- Two steps are enough for each call and the text before it. -/
theorem reads_interleaved (first : Text) {later : List Text} (enough : later ≠ [] → 6 ≤ l.steps)
    (room : 2 * later.length + 1 < steps) (line line' : Nat) :
    ∃ r', Reads l steps none (reading [] [] line' (Lexer.interleavedTokens line first later))
      (interleavedNodes first later) r' := by
  induction later generalizing first steps line line' with
  | nil =>
    obtain ⟨steps, rfl⟩ : ∃ n, steps = n + 2 := ⟨steps - 2, by omega⟩
    rw [interleavedNodes, Lexer.interleavedTokens, Lexer.dataTokens, dataNodes]
    split
    · exact ⟨_, reads_end line'⟩
    · exact ⟨_, (reads_end line).data first⟩
  | cons next later inductionHypothesis =>
    rw [List.length_cons] at room
    obtain ⟨steps, rfl⟩ : ∃ n, steps = n + 2 := ⟨steps - 2, by omega⟩
    have enough := enough (List.cons_ne_nil _ _)
    have rest {steps : Nat} (room : 2 * later.length + 1 < steps) (line' : Nat) :
        ∃ r', Reads l (steps + 1) none (reading [] [] line' _) _ r' :=
      (inductionHypothesis next (fun _ => enough) room (line + first.countNewlines)
        (line + first.countNewlines)).imp fun _ reads => reads.call enough
    rw [interleavedNodes, Lexer.interleavedTokens, Lexer.dataTokens, dataNodes]
    split
    · exact rest (by omega) line'
    · exact (rest (by omega) line).imp fun _ reads => reads.data first

/-- Each call takes five tokens at least. -/
theorem length_interleavedTokens (line : Nat) (first : Text) (later : List Text) :
    5 * later.length ≤ (Lexer.interleavedTokens line first later).length := by
  induction later generalizing line first with
  | nil => exact Nat.zero_le _
  | cons next later inductionHypothesis =>
    have rest := inductionHypothesis (line + first.countNewlines) next
    have call : (Lexer.callTokens (line + first.countNewlines)).length = 5 := rfl
    simp only [Lexer.interleavedTokens, List.length_append, List.length_cons, call]
    omega

/-- Interleaved tokens are parsed into the interleaved nodes. -/
theorem ofTokens_interleaved (first : Text) (later : List Text) :
    ofTokens ⟨Lexer.interleavedTokens 1 first later, none⟩ =
      .ok (interleavedNodes first later) := by
  have size := length_interleavedTokens 1 first later
  generalize is : Lexer.interleavedTokens 1 first later = ts at size
  have enough : later ≠ [] → 6 ≤ (Limits.mk (ts.length + 2)).steps := by
    intro calls
    have present := List.length_pos_iff.mpr calls
    exact Nat.le_trans (by omega) (Nat.add_le_add_right size 2)
  have room : 2 * later.length + 1 < ts.length + 2 := by omega
  obtain ⟨r', reads⟩ := reads_interleaved first enough room 1 1
  rw [is] at reads
  exact ofTokens_of_reads rfl reads

/-- The interleaved nodes pass the check. -/
theorem checkAll_interleaved (first : Text) (later : List Text) :
    checkAll false (interleavedNodes first later) = .ok () := by
  have data (t : Text) (nodes : List Node) :
      checkAll false (dataNodes t ++ nodes) = checkAll false nodes := by
    rw [dataNodes]
    split <;> rfl
  induction later generalizing first with
  | nil =>
    have only := data first []
    rw [List.append_nil] at only
    exact only
  | cons next later inductionHypothesis =>
    rw [interleavedNodes, data]
    exact inductionHypothesis next

end Node

/-- Clean pieces between calls compile, whatever tags are registered. -/
theorem compile_interleave {first : Text} {later : List Text} (clean : Clean first later)
    (tags : List Tag) : compile tags (interleave Command.defaultCall first later) =
      .ok ⟨interleavedNodes first.unifyLineEnds (later.map Text.unifyLineEnds)⟩ := by
  rw [compile, expand_of_unopened clean.unopened]
  change (do
    let nodes ← Node.parse (interleave Command.defaultCall first later)
    Node.checkAll false nodes
    return (⟨nodes⟩ : Compiled)) = _
  rw [Node.parse, Lexer.tokens_interleave clean, Node.ofTokens_interleaved]
  change (do
    Node.checkAll false (interleavedNodes first.unifyLineEnds (later.map Text.unifyLineEnds))
    return (⟨_⟩ : Compiled)) = _
  rw [Node.checkAll_interleaved]
  rfl

/-! ### Output -/

/-- The symbols of a template that calls the default command. -/
def calling : Symbols := ⟨[("defaultBuildCommand", .parameter)], []⟩

/-- The only name that is read is that of the default command. -/
theorem visitAll_interleaved (first : Text) (later : List Text) :
    Symbols.visitAll [] calling (interleavedNodes first later) = calling ∧
      (later ≠ [] →
        Symbols.visitAll [] Symbols.empty (interleavedNodes first later) = calling) := by
  have data (s : Symbols) (t : Text) (nodes : List Node) :
      Symbols.visitAll [] s (dataNodes t ++ nodes) = Symbols.visitAll [] s nodes := by
    rw [dataNodes]
    split <;> rfl
  induction later generalizing first with
  | nil =>
    have only := data calling first []
    rw [List.append_nil] at only
    exact ⟨only, absurd rfl⟩
  | cons next later inductionHypothesis =>
    have again : Symbols.visit [] calling (.print call) = calling := rfl
    have begun : Symbols.visit [] Symbols.empty (.print call) = calling := rfl
    rw [interleavedNodes, data, data, Symbols.visitAll, Symbols.visitAll, again, begun]
    exact ⟨(inductionHypothesis next).1, fun _ => (inductionHypothesis next).1⟩

/-- The pieces with an output between them, which may be missing. -/
def filled (output : Outcome Text) : (first : Text) → (later : List Text) → Outcome Text
  | first, [] => .ok first
  | first, next :: later => do
    let t ← output
    return first ++ (t ++ (← filled output next later))

/-- Filling the calls with a text always gives a text. -/
theorem filled_ok (t first : Text) (later : List Text) :
    ∃ text, filled (.ok t) first later = .ok text := by
  induction later generalizing first with
  | nil => exact ⟨first, rfl⟩
  | cons next later inductionHypothesis =>
    obtain ⟨rest, done⟩ := inductionHypothesis next
    exact ⟨first ++ (t ++ rest), by rw [filled, done]; rfl⟩

/-- What stands in front is written first. -/
theorem filled_append (output : Outcome Text) (t first : Text) (later : List Text) :
    filled output (t ++ first) later = (filled output first later).map (t ++ ·) := by
  cases later with
  | nil => rfl
  | cons next later =>
    rw [filled, filled]
    cases output with
    | error e => rfl
    | ok u =>
      rcases filled (.ok u) next later with e | rest
      · rfl
      · exact congrArg Except.ok (List.append_assoc ..)

section

variable {c : Context} {p : Progress}

/-- A passage is written as it stands, before what follows it. -/
theorem WritesAll.dataNodes {ns : List Node} {ts : Text} (t : Text) (later : WritesAll c p ns ts) :
    WritesAll c p (dataNodes t ++ ns) (t ++ ts) := by
  rw [Template.dataNodes]
  split
  · rename_i empty
    rw [List.isEmpty_iff.mp empty]
    exact later
  · exact .cons (.data t) later

/-- Every call writes what the default command renders to. -/
theorem writes_interleaved
    (function : Has c p (.name "defaultBuildCommand") (.builtin .defaultCommand))
    {first text : Text} {later : List Text} (done : filled (c.command p.objects) first later = .ok text) :
    WritesAll c p (interleavedNodes first later) text := by
  induction later generalizing first text with
  | nil =>
    cases done
    have only := WritesAll.dataNodes (c := c) (p := p) first .nil
    rwa [List.append_nil, List.append_nil] at only
  | cons next later inductionHypothesis =>
    obtain ⟨t, rendered, done⟩ := except_bind_ok.mp done
    obtain ⟨rest, others, done⟩ := except_bind_ok.mp done
    cases done
    have writes := WritesAll.cons (.print (function.command rendered)) (inductionHypothesis others)
    rw [Value.toText_text] at writes
    exact writes.dataNodes first

/-- The first call fails as the default command does. -/
theorem fails_interleaved {e : BuildError}
    (function : Has c p (.name "defaultBuildCommand") (.builtin .defaultCommand))
    (failed : c.command p.objects = .error e) (first next : Text) (later : List Text) :
    perform (Node.renderAll c (interleavedNodes first (next :: later))) p = (.error e, p) := by
  have called : perform (call.eval (p.scope c)) p.objects = (.error e, p.objects) := by
    rw [call, perform_command function, failed]
    rfl
  have evaluated := perform_eval_of_error called
  have printed : perform (Node.render c (.print call)) p = (.error e, p) := by
    rw [Node.render, perform_bind_error evaluated]
  have stops (ns : List Node) :
      perform (Node.renderAll c (.print call :: ns)) p = (.error e, p) := by
    rw [Node.renderAll, perform_bind_error printed]
  rw [interleavedNodes, dataNodes]
  split
  · exact stops _
  · have data : perform (Node.render c (.data first)) p = (.ok (some first), p) :=
      Writes.data first
    rw [List.singleton_append, Node.renderAll, perform_bind_ok data, perform_bind_error (stops _)]

end

/-- Text without opening marks is written as it is, up to its line ends. -/
theorem render_unmarked (c : Context) (o : Objects) {t : Text} (unmarked : Unmarked t) :
    render c o t = ⟨.ok t.unifyLineEnds, [], o⟩ := by
  have clean : Clean t [] := unmarked
  have compiled := compile_interleave clean c.tags
  have writes : WritesAll c
      ⟨[entered c [] (Symbols.ofTemplate (dataNodes t.unifyLineEnds)) []], [], o⟩ _ _ :=
    .dataNodes t.unifyLineEnds .nil
  rw [List.append_nil, List.append_nil] at writes
  exact render_of_writesAll compiled writes

/-- A template of text and calls is rendered to the text with what the default command renders to
in place of the calls. -/
theorem render_interleave {c : Context} {first : Text} {later : List Text}
    (clean : Clean first later)
    (given : c.find? "defaultBuildCommand" = some (.builtin .defaultCommand)) (o : Objects) :
    render c o (interleave Command.defaultCall first later) =
      ⟨filled (c.command o) first.unifyLineEnds (later.map Text.unifyLineEnds), [], o⟩ := by
  have compiled := compile_interleave clean c.tags
  cases later with
  | nil => exact render_unmarked c o clean
  | cons next later =>
    rw [List.map_cons] at compiled ⊢
    generalize first.unifyLineEnds = first' at compiled ⊢
    generalize next.unifyLineEnds = next' at compiled ⊢
    generalize later.map Text.unifyLineEnds = later' at compiled ⊢
    have reads : Symbols.ofTemplate (interleavedNodes first' (next' :: later')) = calling :=
      (visitAll_interleaved first' (next' :: later')).2 (List.cons_ne_nil _ _)
    have function : Has c ⟨[entered c [] calling []], [], o⟩ (.name "defaultBuildCommand")
        (.builtin .defaultCommand) := .parameter rfl given
    rcases rendered : c.command o with e | t
    · have failed := fails_interleaved function rendered first' next' later'
      have ran : perform (Compiled.run c ⟨interleavedNodes first' (next' :: later')⟩) ⟨[], [], o⟩ =
          (.error e, ⟨[entered c [] calling []], [], o⟩) := by
        rw [Compiled.run, within, perform_bind_ok (perform_modify ..), reads]
        exact perform_bind_error (perform_bind_error failed _) _
      rw [render_of_compiled compiled, ran]
      rfl
    · obtain ⟨text, done⟩ := filled_ok t first' (next' :: later')
      have writes := writes_interleaved function (rendered ▸ done)
      rw [← reads] at writes
      rw [render_of_writesAll compiled writes, done]

/-- Whatever the parameters and the custom tags are, a template in which no opening mark occurs is
written as it is, up to its line ends; it stays the same exactly if it has no carriage returns. -/
theorem render_plain (c : Context) (o : Objects) {t : Text}
    (plain : ∀ mark ∈ [Mark.valueOpen, Mark.blockOpen, Mark.commentOpen], ¬ mark <:+: t) :
    render c o t = ⟨.ok t.unifyLineEnds, [], o⟩ ∧
      ((render c o t).result = .ok t ↔ Code.char '\r' ∉ t) := by
  have rendered := render_unmarked c o (unmarked_iff.mpr plain)
  refine ⟨rendered, ?_⟩
  rw [rendered, Except.ok.injEq]
  exact Text.unifyLineEnds_eq_self_iff

namespace Small

/-- A context with one parameter. -/
def counting : Context := ⟨[], [("x", .int 1)], fun _ => .ok []⟩

end Small

/-- Closing marks and single braces are plain text. -/
theorem render_plain_braces :
    let t : Text := "\x7b x %\x7d 100 % \x7d\x7d #\x7d \x7b\n"
    render Small.counting ⟨0, []⟩ t = ⟨.ok t, [], ⟨0, []⟩⟩ := by
  intro t
  have plain : ∀ mark ∈ [Mark.valueOpen, Mark.blockOpen, Mark.commentOpen], ¬ mark <:+: t := by
    decide
  have ⟨rendered, _⟩ := render_plain Small.counting ⟨0, []⟩ plain
  rw [rendered, Text.unifyLineEnds_eq_self_iff.mpr (by decide)]

/-- A carriage return before a line feed is lost. -/
theorem render_plain_return :
    (∀ mark ∈ [Mark.valueOpen, Mark.blockOpen, Mark.commentOpen], ¬ mark <:+: ("a\r\nb" : Text)) ∧
      render Small.counting ⟨0, []⟩ "a\r\nb" = ⟨.ok "a\nb", [], ⟨0, []⟩⟩ ∧
      (render Small.counting ⟨0, []⟩ "a\r\nb").result ≠ .ok "a\r\nb" := by
  have plain : ∀ mark ∈ [Mark.valueOpen, Mark.blockOpen, Mark.commentOpen],
      ¬ mark <:+: ("a\r\nb" : Text) := by
    decide
  have unified : Text.unifyLineEnds "a\r\nb" = "a\nb" := by decide
  have rendered := render_unmarked Small.counting ⟨0, []⟩ (unmarked_iff.mpr plain)
  rw [unified] at rendered
  refine ⟨plain, rendered, ?_⟩
  rw [rendered]
  decide

end HaxeBuild.Template
