import HaxeBuild.Proofs.Build.Calls
import HaxeBuild.Proofs.Template.Expansion
import HaxeBuild.Proofs.Template.Parsing
import HaxeBuild.Proofs.Template.Rendering
import HaxeBuild.Proofs.Text.Splitting

namespace HaxeBuild

open Effect Template Template.Render

namespace Template

/-- A template without custom tags is compiled in the same way whichever custom tags there are. -/
theorem compile_of_tokens {template : Text} {t : Tokens} {nodes : List Node}
    (native : (Segment.cut template).all Expansion.isNative = true)
    (read : (expand [] template).toOption.map Lexer.tokens = some t)
    (parsed : Node.ofTokens t = .ok nodes) (checked : Node.checkAll false nodes = .ok ())
    (tags : List Tag) : compile tags template = .ok ⟨nodes⟩ := by
  rcases expanded : expand [] template with flaw | out
  · rw [expanded] at read
    cases read
  · rw [expanded] at read
    cases read
    have read : expand tags template = .ok out := (expand_of_isNative tags native).trans expanded
    refine except_bind_ok.mpr ⟨out, read, ?_⟩
    exact except_bind_ok.mpr ⟨nodes, parsed, except_bind_ok.mpr ⟨(), checked, rfl⟩⟩

end Template

namespace Command

/-- The tokens of the loop over the flags, between the marks of its first and its last tag. -/
def flagTokens : List Token := [
  ⟨12, .name "for"⟩, ⟨12, .name "flag"⟩, ⟨12, .name "in"⟩, ⟨12, .name "_iterate"⟩,
  ⟨12, .symbol .lparen⟩, ⟨12, .name "haxeExtraFlags"⟩, ⟨12, .symbol .comma⟩, ⟨12, .integer 12⟩,
  ⟨12, .symbol .rparen⟩, ⟨12, .blockEnd⟩,
  ⟨12, .data "\n    "⟩, ⟨13, .variableBegin⟩, ⟨13, .name "flag"⟩, ⟨13, .symbol .dot⟩,
  ⟨13, .name "name"⟩, ⟨13, .variableEnd⟩,
  ⟨13, .data "\n    "⟩, ⟨14, .variableBegin⟩, ⟨14, .name "flag"⟩, ⟨14, .symbol .dot⟩,
  ⟨14, .name "value"⟩, ⟨14, .variableEnd⟩, ⟨14, .data "\n"⟩,
  ⟨15, .blockBegin⟩, ⟨15, .name "endfor"⟩]

/-- The tokens of the loop over the defines, likewise. -/
def defineTokens : List Token := [
  ⟨16, .name "for"⟩, ⟨16, .name "define"⟩, ⟨16, .name "in"⟩, ⟨16, .name "_iterate"⟩,
  ⟨16, .symbol .lparen⟩, ⟨16, .name "haxeExtraDefines"⟩, ⟨16, .symbol .comma⟩, ⟨16, .integer 16⟩,
  ⟨16, .symbol .rparen⟩, ⟨16, .blockEnd⟩,
  ⟨16, .data "\n    -D\n    "⟩, ⟨18, .variableBegin⟩, ⟨18, .name "define"⟩, ⟨18, .variableEnd⟩,
  ⟨18, .data "\n"⟩, ⟨19, .blockBegin⟩, ⟨19, .name "endfor"⟩]

/-- The tokens of the default command. -/
def defaultTokens : List Token := [
  ⟨1, .data "\n"⟩,
  ⟨2, .variableBegin⟩, ⟨2, .name "toolchain"⟩, ⟨2, .variableEnd⟩, ⟨2, .data "\n-cp\n"⟩,
  ⟨4, .variableBegin⟩, ⟨4, .name "srcFolder"⟩, ⟨4, .variableEnd⟩, ⟨4, .data "\n-main\n"⟩,
  ⟨6, .variableBegin⟩, ⟨6, .name "entryPointFile"⟩, ⟨6, .variableEnd⟩, ⟨6, .data "\n"⟩,
  ⟨7, .blockBegin⟩, ⟨7, .name "if"⟩, ⟨7, .name "debug"⟩, ⟨7, .blockEnd⟩,
  ⟨7, .data "\n    -debug\n"⟩,
  ⟨9, .blockBegin⟩, ⟨9, .name "endif"⟩, ⟨9, .blockEnd⟩, ⟨9, .data "\n"⟩,
  ⟨10, .variableBegin⟩, ⟨10, .name "actualSubtarget"⟩, ⟨10, .symbol .dot⟩,
  ⟨10, .name "command_switch"⟩, ⟨10, .variableEnd⟩, ⟨10, .data "\n"⟩,
  ⟨11, .variableBegin⟩, ⟨11, .name "outputFile"⟩, ⟨11, .variableEnd⟩, ⟨11, .data "\n"⟩,
  ⟨12, .blockBegin⟩] ++ (flagTokens ++
  ⟨15, .blockEnd⟩ :: ⟨15, .data "\n"⟩ :: ⟨16, .blockBegin⟩ :: (defineTokens ++
  [⟨19, .blockEnd⟩, ⟨19, .data "\n"⟩]))

/-- The tokens of a call of the default command. -/
def callTokens : List Token := [
  ⟨1, .variableBegin⟩, ⟨1, .name "defaultBuildCommand"⟩, ⟨1, .symbol .lparen⟩,
  ⟨1, .symbol .rparen⟩, ⟨1, .variableEnd⟩]

/-- The default template has no tags that a custom tag could claim. -/
theorem isNative_defaultTemplate :
    (Segment.cut defaultTemplate).all Expansion.isNative = true := by
  decide +kernel

set_option maxRecDepth 2000 in
/-- The tokens are those of the default template. -/
theorem tokens_defaultTemplate :
    (expand [] defaultTemplate).toOption.map Lexer.tokens = some ⟨defaultTokens, none⟩ := by
  rfl

/-- Neither has the call of the default command. -/
theorem isNative_defaultCall : (Segment.cut defaultCall).all Expansion.isNative = true := by
  decide

/-- The tokens are those of the call. -/
theorem tokens_defaultCall :
    (expand [] defaultCall).toOption.map Lexer.tokens = some ⟨callTokens, none⟩ := by
  rfl

/-- The body of the loop over the flags. -/
def flagNodes : List Node := [
  .data "\n    ", .print (.member (.name "flag") "name"),
  .data "\n    ", .print (.member (.name "flag") "value"), .data "\n"]

/-- The body of the loop over the defines. -/
def defineNodes : List Node := [.data "\n    -D\n    ", .print (.name "define"), .data "\n"]

/-- The source of a loop on a line. -/
def source (n : Text) (line : Int) : Expr :=
  .call (.name "_iterate") (.mk [.name n, .const (.int line)] [] none none)

/-- The nodes of the default command. -/
def defaultNodes : List Node := [
  .data "\n", .print (.name "toolchain"),
  .data "\n-cp\n", .print (.name "srcFolder"),
  .data "\n-main\n", .print (.name "entryPointFile"),
  .data "\n", .branch (.name "debug") [.data "\n    -debug\n"] [] [],
  .data "\n", .print (.member (.name "actualSubtarget") "command_switch"),
  .data "\n", .print (.name "outputFile"),
  .data "\n", .loop (.name 12 "flag") (source "haxeExtraFlags" 12) none flagNodes [],
  .data "\n", .loop (.name 16 "define") (source "haxeExtraDefines" 16) none defineNodes [],
  .data "\n"]

/-- The call of the default command. -/
def callNodes : List Node := [.print (.call (.name "defaultBuildCommand") .none)]

variable {l : Node.Limits}

/-- The loop over the flags is read as its node. -/
theorem run_flagLoop (enough : 8 ≤ l.steps) (steps : Nat) (ts : List Token) :
    (Node.readStatement l (Node.readAll l (steps + 6))).run
        (Node.reading [] [] 12 (flagTokens ++ ⟨15, .blockEnd⟩ :: ts)) =
      .ok ([.loop (.name 12 "flag") (source "haxeExtraFlags" 12) none flagNodes []],
        Node.reading [] [] 15 (⟨15, .blockEnd⟩ :: ts)) := by
  obtain ⟨n, rfl⟩ : ∃ n, l = ⟨n + 8⟩ := ⟨l.steps - 8, by cases l; simp_all⟩
  refine Node.run_loop [⟨12, .name "flag"⟩] [⟨12, .name "_iterate"⟩, ⟨12, .symbol .lparen⟩,
    ⟨12, .name "haxeExtraFlags"⟩, ⟨12, .symbol .comma⟩, ⟨12, .integer 12⟩,
    ⟨12, .symbol .rparen⟩] rfl rfl (.data _ ?_)
  refine .print [⟨13, .name "flag"⟩, ⟨13, .symbol .dot⟩, ⟨13, .name "name"⟩] rfl (.data _ ?_)
  refine .print [⟨14, .name "flag"⟩, ⟨14, .symbol .dot⟩, ⟨14, .name "value"⟩] rfl (.data _ ?_)
  exact Node.reads_tag List.mem_cons_self

/-- The loop over the defines is read as its node. -/
theorem run_defineLoop (enough : 8 ≤ l.steps) (steps : Nat) (ts : List Token) :
    (Node.readStatement l (Node.readAll l (steps + 4))).run
        (Node.reading [] [] 16 (defineTokens ++ ⟨19, .blockEnd⟩ :: ts)) =
      .ok ([.loop (.name 16 "define") (source "haxeExtraDefines" 16) none defineNodes []],
        Node.reading [] [] 19 (⟨19, .blockEnd⟩ :: ts)) := by
  obtain ⟨n, rfl⟩ : ∃ n, l = ⟨n + 8⟩ := ⟨l.steps - 8, by cases l; simp_all⟩
  refine Node.run_loop [⟨16, .name "define"⟩] [⟨16, .name "_iterate"⟩, ⟨16, .symbol .lparen⟩,
    ⟨16, .name "haxeExtraDefines"⟩, ⟨16, .symbol .comma⟩, ⟨16, .integer 16⟩,
    ⟨16, .symbol .rparen⟩] rfl rfl (.data _ ?_)
  refine .print [⟨18, .name "define"⟩] rfl (.data _ ?_)
  exact Node.reads_tag List.mem_cons_self

/-- The tokens of the template are read as its nodes. -/
theorem parse_defaultTokens : Node.ofTokens ⟨defaultTokens, none⟩ = .ok defaultNodes := by
  suffices reads : Node.Reads ⟨82⟩ 82 none (Node.reading [] [] 1 defaultTokens) defaultNodes
      (Node.reading [] [] 19 []) from Node.ofTokens_of_reads rfl reads
  refine .data _ ?_
  refine .print [⟨2, .name "toolchain"⟩] rfl (.data _ ?_)
  refine .print [⟨4, .name "srcFolder"⟩] rfl (.data _ ?_)
  refine .print [⟨6, .name "entryPointFile"⟩] rfl (.data _ ?_)
  refine .statement [⟨7, .name "if"⟩, ⟨7, .name "debug"⟩, ⟨7, .blockEnd⟩,
    ⟨7, .data "\n    -debug\n"⟩, ⟨9, .blockBegin⟩, ⟨9, .name "endif"⟩] rfl (.data _ ?_)
  refine .print [⟨10, .name "actualSubtarget"⟩, ⟨10, .symbol .dot⟩,
    ⟨10, .name "command_switch"⟩] rfl (.data _ ?_)
  refine .print [⟨11, .name "outputFile"⟩] rfl (.data _ ?_)
  refine .statement flagTokens (run_flagLoop (by decide) _ _) (.data _ ?_)
  refine .statement defineTokens (run_defineLoop (by decide) _ _) (.data _ ?_)
  exact Node.reads_end 19

/-- The tokens of the call are read as its node. -/
theorem parse_callTokens : Node.ofTokens ⟨callTokens, none⟩ = .ok callNodes := by
  rfl

/-- The default template is compiled alike with any custom tags. -/
theorem compile_defaultTemplate (tags : List Tag) :
    compile tags defaultTemplate = .ok ⟨defaultNodes⟩ :=
  compile_of_tokens isNative_defaultTemplate tokens_defaultTemplate parse_defaultTokens rfl tags

/-- So is the call. -/
theorem compile_defaultCall (tags : List Tag) : compile tags defaultCall = .ok ⟨callNodes⟩ :=
  compile_of_tokens isNative_defaultCall tokens_defaultCall parse_callTokens rfl tags

/-- The names that the template reads outside of its loops. -/
def names : List Text := ["toolchain", "srcFolder", "entryPointFile", "debug", "actualSubtarget",
  "outputFile", "haxeExtraFlags", "haxeExtraDefines", "_iterate"]

/-- The names of the template are parameters. -/
theorem reads_parameter :
    ∀ n ∈ names, (Symbols.ofTemplate defaultNodes).names.lookup n = some .parameter := by
  decide

/-- The names of a loop in the template. -/
def inside (t : Target) (body : List Node) : Symbols :=
  Symbols.ofLoopBody ((Symbols.ofTemplate defaultNodes).names.map Prod.fst) t body

/-- The body of the first loop reads its flag. -/
theorem reads_flag : (inside (.name 12 "flag") flagNodes).names.lookup (Text.ofString "flag") ≠
    none := by
  decide

/-- The body of the second loop reads its define. -/
theorem reads_define : (inside (.name 16 "define") defineNodes).names.lookup
    (Text.ofString "define") ≠ none := by
  decide

/-- What an expression like `flag.name` writes. -/
def memberText (o : Objects) (v : Value) (name : Text) : Text :=
  (o.now ((o.now v).member name)).toText

/-- What the first loop writes for a flag. -/
def flagText (o : Objects) (v : Value) : Text :=
  ("\n    " : Text) ++ (memberText o v "name" ++ (("\n    " : Text) ++
    (memberText o v "value" ++ ("\n" : Text))))

/-- What the second loop writes for a define. -/
def defineText (o : Objects) (v : Value) : Text :=
  ("\n    -D\n    " : Text) ++ ((o.now v).toText ++ ("\n" : Text))

/-- What the default command writes, with the flags and the defines as they are in the two lists. -/
def defaultText (p : BuildPlan) (o : Objects) (flags defines : List Value) (i : ProgramInfo) :
    Text :=
  let debug : Text := if !p.settings.release then ("\n    -debug\n" : Text) else []
  "\n" ++ p.toolchain ++ "\n-cp\n" ++ p.srcFolder.toText ++ "\n-main\n" ++ i.entryPointFile ++
    "\n" ++ debug ++ "\n" ++ p.subtarget.commandSwitch ++ "\n" ++ p.outputFile.toText ++
    "\n" ++ flags.flatMap (flagText o) ++ "\n" ++ defines.flatMap (defineText o) ++ "\n"

section

variable {c : Context} {p : BuildPlan} {flags : List CompilerFlag} {i : ProgramInfo} {o : Objects}

/-- Where the default command starts. -/
def start (c : Context) (o : Objects) : Progress :=
  ⟨[entered c [] (Symbols.ofTemplate defaultNodes) []], [], o⟩

/-- Every name of the template has the value that its parameter has now. -/
theorem has_parameter (given : c.parameters = p.parameters flags ++ i.parameters) {n : Text}
    {v : Value} (among : n ∈ names)
    (found : ((p.parameters flags ++ i.parameters).lookup n).or (Context.globals.lookup n) =
      some v) :
    Has c (start c o) (.name n) (o.now v) := by
  refine .parameter (reads_parameter n among) ?_
  rw [Context.find?, given, found]

/-- A round of the first loop writes its flag. -/
theorem writes_flag (v : Value) (length : Nat) :
    WritesRound c (start c o) (.name 12 "flag") flagNodes length v (flagText o v) := by
  refine .of_body fun index => ?_
  have flag : Has c ((start c o).inRound c 12 "flag" flagNodes ⟨index, length⟩ (o.now v))
      (.name "flag") (o.now v) := by
    refine .inRound ?_
    rw [start, List.flatMap_singleton, map_fst_entered]
    exact reads_flag
  exact .cons (.data _) <| .cons (.print (flag.member "name")) <|
    .cons (.data _) <| .cons (.print (flag.member "value")) <| .cons (.data _) .nil

/-- A round of the second loop writes its define. -/
theorem writes_define (v : Value) (length : Nat) :
    WritesRound c (start c o) (.name 16 "define") defineNodes length v (defineText o v) := by
  refine .of_body fun index => ?_
  have define : Has c ((start c o).inRound c 16 "define" defineNodes ⟨index, length⟩ (o.now v))
      (.name "define") (o.now v) := by
    refine .inRound ?_
    rw [start, List.flatMap_singleton, map_fst_entered]
    exact reads_define
  exact .cons (.data _) <| .cons (.print define) <| .cons (.data _) .nil

end

end Command

/-- The flags that templates are given, as they are now. -/
def BuildPlan.flagsNow (flags : List CompilerFlag) (o : Objects) : List Value :=
  BuildList.extraFlags.now (flags.map .flag) o

/-- The defines that templates are given, as they are now. -/
def BuildPlan.definesNow (p : BuildPlan) (o : Objects) : List Value :=
  BuildList.extraDefines.now (p.settings.extraDefines.map .text) o

namespace Command

section

variable {c : Context} {p : BuildPlan} {flags : List CompilerFlag} {i : ProgramInfo}

/-- The default command in a build whose sources are generated. -/
theorem writes_defaultNodes (given : c.parameters = p.parameters flags ++ i.parameters)
    (o : Objects) :
    WritesAll c (start c o) defaultNodes
      (defaultText p o (BuildPlan.flagsNow flags o) (p.definesNow o) i) := by
  have value {n : Text} (v : Value) (among : n ∈ names) := has_parameter (v := v) (o := o) given among
  have toolchain := value (n := "toolchain") (.text p.toolchain) (by simp [names]) rfl
  have srcFolder := value (n := "srcFolder") (.text p.srcFolder.toText) (by simp [names]) rfl
  have entryPointFile :=
    value (n := "entryPointFile") (.text i.entryPointFile) (by simp [names]) rfl
  have debug := value (n := "debug") (.bool !p.settings.release) (by simp [names]) rfl
  have subtarget := value (n := "actualSubtarget") (.subtarget p.subtarget) (by simp [names]) rfl
  have outputFile := value (n := "outputFile") (.text p.outputFile.toText) (by simp [names]) rfl
  have iterate := value (n := "_iterate") (.builtin .iterate) (by simp [names]) rfl
  have extraFlags := value (n := "haxeExtraFlags") (BuildList.extraFlags.value (flags.map .flag))
    (by simp [names]) rfl
  have extraDefines := value (n := "haxeExtraDefines")
    (BuildList.extraDefines.value (p.settings.extraDefines.map .text)) (by simp [names]) rfl
  simp only [Objects.now_text, Objects.now_bool, Objects.now_subtarget, Objects.now_builtin]
    at toolchain srcFolder entryPointFile debug subtarget outputFile iterate
  rw [Objects.now_value] at extraFlags extraDefines
  have switch : Has c (start c o) (.member (.name "actualSubtarget") "command_switch")
      (.text p.subtarget.commandSwitch) := subtarget.member "command_switch"
  have members (items : List Value) : some items = some (items.map id) := by rw [List.map_id]
  have writes : WritesAll c (start c o) defaultNodes _ :=
    .cons (.data _) <| .cons (.print toolchain) <|
    .cons (.data _) <| .cons (.print srcFolder) <|
    .cons (.data _) <| .cons (.print entryPointFile) <|
    .cons (.data _) <| .cons (.branch debug (.cons (.data _) .nil)) <|
    .cons (.data _) <| .cons (.print switch) <|
    .cons (.data _) <| .cons (.print outputFile) <|
    .cons (.data _) <|
      .cons (.loop (iterate.iterate extraFlags) (members _) fun v _ => writes_flag v _) <|
    .cons (.data _) <|
      .cons (.loop (iterate.iterate extraDefines) (members _) fun v _ => writes_define v _) <|
    .cons (.data _) .nil
  simpa only [defaultText, BuildPlan.flagsNow, BuildPlan.definesNow, Value.toText_text, Value.truthy,
    List.append_nil, List.append_assoc] using writes

/-- The default template is rendered with what the lists hold now, and changes nothing. -/
theorem render_defaultTemplate (given : c.parameters = p.parameters flags ++ i.parameters)
    (o : Objects) :
    render c o defaultTemplate =
      ⟨.ok (defaultText p o (BuildPlan.flagsNow flags o) (p.definesNow o) i), [], o⟩ :=
  render_of_writesAll (compile_defaultTemplate c.tags) (writes_defaultNodes given o)

end

/-- The arguments of the default command: the compiler with its options, and then what the lists of
flags and defines hold. -/
def listedArguments (p : BuildPlan) (o : Objects) (flags defines : List Value) (i : ProgramInfo) :
    List Text :=
  let option (name : Text) (values : List Text) : List Text := name :: values
  split p.toolchain ++ option "-cp" (split p.srcFolder.toText) ++
    option "-main" (split i.entryPointFile) ++
    (if p.settings.release then [] else option "-debug" []) ++ split p.subtarget.commandSwitch ++
    split p.outputFile.toText ++
    flags.flatMap (fun v => split (memberText o v "name") ++ split (memberText o v "value")) ++
    defines.flatMap fun v => option "-D" (split (o.now v).toText)

/-- The default command is never empty. -/
theorem listedArguments_ne_nil (p : BuildPlan) (o : Objects) (flags defines : List Value)
    (i : ProgramInfo) : listedArguments p o flags defines i ≠ [] := by
  simp [listedArguments]

/-- The arguments that the default command is meant to have: the compiler with its options, one for
every required library and every define. -/
def defaultArguments (p : BuildPlan) (required : List LibraryReference) (i : ProgramInfo) :
    List Text :=
  let option (name : Text) (values : List Text) : List Text := name :: values
  split p.toolchain ++ option "-cp" (split p.srcFolder.toText) ++
    option "-main" (split i.entryPointFile) ++
    (if p.settings.release then [] else option "-debug" []) ++ split p.subtarget.commandSwitch ++
    split p.outputFile.toText ++ required.flatMap (fun l => option "-lib" (split l.haxeSpec)) ++
    p.settings.extraDefines.flatMap fun d => option "-D" [d]

theorem newline_eq : ("\n" : Text) = [.char '\n'] := rfl

theorem indented_eq : ("\n    " : Text) = .char '\n' :: List.replicate 4 (.char ' ') := rfl

/-- The lines of a flag, with their blanks apart. -/
theorem flagText_eq (o : Objects) (v : Value) :
    flagText o v =
      ("\n    " : Text) ++ (memberText o v "name" ++ (("\n    " : Text) ++ memberText o v "value")) ++
        [.char '\n'] := by
  simp only [flagText, newline_eq, List.append_assoc]

/-- The lines of a define, with their blanks apart. -/
theorem defineText_eq (o : Objects) (v : Value) :
    defineText o v = ("\n    -D\n    " : Text) ++ (o.now v).toText ++ [.char '\n'] := by
  simp only [defineText, newline_eq, List.append_assoc]

/-- A flag has the arguments of its name and of its value. -/
theorem split_flagText (o : Objects) (v : Value) :
    split (flagText o v) = split (memberText o v "name") ++ split (memberText o v "value") := by
  simp only [flagText, newline_eq, indented_eq, List.cons_append, split_newline, split_spaces,
    split_append_newline, split_nil, List.append_nil]

/-- A define has its sign and its own arguments. -/
theorem split_defineText (o : Objects) (v : Value) :
    split (defineText o v) = split "-D" ++ split (o.now v).toText := by
  have option : ("\n    -D\n    " : Text) =
      ("\n    " : Text) ++ (("-D" : Text) ++ ("\n    " : Text)) := rfl
  simp only [defineText, option, newline_eq, indented_eq, List.cons_append, List.append_assoc,
    split_newline, split_spaces, split_append_newline, split_nil, List.append_nil]

/-- Every option that the template writes is one argument. -/
theorem split_option : ∀ option ∈ (["-cp", "-main", "-lib", "-D", "-debug"] : List Text),
    split option = [option] := by
  decide

/-- Every define of the settings is one argument. -/
theorem split_extraDefine {s : Settings} {d : Text} (among : d ∈ s.extraDefines) :
    split d = [d] := by
  have all : ∀ d ∈ (["analyzer", "no-analyzer", "embed_resources"] : List Text),
      split d = [d] := by decide
  have known : s.extraDefines ⊆ ["analyzer", "no-analyzer", "embed_resources"] := by
    rw [Settings.extraDefines]
    cases s.analyzerEnabled <;> cases s.embedResources <;> decide
  exact all d (known among)

/-- The default command has the arguments in this order, whatever the values are. -/
theorem split_defaultText (p : BuildPlan) (o : Objects) (flags defines : List Value)
    (i : ProgramInfo) :
    split (defaultText p o flags defines i) = listedArguments p o flags defines i := by
  have classPath : ("\n-cp\n" : Text) = .char '\n' :: (("-cp" : Text) ++ [.char '\n']) := rfl
  have main : ("\n-main\n" : Text) = .char '\n' :: (("-main" : Text) ++ [.char '\n']) := rfl
  have debug : split "\n    -debug\n" = split "-debug" := by decide
  have allFlags : split (flags.flatMap (flagText o)) =
      flags.flatMap fun v => split (memberText o v "name") ++ split (memberText o v "value") := by
    rw [split_flatMap _ fun v _ => ⟨_, flagText_eq o v⟩]
    simp only [split_flagText]
  have allDefines : split (defines.flatMap (defineText o)) =
      defines.flatMap fun v => split "-D" ++ split (o.now v).toText := by
    rw [split_flatMap _ fun v _ => ⟨_, defineText_eq o v⟩]
    simp only [split_defineText]
  simp only [defaultText, newline_eq, classPath, main, List.cons_append, List.nil_append,
    List.append_assoc, split_newline, split_append_newline, split_nil, allFlags, allDefines]
  rw [split_option "-cp" (by simp), split_option "-main" (by simp), split_option "-D" (by simp),
    listedArguments]
  cases p.settings.release with
  | true => simp
  | false => simp [debug, split_option]

/-- The lists are as they were made for the libraries. -/
theorem listedArguments_eq (p : BuildPlan) (o : Objects) (required : List LibraryReference)
    (i : ProgramInfo) :
    listedArguments p o ((LibraryManager.flags required).map .flag)
      (p.settings.extraDefines.map .text) i = defaultArguments p required i := by
  have flags : ((LibraryManager.flags required).map Value.flag).flatMap
      (fun v => split (memberText o v "name") ++ split (memberText o v "value")) =
        required.flatMap fun l => ("-lib" : Text) :: split l.haxeSpec := by
    rw [LibraryManager.flags, List.map_map, List.flatMap_map]
    refine List.flatMap_congr fun l _ => ?_
    change split "-lib" ++ split l.haxeSpec = _
    rw [split_option "-lib" (by simp)]
    rfl
  have defines : (p.settings.extraDefines.map Value.text).flatMap
      (fun v => ("-D" : Text) :: split (o.now v).toText) =
        p.settings.extraDefines.flatMap fun d => [("-D" : Text), d] := by
    rw [List.flatMap_map]
    refine List.flatMap_congr fun d among => ?_
    rw [Objects.now_text, Value.toText_text, split_extraDefine among]
  simp only [listedArguments, defaultArguments, flags, defines]

/-- The call reads a parameter. -/
theorem reads_call : (Symbols.ofTemplate callNodes).names.lookup
    (Text.ofString "defaultBuildCommand") = some .parameter := by
  decide

/-- The call is rendered to what the default command is rendered to. -/
theorem render_defaultCall {c : Context} {t : Text} {o : Objects}
    (given : c.find? "defaultBuildCommand" = some (.builtin .defaultCommand))
    (rendered : c.command o = .ok t) : render c o defaultCall = ⟨.ok t, [], o⟩ := by
  have function : Has c ⟨[entered c [] (Symbols.ofTemplate callNodes) []], [], o⟩
      (.name "defaultBuildCommand") (.builtin .defaultCommand) := .parameter reads_call given
  have writes := WritesAll.cons (.print (function.command rendered)) .nil
  rw [Value.toText_text, List.append_nil] at writes
  exact render_of_writesAll (compile_defaultCall c.tags) writes

end Command

namespace Session

/-- The command line of a program without one of its own, in a build whose sources are generated. -/
theorem render_defaultCall {s : Session} {flags : List CompilerFlag} {i : ProgramInfo}
    (parameters : s.parameters = s.plan.parameters flags ++ i.parameters) (o : Objects) :
    s.render o Command.defaultCall =
      ⟨.ok (Command.defaultText s.plan o (BuildPlan.flagsNow flags o) (s.plan.definesNow o) i), [],
        o⟩ := by
  refine Command.render_defaultCall ?_ ?_
  · rw [Context.find?, parameters]
    rfl
  · have rendered := Command.render_defaultTemplate
      (c := ⟨s.tags, s.parameters, fun _ => Outcome.fail .wrongType⟩) parameters o
    dsimp only
    rw [defaultCommand, rendered]

end Session

end HaxeBuild
