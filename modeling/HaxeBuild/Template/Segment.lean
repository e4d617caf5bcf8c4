import HaxeBuild.Template.Mark
import HaxeBuild.Template.Tag
import HaxeBuild.Text.Lines
import HaxeBuild.Text.Quoted

namespace HaxeBuild.Template

/-- A stretch of text, or what stands between the marks of a block tag. -/
inductive Segment where
  | plain (t : Text)
  | tag (inner : Text)
  deriving DecidableEq

namespace Segment

def text : Segment → Text
  | plain t => t
  | tag inner => Mark.block inner

def join (segments : List Segment) : Text := segments.flatMap text

/-- Puts a code point before the segments. -/
def prepend (c : Code) : List Segment → List Segment
  | plain t :: rest => plain (c :: t) :: rest
  | segments => plain [c] :: segments

/-- Cuts the rest of a template. Inside a tag, `passed` holds what was read since its opening mark,
backwards; a tag that is never closed is plain text. -/
def cutFrom : (passed : Option Text) → Text → List Segment
  | none, [] => []
  | some passed, [] => [plain (Mark.blockOpen ++ passed.reverse)]
  | none, .char '{' :: .char '%' :: rest => cutFrom (some []) rest
  | some passed, .char '%' :: .char '}' :: rest => tag passed.reverse :: cutFrom none rest
  | none, c :: rest => prepend c (cutFrom none rest)
  | some passed, c :: rest => cutFrom (some (c :: passed)) rest

def cut (template : Text) : List Segment := cutFrom none template

@[simp] theorem join_nil : join [] = [] := rfl

@[simp] theorem join_cons (s : Segment) (rest : List Segment) :
    join (s :: rest) = s.text ++ join rest := rfl

@[simp] theorem join_prepend (c : Code) (segments : List Segment) :
    join (prepend c segments) = c :: join segments := by
  match segments with
  | [] => rfl
  | plain _ :: _ => rfl
  | tag _ :: _ => rfl

/-- What the text was before it was cut, counting the mark of an open tag. -/
theorem join_cutFrom (passed : Option Text) (t : Text) :
    join (cutFrom passed t) =
      (match passed with
        | none => t
        | some inner => Mark.blockOpen ++ inner.reverse ++ t) := by
  fun_induction cutFrom passed t <;>
    simp_all [text, Mark.block, Mark.blockOpen, Mark.blockClose, Text.ofString]

/-- Cutting loses nothing. -/
@[simp] theorem join_cut (template : Text) : join (cut template) = template :=
  join_cutFrom none template

end Segment

/-- The blocks that a bare `end` can close. -/
inductive Block where
  | branch
  | loop
  deriving DecidableEq

namespace Block

def keyword : Block → Text
  | branch => "if"
  | loop => "for"

def closer (b : Block) : Text := "end" ++ b.keyword

end Block

namespace Expansion

/-- What follows the word `in` between blanks. -/
def afterIn? (t : Text) : Option Text :=
  match t with
  | [] => none
  | c :: _ =>
    if c.isBlank then
      match Text.after? "in" (Text.trimStart t) with
      | some (d :: rest) =>
        match d.isBlank, Text.trimStart rest with
        | true, e :: more => some (e :: more)
        | _, _ => none
      | _ => none
    else none

/-- Splits at the first `in` that leaves something before it. -/
def splitIn? : (target rest : Text) → Option (Text × Text)
  | target, rest =>
    match rest with
    | [] => none
    | c :: cs =>
      match (if target.isEmpty then none else afterIn? (c :: cs)) with
      | some source => some (target.reverse, source)
      | none => splitIn? (c :: target) cs

/-- The target and the source of a loop tag. The target may begin with some of the blanks after
the keyword if the tag cannot be read otherwise. -/
def loopParts? (content : Text) : Option (Text × Text) :=
  match Text.after? "for" content with
  | none => none
  | some rest =>
    let blanks := (rest.takeWhile Code.isBlank).length
    (List.range blanks).reverse.findSome? fun skipped => splitIn? [] (rest.drop (skipped + 1))

def newlines (n : Nat) : Text := List.replicate n (.char '\n')

/-- The first tag that owns the content, with its position. -/
def owner? (tags : List Tag) (content : Text) : Option (Nat × Text × Text) :=
  go 0 tags
where
  go (index : Nat) : List Tag → Option (Nat × Text × Text)
    | [] => none
    | tag :: rest =>
      match tag.accepts? content with
      | some (name, payload) => some (index, name, payload)
      | none => go (index + 1) rest

/-- The words of the template language itself, which no custom tag can take. -/
def keywords : List Text := ["if", "elif", "else", "endif", "for", "endfor", "end"]

/-- A loop tag with its source wrapped; the line is kept for messages. -/
def loopTag (target source : Text) (line lines : Nat) : Text :=
  " for " ++ target ++ " in _iterate(" ++ source ++ ", " ++ Text.ofNat line ++ ")" ++
    newlines lines ++ " "

def customTag (index : Nat) (name payload : Text) (lines : Nat) : Text :=
  " customtag " ++ Text.ofNat index ++ ", " ++ name.quoted ++ ", " ++ payload.quoted ++
    newlines lines ++ " "

def closingTag (b : Block) (lines : Nat) : Text := " " ++ b.closer ++ newlines lines ++ " "

/-- Expands a tag on its line and tells which blocks are open after it. -/
def tag (tags : List Tag) (opened : List Block) (line : Nat) (inner : Text) :
    Except SyntaxFlaw (Text × List Block) :=
  let content := inner.trim
  let keyword := (content.firstWord?.map Prod.fst).getD []
  let lines := inner.countNewlines
  if keyword == Block.branch.keyword then .ok (inner, .branch :: opened)
  else if keyword == Block.loop.keyword then
    match loopParts? content with
    | some (target, source) => .ok (loopTag target source line lines, .loop :: opened)
    | none => .ok (inner, .loop :: opened)
  else if keyword == Block.branch.closer || keyword == Block.loop.closer then
    .ok (inner, opened.drop 1)
  else if keyword == "end" then
    match opened with
    | block :: outer =>
      if content == "end" then .ok (closingTag block lines, outer)
      else .error ⟨.strayEnd content, line⟩
    | [] => .error ⟨.strayEnd content, line⟩
  else if keywords.contains keyword then .ok (inner, opened)
  else
    match owner? tags content with
    | some (index, name, payload) => .ok (customTag index name payload lines, opened)
    | none => .ok (inner, opened)

/-- Expands the tags one for one. -/
def segments (tags : List Tag) : (opened : List Block) → (line : Nat) → List Segment →
    Except SyntaxFlaw (List Segment)
  | _, _, [] => .ok []
  | opened, line, .plain t :: rest => do
    return .plain t :: (← segments tags opened (line + t.countNewlines) rest)
  | opened, line, .tag inner :: rest => do
    let (inner', opened) ← tag tags opened line inner
    return .tag inner' :: (← segments tags opened (line + inner.countNewlines) rest)

end Expansion

/-- The template with its tags expanded, in which form it is read further. -/
def expand (tags : List Tag) (template : Text) : Except SyntaxFlaw Text := do
  return Segment.join (← Expansion.segments tags [] 1 (Segment.cut template))

end HaxeBuild.Template
