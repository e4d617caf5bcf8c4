import HaxeBuild.Text.Basic

namespace HaxeBuild.Script

/-- A piece of a word: text, or the value of a parameter. -/
inductive Piece where
  | literal (t : Text)
  | parameter (name : Text) (quoted : Bool)

abbrev Word := List Piece

/-- What becomes of a descriptor: it reads a file, replaces it, extends it, or follows another
descriptor. -/
inductive Redirect where
  | read
  | replace
  | extend
  | follow

/-- Whether a command is run can depend on the one before it. -/
inductive Condition where
  | always
  | success
  | failure
  deriving DecidableEq

inductive Token where
  | word (w : Word)
  | redirect (descriptor : Nat) (mode : Redirect)
  | separator (c : Condition)
  | newline

structure Command where
  line : Nat
  condition : Condition
  words : List Word
  redirections : List (Nat × Redirect × Word)

def isSpace (c : Code) : Bool := c == .char ' ' || c == .char '\t'

def operators : Text := "\n;&|<>()"

/-- Ends a word that is not quoted. -/
def isDelimiter (c : Code) : Bool := isSpace c || operators.contains c

def isNamePart (c : Code) : Bool := c.isAsciiLetter || c.isAsciiDigit || c == .char '_'

def isName (t : Text) : Bool :=
  match t with
  | [] => false
  | c :: rest => !c.isAsciiDigit && (c :: rest).all isNamePart

/-- The parameters that are named by one sign. -/
def specialNames : Text := "@*#?$!-0123456789"

/-- The name after a dollar sign; without one the sign stands for itself. -/
def parameterName? (t : Text) : Option (Text × Text) :=
  match t with
  | [] => none
  | .char '\x7b' :: rest => Text.cut? "\x7d" rest
  | c :: rest =>
    if specialNames.contains c then some ([c], rest)
    else if isNamePart c then
      some ((c :: rest).takeWhile isNamePart, (c :: rest).dropWhile isNamePart)
    else none

/-- What a backslash can protect between double quotes. -/
def protectable : Text := "$`\"\\\n"

/-- Reads at most `fuel` pieces of a word, and what follows it; `none` if a quote is not closed. -/
def readWord : (fuel : Nat) → (quoted : Bool) → Text → Option (Word × Text)
  | 0, _, _ => none
  | _ + 1, quoted, [] => if quoted then none else some ([], [])
  | fuel + 1, quoted, c :: rest =>
    let more (piece : Piece) (quoted : Bool) (rest : Text) : Option (Word × Text) :=
      (readWord fuel quoted rest).map fun (w, rest) => (piece :: w, rest)
    if c == .char '"' then more (.literal []) (!quoted) rest
    else if c == .char '$' then
      match parameterName? rest with
      | some (name, rest) => more (.parameter name quoted) quoted rest
      | none => more (.literal [c]) quoted rest
    else if c == .char '\\' then
      match rest with
      | [] => more (.literal [c]) quoted []
      | next :: rest =>
        if quoted && !protectable.contains next then more (.literal [c, next]) quoted rest
        else more (.literal (if next == .char '\n' then [] else [next])) quoted rest
    else if quoted then more (.literal [c]) quoted rest
    else if c == .char '\'' then
      match Text.cut? "'" rest with
      | some (inside, rest) => more (.literal inside) quoted rest
      | none => none
    else if isDelimiter c then some ([], c :: rest)
    else more (.literal [c]) quoted rest

/-- A redirection, which may begin with the number of its descriptor. -/
def redirect? (t : Text) : Option (Token × Text) :=
  let digits := t.takeWhile Code.isAsciiDigit
  let number (default : Nat) : Nat :=
    if digits.isEmpty then default else digits.foldl (fun n c => n * 10 + (c.val - 48)) 0
  match t.dropWhile Code.isAsciiDigit with
  | .char '>' :: .char '>' :: rest => some (.redirect (number 1) .extend, rest)
  | .char '>' :: .char '&' :: rest => some (.redirect (number 1) .follow, rest)
  | .char '>' :: rest => some (.redirect (number 1) .replace, rest)
  | .char '<' :: rest => some (.redirect (number 0) .read, rest)
  | _ => none

/-- Reads at most `fuel` tokens. Pipes, groups and background jobs are not read. -/
def tokens : (fuel : Nat) → Text → Option (List Token)
  | 0, _ => none
  | _ + 1, [] => some []
  | fuel + 1, c :: rest =>
    if isSpace c then tokens fuel rest
    else if c == .char '#' then tokens fuel (rest.dropWhile (· != .char '\n'))
    else if c == .char '\n' then (tokens fuel rest).map (.newline :: ·)
    else if c == .char ';' then (tokens fuel rest).map (.separator .always :: ·)
    else match redirect? (c :: rest), c, rest with
      | some (token, rest), _, _ => (tokens fuel rest).map (token :: ·)
      | none, .char '&', .char '&' :: rest => (tokens fuel rest).map (.separator .success :: ·)
      | none, .char '|', .char '|' :: rest => (tokens fuel rest).map (.separator .failure :: ·)
      | none, _, _ =>
        if isDelimiter c then none
        else (readWord (rest.length + 2) false (c :: rest)).bind fun (w, rest) =>
          (tokens fuel rest).map (.word w :: ·)

namespace Command

def isEmpty (c : Command) : Bool := c.words.isEmpty && c.redirections.isEmpty

end Command

/-- Groups tokens into commands, of which `current` is the one being read. -/
def group (current : Command) : List Token → Option (List Command)
  | [] => some (if current.isEmpty then [] else [current])
  | .newline :: rest =>
    if current.isEmpty then group { current with line := current.line + 1 } rest
    else (group ⟨current.line + 1, .always, [], []⟩ rest).map (current :: ·)
  | .separator c :: rest =>
    if current.isEmpty then none
    else (group ⟨current.line, c, [], []⟩ rest).map (current :: ·)
  | .word w :: rest => group { current with words := current.words ++ [w] } rest
  | .redirect descriptor mode :: .word w :: rest =>
    group { current with redirections := current.redirections ++ [(descriptor, mode, w)] } rest
  | .redirect .. :: _ => none

/-- The commands of a script; `none` if it cannot be read. -/
def read (t : Text) : Option (List Command) :=
  (tokens (t.length + 1) t).bind (group ⟨1, .always, [], []⟩)

end HaxeBuild.Script
