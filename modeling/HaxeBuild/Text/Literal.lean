import HaxeBuild.Text.Basic
import HaxeBuild.Text.Lines
import HaxeBuild.Text.Property
import HaxeBuild.Text.Utf8

namespace HaxeBuild

namespace Code

def isPrintable (c : Code) : Bool := Text.Property.holds Text.Property.printable c.val

/-- The shortest of the three numeric escapes that holds the code point. -/
def numericEscape (c : Code) : Text :=
  if c.val < 0x100 then "\\x" ++ Text.hex 2 c.val
  else if c.val < 0x10000 then "\\u" ++ Text.hex 4 c.val
  else "\\U" ++ Text.hex 8 c.val

/-- The code point inside a literal between `quote` marks. -/
def shown (quote : Char) (c : Code) : Text :=
  if c == .char quote || c == .char '\\' then [.char '\\', c]
  else if c == .char '\n' then "\\n"
  else if c == .char '\r' then "\\r"
  else if c == .char '\t' then "\\t"
  else if c.isPrintable then [c]
  else c.numericEscape

end Code

namespace Text

/-- Single quotes, unless the text holds a single quote and no double quote. -/
def quoteFor (t : Text) : Char :=
  if t.contains (.char '\'') && !t.contains (.char '"') then '"' else '\''

/-- The literal that denotes the text. -/
def shown (t : Text) : Text :=
  let quote := quoteFor t
  .char quote :: t.flatMap (Code.shown quote) ++ [.char quote]

/-- A printable ASCII octet stands for itself; the others are escaped. -/
def shownOctet (quote : Char) (octet : UInt8) : Text :=
  let c := Code.char (Char.ofNat octet.toNat)
  if c == .char quote || c == .char '\\' then [.char '\\', c]
  else if c == .char '\n' then "\\n"
  else if c == .char '\r' then "\\r"
  else if c == .char '\t' then "\\t"
  else if 32 ≤ c.val && c.val ≤ 126 then [c]
  else "\\x" ++ hex 2 c.val

/-- The literal that denotes the bytes. -/
def shownBytes (bytes : Bytes) : Text :=
  let quote := quoteFor (bytes.map fun octet => .char (Char.ofNat octet.toNat))
  [.char 'b', .char quote] ++ bytes.flatMap (shownOctet quote) ++ [.char quote]

/-- Why the escapes of a literal cannot be resolved. -/
inductive EscapeError where
  | truncated (form : Text)
  | outOfRange
  | malformedName
  | unknownName
  deriving DecidableEq

namespace EscapeError

def message : EscapeError → Text
  | truncated form => "truncated " ++ form ++ " escape"
  | outOfRange => "illegal Unicode character"
  | malformedName => "malformed \\N character escape"
  | unknownName => "unknown Unicode character name"

end EscapeError

def hexDigit? (c : Code) : Option Nat :=
  if c.isAsciiDigit then some (c.val - 48)
  else if 65 ≤ c.val && c.val ≤ 70 then some (c.val - 55)
  else if 97 ≤ c.val && c.val ≤ 102 then some (c.val - 87)
  else none

def octalDigit? (c : Code) : Option Nat :=
  if 48 ≤ c.val && c.val ≤ 55 then some (c.val - 48) else none

/-- What an escape that is being read still needs. -/
inductive Escape where
  | plain
  | backslash
  | hexadecimal (form : Text) (more value : Nat)
  | octal (more value : Nat)
  | nameOpen
  | name (length : Nat)

/-- The code point of a number, which an escape can put beyond the range. -/
def escapedCode (n : Nat) : Except EscapeError Code :=
  match Code.ofNat? n with
  | some c => .ok c
  | none => .error .outOfRange

/-- The text that a simple escape stands for; an unknown one keeps its backslash. -/
def simpleEscape (c : Code) : Text :=
  match c with
  | .char '\n' => []
  | .char 'a' => "\x07"
  | .char 'b' => "\x08"
  | .char 'f' => "\x0c"
  | .char 'n' => "\n"
  | .char 'r' => "\r"
  | .char 't' => "\t"
  | .char 'v' => "\x0b"
  | .char '\\' => "\\"
  | .char '\'' => "'"
  | .char '"' => "\""
  | c => [.char '\\', c]

/-- Resolves the escapes of the rest of a literal. -/
def unescapeFrom : Escape → Text → Except EscapeError Text
  | .plain, [] => .ok []
  | .plain, c :: rest =>
    if c == .char '\\' then unescapeFrom .backslash rest
    else do return c :: (← unescapeFrom .plain rest)
  | .backslash, [] => .ok "\\"
  | .backslash, c :: rest =>
    match c with
    | .char 'x' => unescapeFrom (.hexadecimal "\\xXX" 2 0) rest
    | .char 'u' => unescapeFrom (.hexadecimal "\\uXXXX" 4 0) rest
    | .char 'U' => unescapeFrom (.hexadecimal "\\UXXXXXXXX" 8 0) rest
    | .char 'N' => unescapeFrom .nameOpen rest
    | c =>
      match octalDigit? c with
      | some digit => unescapeFrom (.octal 2 digit) rest
      | none => do return simpleEscape c ++ (← unescapeFrom .plain rest)
  | .hexadecimal form _ _, [] => .error (.truncated form)
  | .hexadecimal form more value, c :: rest =>
    match hexDigit? c with
    | none => .error (.truncated form)
    | some digit =>
      if more ≤ 1 then do
        let code ← escapedCode (value * 16 + digit)
        return code :: (← unescapeFrom .plain rest)
      else unescapeFrom (.hexadecimal form (more - 1) (value * 16 + digit)) rest
  | .octal _ value, [] => do return [← escapedCode value]
  | .octal more value, c :: rest =>
    match octalDigit? c with
    | some digit =>
      if more ≤ 1 then do
        let code ← escapedCode (value * 8 + digit)
        return code :: (← unescapeFrom .plain rest)
      else unescapeFrom (.octal (more - 1) (value * 8 + digit)) rest
    | none => do
      let code ← escapedCode value
      if c == .char '\\' then return code :: (← unescapeFrom .backslash rest)
      else return code :: c :: (← unescapeFrom .plain rest)
  | .nameOpen, [] => .error .malformedName
  | .nameOpen, c :: rest =>
    if c == .char '{' then unescapeFrom (.name 0) rest else .error .malformedName
  | .name _, [] => .error .malformedName
  | .name length, c :: rest =>
    if c == .char '}' then .error (if length == 0 then .malformedName else .unknownName)
    else unescapeFrom (.name (length + 1)) rest

/-- Resolves the escapes of a literal's inside. Character names are not known. -/
def unescape (t : Text) : Except EscapeError Text := unescapeFrom .plain t

end Text

end HaxeBuild
