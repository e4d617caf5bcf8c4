import HaxeBuild.Template.Problem

namespace HaxeBuild.Template

/-- Operators and punctuation. -/
inductive Symbol where
  | add | sub | div | floorDiv | mul | mod | pow | tilde
  | lbracket | rbracket | lparen | rparen | lbrace | rbrace
  | eq | ne | gt | ge | lt | le | assign
  | dot | colon | pipe | comma | semicolon
  deriving DecidableEq

namespace Symbol

def text : Symbol → Text
  | add => "+" | sub => "-" | div => "/" | floorDiv => "//" | mul => "*" | mod => "%" | pow => "**"
  | tilde => "~" | lbracket => "[" | rbracket => "]" | lparen => "(" | rparen => ")"
  | lbrace => "\x7b" | rbrace => "\x7d" | eq => "==" | ne => "!=" | gt => ">" | ge => ">="
  | lt => "<" | le => "<=" | assign => "=" | dot => "." | colon => ":" | pipe => "|" | comma => ","
  | semicolon => ";"

/-- Longer symbols come before their beginnings. -/
def all : List Symbol := [floorDiv, pow, eq, ne, ge, le, add, sub, div, mul, mod, tilde, lbracket,
  rbracket, lparen, rparen, lbrace, rbrace, gt, lt, assign, dot, colon, pipe, comma, semicolon]

/-- The longest symbol that the text begins with. -/
def ofText? (t : Text) : Option Symbol := all.find? fun s => t.startsWith s.text

/-- The symbol that closes a bracket. -/
def closer? : Symbol → Option Symbol
  | lparen => some rparen
  | lbracket => some rbracket
  | lbrace => some rbrace
  | _ => none

def isCloser (s : Symbol) : Bool := s == rparen || s == rbracket || s == rbrace

end Symbol

inductive Lexeme where
  | data (t : Text)
  | variableBegin
  | variableEnd
  | blockBegin
  | blockEnd
  | name (t : Text)
  | string (t : Text)
  | integer (n : Nat)
  | float (x : Float)
  | symbol (s : Symbol)
  | templateEnd

namespace Lexeme

/-- How messages speak of the token. -/
def describe : Lexeme → Text
  | data _ => "template data / text"
  | variableBegin => "begin of print statement"
  | variableEnd => "end of print statement"
  | blockBegin => "begin of statement block"
  | blockEnd => "end of statement block"
  | name t => t
  | string _ => "string"
  | integer _ => "integer"
  | float _ => "float"
  | symbol s => s.text
  | templateEnd => "end of template"

def isName (word : Text) : Lexeme → Bool
  | name t => t == word
  | _ => false

def isSymbol (s : Symbol) : Lexeme → Bool
  | symbol s' => s' == s
  | _ => false

end Lexeme

structure Token where
  line : Nat
  lexeme : Lexeme

/-- The tokens up to the first flaw. A flaw counts only when a reader gets there. -/
structure Tokens where
  tokens : List Token
  flaw : Option SyntaxFlaw

namespace Tokens

def prepend (token : Token) (rest : Tokens) : Tokens := ⟨token :: rest.tokens, rest.flaw⟩

end Tokens

end HaxeBuild.Template
