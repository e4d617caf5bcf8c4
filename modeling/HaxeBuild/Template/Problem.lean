import HaxeBuild.Text.Literal

namespace HaxeBuild.Template

/-- Why a template is malformed. -/
inductive Problem where
  | strayEnd (tag : Text)
  | notIterable (typeName : Text)
  | unexpectedChar (c : Code) (offset : Nat)
  | unopened (close : Text)
  | mismatched (close wanted : Text)
  | openComment
  | openRaw
  | badIdentifier
  | badEscape (why : Text.EscapeError)
  | endedBefore (wanted : Text)
  | wrongToken (wanted found : Text)
  | unexpected (found : Text)
  | noExpression (found : Text)
  | nameOrNumber
  | tagName
  | unknownTag (tag : Text)
  | endOfTemplate
  | lookingFor (problem : Problem) (wanted : List Text)
  | misnested (problem : Problem) (wanted : List Text)
  | insideOf (problem : Problem) (block : Text)
  | badCall
  | chainedTests
  | cannotAssign (kind : Text)
  | assignsLoop
  | unknownFilter (name : Text)
  | unknownTest (name : Text)
  deriving DecidableEq

namespace Problem

/-- The texts that would do, each in quotes. -/
def alternatives (wanted : List Text) : Text := Text.join " or " (wanted.map Text.shown)

def message : Problem → Text
  | strayEnd tag => "Unexpected '" ++ tag ++ "'"
  | notIterable typeName => "Cannot loop over " ++ typeName ++ " value"
  | unexpectedChar c offset => "unexpected char " ++ Text.shown [c] ++ " at " ++ Text.ofNat offset
  | unopened close => "unexpected '" ++ close ++ "'"
  | mismatched close wanted => "unexpected '" ++ close ++ "', expected '" ++ wanted ++ "'"
  | openComment => "Missing end of comment tag"
  | openRaw => "Missing end of raw directive"
  | badIdentifier => "Invalid character in identifier"
  | badEscape why => why.message
  | endedBefore wanted => "unexpected end of template, expected " ++ Text.shown wanted ++ "."
  | wrongToken wanted found =>
    "expected token " ++ Text.shown wanted ++ ", got " ++ Text.shown found
  | unexpected found => "unexpected " ++ Text.shown found
  | noExpression found => "Expected an expression, got " ++ Text.shown found
  | nameOrNumber => "expected name or number"
  | tagName => "tag name expected"
  | unknownTag tag => "Encountered unknown tag " ++ Text.shown tag ++ "."
  | endOfTemplate => "Unexpected end of template."
  | lookingFor problem wanted =>
    problem.message ++ " Jinja was looking for the following tags: " ++ alternatives wanted ++ "."
  | misnested problem wanted =>
    problem.message ++
      " You probably made a nesting mistake. Jinja is expecting this tag, " ++
      "but currently looking for " ++ alternatives wanted ++ "."
  | insideOf problem block =>
    problem.message ++ " The innermost block that needs to be closed is " ++ Text.shown block ++ "."
  | badCall => "invalid syntax for function call expression"
  | chainedTests => "You cannot chain multiple tests with is"
  | cannotAssign kind => "can't assign to " ++ Text.shown kind
  | assignsLoop => "Can't assign to special loop variable in for-loop target"
  | unknownFilter name => "No filter named " ++ Text.shown name ++ "."
  | unknownTest name => "No test named " ++ Text.shown name ++ "."

end Problem

/-- A problem and the line it is on. -/
structure SyntaxFlaw where
  problem : Problem
  line : Nat
  deriving DecidableEq

end HaxeBuild.Template
