import HaxeBuild.Text.Basic

namespace HaxeBuild.Template.Mark

def blockOpen : Text := "\x7b%"

def blockClose : Text := "%\x7d"

def valueOpen : Text := "\x7b\x7b"

def valueClose : Text := "\x7d\x7d"

def commentOpen : Text := "\x7b#"

def commentClose : Text := "#\x7d"

/-- A block tag around the given inside. -/
def block (inner : Text) : Text := blockOpen ++ inner ++ blockClose

/-- An interpolation around the given inside. -/
def value (inner : Text) : Text := valueOpen ++ inner ++ valueClose

end HaxeBuild.Template.Mark
