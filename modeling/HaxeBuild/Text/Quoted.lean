import HaxeBuild.Text.Basic

namespace HaxeBuild

namespace Code

/-- Beyond the basic plane a code point takes two sixteen-bit units. -/
def units16 (c : Code) : List Nat :=
  if c.val < 0x10000 then [c.val]
  else [0xD800 + (c.val - 0x10000) / 0x400, 0xDC00 + (c.val - 0x10000) % 0x400]

/-- Quotes, backslashes and whatever is not printable ASCII are escaped. -/
def quoted : Code → Text
  | .char '"' => "\\\""
  | .char '\\' => "\\\\"
  | .char '\n' => "\\n"
  | .char '\r' => "\\r"
  | .char '\t' => "\\t"
  | .char '\x08' => "\\b"
  | .char '\x0c' => "\\f"
  | c =>
    if 32 ≤ c.val && c.val ≤ 126 then [c]
    else c.units16.flatMap fun unit => ("\\u" : Text) ++ Text.hex 4 unit

end Code

namespace Text

def quoted (t : Text) : Text := "\"" ++ t.flatMap Code.quoted ++ "\""

end Text

end HaxeBuild
