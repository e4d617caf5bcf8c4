import HaxeBuild.Text.Basic

namespace HaxeBuild

abbrev Bytes := List UInt8

namespace Code

/-- Half of a surrogate pair has no encoding. -/
def utf8? : Code → Option Bytes
  | .half _ => none
  | .char c => some (String.utf8EncodeChar c)

/-- The octets in a name that the operating system is given. There, the halves from `U+DC80` to
`U+DCFF` stand for single octets that are no UTF-8. -/
def nameOctets? : Code → Option Bytes
  | .half offset =>
    if 0x480 ≤ offset.val ∧ offset.val < 0x500 then some [UInt8.ofNat (offset.val - 0x400)]
    else none
  | .char c => some (String.utf8EncodeChar c)

end Code

namespace Text

/-- No half of a surrogate pair stands alone. -/
def isUnicode (t : Text) : Bool :=
  t.all fun
    | .char _ => true
    | .half _ => false

/-- The strict encoding. -/
def utf8? : Text → Option Bytes
  | [] => some []
  | c :: rest => do
    let first ← c.utf8?
    let others ← utf8? rest
    return first ++ others

/-- How many octets follow a lead octet, the bits it contributes, and the range of the first
octet after it, which leaves out overlong forms, surrogates and numbers beyond Unicode. -/
def utf8Lead? (octet : Nat) : Option (Nat × Nat × Nat × Nat) :=
  if octet < 0x80 then some (0, octet, 0, 0)
  else if 0xC2 ≤ octet && octet ≤ 0xDF then some (1, octet - 0xC0, 0x80, 0xBF)
  else if octet == 0xE0 then some (2, 0, 0xA0, 0xBF)
  else if octet == 0xED then some (2, 13, 0x80, 0x9F)
  else if 0xE1 ≤ octet && octet ≤ 0xEF then some (2, octet - 0xE0, 0x80, 0xBF)
  else if octet == 0xF0 then some (3, 0, 0x90, 0xBF)
  else if octet == 0xF4 then some (3, 4, 0x80, 0x8F)
  else if 0xF1 ≤ octet && octet ≤ 0xF3 then some (3, octet - 0xF0, 0x80, 0xBF)
  else none

/-- The octets still to come in the sequence that is being read. -/
structure Utf8Pending where
  more : Nat
  value : Nat
  low : Nat
  high : Nat

/-- Reads octets, inside a sequence if one is pending; anything malformed gives `none`. -/
def ofUtf8From : Option Utf8Pending → Bytes → Option Text
  | none, [] => some []
  | some _, [] => none
  | none, octet :: rest =>
    match utf8Lead? octet.toNat with
    | none => none
    | some (0, value, _, _) => do
      let c ← Code.ofNat? value
      let others ← ofUtf8From none rest
      return c :: others
    | some (more, value, low, high) => ofUtf8From (some ⟨more, value, low, high⟩) rest
  | some pending, octet :: rest =>
    if pending.low ≤ octet.toNat && octet.toNat ≤ pending.high then
      let value := pending.value * 64 + (octet.toNat - 0x80)
      if pending.more ≤ 1 then do
        let c ← Code.ofNat? value
        let others ← ofUtf8From none rest
        return c :: others
      else ofUtf8From (some ⟨pending.more - 1, value, 0x80, 0xBF⟩) rest
    else none

/-- `none` if the octets are not well-formed UTF-8. -/
def ofUtf8? (bytes : Bytes) : Option Text := ofUtf8From none bytes

end Text

end HaxeBuild
