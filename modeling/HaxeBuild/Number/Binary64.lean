namespace HaxeBuild

/-- A finite double is `mantissa * 2 ^ exponent` with a sign. -/
structure Dyadic where
  negative : Bool
  mantissa : Nat
  exponent : Int

namespace Dyadic

def isZero (x : Dyadic) : Bool := x.mantissa == 0

/-- The mantissa, with its sign, at an exponent that is not above the number's own. -/
def scaled (x : Dyadic) (exponent : Int) : Int :=
  let size := x.mantissa * Nat.pow 2 (x.exponent - exponent).toNat
  if x.negative then -(size : Int) else size

def compare (x y : Dyadic) : Ordering :=
  let exponent := min x.exponent y.exponent
  Ord.compare (x.scaled exponent) (y.scaled exponent)

def ofInt (n : Int) : Dyadic := ⟨n < 0, n.natAbs, 0⟩

/-- The numerator and the denominator of the absolute value. -/
def ratio (x : Dyadic) : Nat × Nat :=
  (x.mantissa * Nat.pow 2 x.exponent.toNat, Nat.pow 2 (-x.exponent).toNat)

/-- The integer part, cut towards zero. -/
def truncate (x : Dyadic) : Int :=
  let size := x.ratio.1 / x.ratio.2
  if x.negative then -(size : Int) else size

def isIntegral (x : Dyadic) : Bool := x.ratio.1 % x.ratio.2 == 0

end Dyadic

namespace Binary64

/-- The fraction of a mantissa, without its leading bit, is below this number. -/
def fractions : Nat := Nat.pow 2 52

/-- There are this many values of the exponent field. -/
def exponents : Nat := Nat.pow 2 11

/-- The sign, exponent and fraction fields of the bit pattern. -/
def fields (x : Float) : Bool × Nat × Nat :=
  let bits := x.toBits.toNat
  (bits / (exponents * fractions) == 1, bits / fractions % exponents, bits % fractions)

def isNegative (x : Float) : Bool := (fields x).1

/-- `none` for the infinities and for what is not a number. -/
def decode? (x : Float) : Option Dyadic :=
  match fields x with
  | (negative, 2047, _) => let _ := negative; none
  | (negative, 0, fraction) => some ⟨negative, fraction, -1074⟩
  | (negative, field, fraction) => some ⟨negative, fractions + fraction, (field : Int) - 1075⟩

def ofFields (negative : Bool) (field fraction : Nat) : Float :=
  let top := if negative then exponents else 0
  Float.ofBits ((top + field) * fractions + fraction).toUInt64

def infinity (negative : Bool) : Float := ofFields negative 2047 0

/-- The quotient rounded to the nearest integer, a half to the even neighbour. -/
def roundedQuotient (num den : Nat) : Nat :=
  let down := num / den
  let twice := 2 * (num % den)
  if twice < den || (twice == den && down % 2 == 0) then down else down + 1

/-- The double nearest to `num / den`, of two equally near ones the even one. -/
def ofRatio (negative : Bool) (num den : Nat) : Float :=
  if num == 0 then ofFields negative 0 0
  else
    let first := (Nat.log2 num : Int) - (Nat.log2 den : Int) - 52
    let quotient (exponent : Int) :=
      roundedQuotient (num * Nat.pow 2 (-exponent).toNat) (den * Nat.pow 2 exponent.toNat)
    let small := num * Nat.pow 2 (-first).toNat < den * Nat.pow 2 first.toNat * fractions
    let exponent := max (if small then first - 1 else first) (-1074)
    let mantissa := quotient exponent
    let (mantissa, exponent) :=
      if mantissa == 2 * fractions then (fractions, exponent + 1) else (mantissa, exponent)
    if mantissa < fractions then ofFields negative 0 mantissa
    else if exponent > 971 then infinity negative
    else ofFields negative (exponent + 1075).toNat (mantissa - fractions)

def ofDyadic (x : Dyadic) : Float := ofRatio x.negative x.ratio.1 x.ratio.2

/-- The remainder of the division that cuts towards zero; it has the sign of `x` and is exact. -/
def remainder (x y : Float) : Float :=
  match decode? x, decode? y with
  | some a, some b =>
    if b.isZero then x / y
    else
      let exponent := min a.exponent b.exponent
      let rest := (a.scaled exponent).natAbs % (b.scaled exponent).natAbs
      ofDyadic ⟨a.negative, rest, exponent⟩
  | some _, none => if y.isNaN then y else x
  | none, _ => if x.isNaN then x else x - x

end Binary64

end HaxeBuild
