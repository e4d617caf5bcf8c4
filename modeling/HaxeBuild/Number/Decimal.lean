import HaxeBuild.Number.Binary64
import HaxeBuild.Text.Basic

namespace HaxeBuild.Decimal

/-- Digits with the position of the point: `0.digits * 10 ^ point`. -/
structure Digits where
  digits : Nat
  point : Int

/-- The position of the point in the decimal expansion of the ratio. -/
def pointOf (num den : Nat) : Int :=
  let guess := ((Nat.log2 num : Int) - (Nat.log2 den : Int)) * 30103 / 100000
  let reaches (power : Int) := den * Nat.pow 10 power.toNat ≤ num * Nat.pow 10 (-power).toNat
  if !reaches guess then guess
  else if !reaches (guess + 1) then guess + 1
  else guess + 2

/-- The reals that round to a positive double, as numerators over one denominator. -/
structure Interval where
  low : Nat
  value : Nat
  high : Nat
  den : Nat
  closed : Bool

def Interval.contains (i : Interval) (num den : Nat) : Bool :=
  let x := num * i.den
  let low := i.low * den
  let high := i.high * den
  if i.closed then low ≤ x && x ≤ high else low < x && x < high

/-- Below a power of two the neighbours are half as far apart as above it. -/
def Interval.ofDyadic (x : Dyadic) : Interval :=
  let (num, den) := (Dyadic.mk false (4 * x.mantissa) x.exponent).ratio
  let (unit, _) := (Dyadic.mk false 1 x.exponent).ratio
  let narrow := x.mantissa == Binary64.fractions && x.exponent > -1074
  ⟨num - (if narrow then unit else 2 * unit), num, num + 2 * unit, 4 * den, x.mantissa % 2 == 0⟩

/-- The numeral with `count` digits that is nearest to the value and lies in the interval. -/
def Interval.nearest? (i : Interval) (point : Int) (count : Nat) : Option Nat :=
  let exponent := point - count
  let up := Nat.pow 10 exponent.toNat
  let down := Nat.pow 10 (-exponent).toNat
  let num := i.value * down
  let den := i.den * up
  let floor := num / den
  let lowHit := i.contains (floor * up) down
  let highHit := i.contains ((floor + 1) * up) down
  let twice := 2 * (num % den)
  let preferLow := twice < den || (twice == den && floor % 2 == 0)
  if lowHit && (preferLow || !highHit) then some floor
  else if highHit then some (floor + 1)
  else none

/-- Seventeen digits always read back, so the search ends there at the latest. -/
def Interval.shortest (i : Interval) (point : Int) : Nat × Nat :=
  match (List.range 17).findSome? fun k => (i.nearest? point (k + 1)).map fun n => (n, k + 1) with
  | some found => found
  | none => (i.value / i.den, 17)

def trailingZeros (digits : List Char) : Nat := (digits.reverse.takeWhile (· == '0')).length

def zeros (n : Nat) : Text := List.replicate n (.char '0')

/-- Positional between `0.0001` and `10 ^ 16`, otherwise with an exponent of two digits or more. -/
def layOut (digits : List Char) (point : Int) : Text :=
  let digits := digits.take (digits.length - trailingZeros digits)
  let shown : Text := digits.map Code.char
  let count : Int := digits.length
  if -4 < point ∧ point ≤ 16 then
    if point ≤ 0 then "0." ++ zeros (-point).toNat ++ shown
    else if count ≤ point then shown ++ zeros (point - count).toNat ++ ".0"
    else shown.take point.toNat ++ "." ++ shown.drop point.toNat
  else
    let exponent := point - 1
    let size := Text.ofNat exponent.natAbs
    let padded : Text := if size.length < 2 then "0" ++ size else size
    let fraction : Text := match shown.drop 1 with
      | [] => []
      | more => "." ++ more
    shown.take 1 ++ fraction ++ "e" ++ (if exponent < 0 then "-" else "+") ++ padded

def sign (negative : Bool) : Text := if negative then "-" else ""

/-- The text of a double: the fewest digits that read back as it. -/
def ofFloat (x : Float) : Text :=
  match Binary64.decode? x with
  | none => if x.isNaN then "nan" else sign (Binary64.isNegative x) ++ "inf"
  | some d =>
    if d.isZero then sign d.negative ++ "0.0"
    else
      let i := Interval.ofDyadic d
      let point := pointOf i.value i.den
      let (n, count) := i.shortest point
      let digits := Nat.toDigits 10 n
      sign d.negative ++ layOut digits (point + ((digits.length : Int) - count))

/-- The double nearest to `digits * 10 ^ exponent`. -/
def toFloat (negative : Bool) (digits : Nat) (exponent : Int) : Float :=
  let size : Int := (Nat.toDigits 10 digits).length
  if size + exponent > 400 ∧ digits ≠ 0 then Binary64.infinity negative
  else if size + exponent < -400 then Binary64.ofRatio negative 0 1
  else Binary64.ofRatio negative (digits * Nat.pow 10 exponent.toNat)
    (Nat.pow 10 (-exponent).toNat)

end HaxeBuild.Decimal
