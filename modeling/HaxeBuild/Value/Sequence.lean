import HaxeBuild.Value.Arithmetic

namespace HaxeBuild.Value

/-- An index counts from the end if it is negative. -/
def nth? {α : Type} (items : List α) (index : Int) : Option α :=
  let position := if index < 0 then index + items.length else index
  if position < 0 then Option.none else items[position.toNat]?

/-- Where a slice of a sequence begins and ends, cut to the length of the sequence. -/
def sliceEnds (length : Nat) (start stop : Option Int) (step : Int) : Int × Int :=
  let size : Int := length
  let (low, high) := if step > 0 then (0, size) else (-1, size - 1)
  let cut (bound : Int) := max low (min high (if bound < 0 then bound + size else bound))
  ((start.map cut).getD (if step > 0 then low else high),
    (stop.map cut).getD (if step > 0 then high else low))

/-- A bound that is left out or no value is no bound. -/
def sliceBound (v : Value) : Outcome (Option Int) :=
  match v, v.integer? with
  | .none, _ => .ok Option.none
  | _, some n => .ok (some n)
  | _, _ => Outcome.fail .wrongType

/-- The positions that a slice selects. -/
def slicePositions (length : Nat) (start stop step : Value) : Outcome (Int × Int × Int) := do
  let stride ← sliceBound step
  if stride == some 0 then Outcome.fail .badValue
  else
    let stride := stride.getD 1
    let (first, last) := sliceEnds length (← sliceBound start) (← sliceBound stop) stride
    return (first, last, stride)

def pick {α : Type} (items : List α) (positions : Int × Int × Int) : List α :=
  let (first, last, stride) := positions
  (List.range (rangeLength first last stride)).filterMap fun (i : Nat) =>
    items[(first + stride * i).toNat]?

end HaxeBuild.Value
