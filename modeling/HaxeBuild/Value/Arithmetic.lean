import HaxeBuild.Error
import HaxeBuild.Value.Equality
import HaxeBuild.Value.Print

namespace HaxeBuild

namespace Number

/-- Integers beyond the range of doubles have no double. -/
def toFloat : Number → Outcome Float
  | .float x => .ok x
  | .int n =>
    let x := Binary64.ofRatio (n < 0) n.natAbs 1
    if x.isInf then Outcome.fail .overflow else .ok x

/-- A number as a value. -/
def toValue : Number → Value
  | .int n => .int n
  | .float x => .float x

/-- Integers stay exact; a double on either side makes both doubles. -/
def combine (exact : Int → Int → Outcome Number) (rounded : Float → Float → Outcome Float) :
    Number → Number → Outcome Number
  | .int m, .int n => exact m n
  | a, b => do
    let x ← a.toFloat
    let y ← b.toFloat
    return .float (← rounded x y)

/-- Whether a number is zero. -/
def isZero : Number → Bool
  | .int n => n == 0
  | .float x => x == 0

/-- Division, which always gives a float. -/
def divide (a b : Number) : Outcome Number :=
  if b.isZero then Outcome.fail .divisionByZero
  else
    combine
      (fun m n =>
        let x := Binary64.ofRatio (decide (m < 0) != decide (n < 0)) m.natAbs n.natAbs
        let x := if m == 0 then 0 else x
        if x.isInf then Outcome.fail .overflow else .ok (.float x))
      (fun x y => .ok (x / y)) a b

/-- The remainder takes the sign of the divisor, and the quotient is rounded down. -/
def floorDivide (x y : Float) : Float × Float :=
  let rest := Binary64.remainder x y
  let quotient := (x - rest) / y
  let signOf (f : Float) := Binary64.ofFields (Binary64.isNegative f) 0 0
  let (rest, quotient) :=
    if rest == 0 then (signOf y, quotient)
    else if decide (y < 0) != decide (rest < 0) then (rest + y, quotient - 1)
    else (rest, quotient)
  let down :=
    if quotient == 0 then signOf (x / y)
    else
      let floor := quotient.floor
      if quotient - floor > 0.5 then floor + 1 else floor
  (down, rest)

/-- Division rounded down. -/
def floorQuotient (a b : Number) : Outcome Number :=
  if b.isZero then Outcome.fail .divisionByZero
  else combine (fun m n => .ok (.int (Int.fdiv m n))) (fun x y => .ok (floorDivide x y).1) a b

/-- The remainder, which has the sign of the divisor. -/
def modulo (a b : Number) : Outcome Number :=
  if b.isZero then Outcome.fail .divisionByZero
  else combine (fun m n => .ok (.int (Int.fmod m n))) (fun x y => .ok (floorDivide x y).2) a b

/-- A power of floats, which may overflow. -/
def powerFloat (x y : Float) : Outcome Float :=
  if x == 0 && y < 0 then Outcome.fail .divisionByZero
  else if x < 0 && !x.isInf && !y.isInf && y != y.floor then Outcome.fail .wrongType
  else
    let result := x.pow y
    if result.isInf && !x.isInf && !y.isInf then Outcome.fail .overflow else .ok result

/-- A negative exponent makes the result a double. -/
def power (a b : Number) : Outcome Number :=
  combine
    (fun m n =>
      if n ≥ 0 then .ok (.int (Int.pow m n.toNat))
      else do
        let x ← (Number.int m).toFloat
        let y ← (Number.int n).toFloat
        return .float (← powerFloat x y))
    powerFloat a b

end Number

namespace Value

/-- The operators between two values. -/
inductive Operator where
  | add
  | sub
  | mul
  | div
  | floorDiv
  | mod
  | pow
  deriving DecidableEq

/-- The comparisons of two values. -/
inductive Comparison where
  | eq
  | ne
  | lt
  | le
  | gt
  | ge
  | isIn
  | notIn
  deriving DecidableEq

/-- Copies laid end to end; a count below one gives none. -/
def repeated {α : Type} (items : List α) (count : Int) : List α :=
  (List.replicate count.toNat items).flatten

/-- A text or a list repeated. -/
def repeat? (v : Value) (count : Int) : Option Value :=
  match v.text?, v.tuple?, v.list?, v with
  | some t, _, _, _ => some (.text (repeated t count))
  | _, some items, _, _ => some (.tuple (repeated items count))
  | _, _, some items, _ => some (.list (repeated items count))
  | _, _, _, .bytes octets => some (.bytes (repeated octets count))
  | _, _, _, _ => Option.none

/-- The integer that a value counts as. -/
def integer? : Value → Option Int
  | .int n => some n
  | .bool b => some (if b then 1 else 0)
  | _ => Option.none

/-- Texts, lists, tuples and bytes join with their like. -/
def joined? (a b : Value) : Option Value :=
  match a.text?, b.text?, a.tuple?, b.tuple? with
  | some s, some t, _, _ => some (.text (s ++ t))
  | _, _, some xs, some ys => some (.tuple (xs ++ ys))
  | _, _, _, _ =>
    match a.list?, b.list?, a, b with
    | some xs, some ys, _, _ => some (.list (xs ++ ys))
    | _, _, .bytes xs, .bytes ys => some (.bytes (xs ++ ys))
    | _, _, _, _ => Option.none

/-- Fills the marks `%s`, `%r` and `%d` of a text; `%%` is a percent sign. -/
def fill : Text → List Value → Outcome (Text × List Value)
  | [], vs => .ok ([], vs)
  | .char '%' :: .char '%' :: rest, vs => do
    let (filled, left) ← fill rest vs
    return (.char '%' :: filled, left)
  | .char '%' :: mark :: rest, vs =>
    match vs with
    | [] =>
      Outcome.fail (if mark == .char 's' || mark == .char 'r' || mark == .char 'd' then .wrongType
        else .badValue)
    | v :: vs => do
      let shownAs ←
        if mark == .char 's' then Except.ok v.print
        else if mark == .char 'r' then Except.ok v.shown
        else if mark == .char 'd' then
          match v with
          | .float x =>
            match Binary64.decode? x with
            | some d => Except.ok (Text.ofInt d.truncate)
            | Option.none => Outcome.fail (if x.isNaN then .badValue else .overflow)
          | _ =>
            match v.integer? with
            | some n => Except.ok (Text.ofInt n)
            | Option.none => Outcome.fail .wrongType
        else Outcome.fail .badValue
      let (filled, left) ← fill rest vs
      return (shownAs ++ filled, left)
  | [.char '%'], _ => Outcome.fail .badValue
  | c :: rest, vs => do
    let (filled, left) ← fill rest vs
    return (c :: filled, left)

/-- Values that can stand for named arguments may be left over. -/
def mayRemain : Value → Bool
  | .bytes _ => true
  | .range .. => true
  | .absent _ => true
  | v => v.list?.isSome || v.entries?.isSome

/-- Fills the marks of a text from a tuple, or from one value. -/
def format (t : Text) (v : Value) : Outcome Value := do
  let (filled, left) ← fill t (v.tuple?.getD [v])
  if left.isEmpty || mayRemain v then return .text filled
  else Outcome.fail .wrongType

/-- An operation on two values that count as numbers. -/
def numeric (combine : Number → Number → Outcome Number) (a b : Value) : Outcome Value :=
  match a.number?, b.number? with
  | some m, some n => do return (← combine m n).toValue
  | _, _ => Outcome.fail .wrongType

/-- The first absent operand decides the message. -/
def refuseAbsent (a b : Value) : Outcome Unit :=
  match a.absent?.orElse fun _ => b.absent? with
  | some why => .error (.absentValue why)
  | Option.none => .ok ()

/-- What an operator makes of two values. -/
def operate (op : Operator) (a b : Value) : Outcome Value := do
  match op, a.text? with
  | .mod, some t => format t b
  | _, _ =>
    refuseAbsent a b
    match op with
    | .add =>
      match joined? a b with
      | some v => return v
      | Option.none =>
        numeric (Number.combine (fun m n => .ok (.int (m + n))) (fun x y => .ok (x + y))) a b
    | .sub => numeric (Number.combine (fun m n => .ok (.int (m - n))) (fun x y => .ok (x - y))) a b
    | .mul =>
      match b.integer?.bind a.repeat?, a.integer?.bind b.repeat? with
      | some v, _ => return v
      | _, some v => return v
      | _, _ =>
        numeric (Number.combine (fun m n => .ok (.int (m * n))) (fun x y => .ok (x * y))) a b
    | .div => numeric Number.divide a b
    | .floorDiv => numeric Number.floorQuotient a b
    | .mod => numeric Number.modulo a b
    | .pow => numeric Number.power a b

/-- A number with the other sign. -/
def negate (v : Value) : Outcome Value :=
  match v.absent?, v.number? with
  | some why, _ => .error (.absentValue why)
  | _, some (.int n) => .ok (.int (-n))
  | _, some (.float x) => .ok (.float (-x))
  | _, _ => Outcome.fail .wrongType

/-- A number as it is. -/
def affirm (v : Value) : Outcome Value :=
  match v.absent?, v.number? with
  | some why, _ => .error (.absentValue why)
  | _, some n => .ok n.toValue
  | _, _ => Outcome.fail .wrongType

/-- The order of texts by their characters. -/
def textOrder (s t : Text) : Ordering :=
  if s == t then .eq else if Text.before s t then .lt else .gt

/-- Octets are compared by value. -/
def octetOrder : Bytes → Bytes → Ordering
  | [], [] => .eq
  | [], _ :: _ => .lt
  | _ :: _, [] => .gt
  | a :: as, b :: bs => if a == b then octetOrder as bs else if a < b then .lt else .gt

/-- Whether the order of two values makes a comparison true. -/
def satisfies : Comparison → Ordering → Bool
  | .lt, o => o == .lt
  | .le, o => o != .gt
  | .gt, o => o == .gt
  | .ge, o => o != .lt
  | _, _ => false

/-- Order of values that hold no others. -/
def compareLeaf (op : Comparison) (a b : Value) : Outcome Bool :=
  match a.number?, b.number?, a.text?, b.text? with
  | some m, some n, _, _ =>
    .ok (match m.compare? n with
      | some o => satisfies op o
      | Option.none => false)
  | _, _, some s, some t => .ok (satisfies op (textOrder s t))
  | _, _, _, _ =>
    match a, b with
    | .bytes x, .bytes y => .ok (satisfies op (octetOrder x y))
    | .path x, .path y =>
      .ok (satisfies op
        (if x == y then .eq
          else if Path.partsBefore (rooted x) (rooted y) then .lt else .gt))
    | .names x, .names y =>
      let within := x.all y.contains
      let around := y.all x.contains
      .ok (match op with
        | .lt => within && !around
        | .le => within
        | .gt => around && !within
        | _ => around)
    | _, _ => Outcome.fail .wrongType
where
  rooted (p : Path) : List Text := List.replicate p.slashes.val (.char '/') :: p.parts

mutual

/-- Lists and tuples are ordered by their first unequal members. -/
def compare (op : Comparison) : Value → Value → Outcome Bool
  | .list xs, b =>
    match b.list? with
    | some ys => compareItems op xs ys
    | Option.none => Outcome.fail .wrongType
  | .sharedList _ xs, b =>
    match b.list? with
    | some ys => compareItems op xs ys
    | Option.none => Outcome.fail .wrongType
  | .tuple xs, b =>
    match b.tuple? with
    | some ys => compareItems op xs ys
    | Option.none => Outcome.fail .wrongType
  | .flag f, b =>
    match b.tuple? with
    | some ys => compareTexts op [f.name, f.value] ys
    | Option.none => Outcome.fail .wrongType
  | a, b => compareLeaf op a b

/-- Lists are compared at the first place where they differ. -/
def compareItems (op : Comparison) : List Value → List Value → Outcome Bool
  | [], [] => .ok (satisfies op .eq)
  | [], _ :: _ => .ok (satisfies op .lt)
  | _ :: _, [] => .ok (satisfies op .gt)
  | x :: xs, y :: ys =>
    if same x y then compareItems op xs ys
    else do
      refuseAbsent x y
      compare op x y

/-- A list of texts, such as a flag has, is compared with any list in the same way. -/
def compareTexts (op : Comparison) : List Text → List Value → Outcome Bool
  | [], [] => .ok (satisfies op .eq)
  | [], _ :: _ => .ok (satisfies op .lt)
  | _ :: _, [] => .ok (satisfies op .gt)
  | t :: ts, y :: ys =>
    if same (.text t) y then compareTexts op ts ys
    else do
      refuseAbsent (.text t) y
      compareLeaf op (.text t) y

end

/-- Membership: a part of a text, a key of a dictionary, or a member of what can be looped over. -/
def contains (container member : Value) : Outcome Bool :=
  match container.text?, container with
  | some t, _ =>
    match member.text? with
    | some part => .ok (Text.hasInfix t part)
    | Option.none => Outcome.fail .wrongType
  | _, .dict entries => key entries
  | _, .sharedDict _ entries => key entries
  | _, .view .keys owner => key (owner.entries?.getD [])
  | _, .names members =>
    if member.hashable then .ok (members.any fun t => same (.text t) member)
    else Outcome.fail .wrongType
  | _, .bytes octets =>
    match member with
    | .bytes part => .ok (Text.hasInfix (spelled octets) (spelled part))
    | _ =>
      match member.integer? with
      | some n =>
        if 0 ≤ n ∧ n < 256 then .ok (octets.any fun octet => octet.toNat == n.toNat)
        else Outcome.fail .badValue
      | Option.none => Outcome.fail .wrongType
  | _, _ =>
    match container.items? with
    | some items => .ok (items.any fun item => same item member)
    | Option.none => Outcome.fail .wrongType
where
  key (entries : List (Value × Value)) : Outcome Bool :=
    if member.hashable then .ok (lookup? member entries).isSome else Outcome.fail .wrongType
  spelled (octets : Bytes) : Text := octets.map fun octet => .char (Char.ofNat octet.toNat)

/-- Whether a comparison holds of two values. -/
def test (op : Comparison) (a b : Value) : Outcome Bool :=
  match op with
  | .eq => .ok (same a b)
  | .ne => .ok (!same a b)
  | .isIn => contains b a
  | .notIn => do return !(← contains b a)
  | _ => do
    refuseAbsent a b
    compare op a b

end Value

end HaxeBuild
