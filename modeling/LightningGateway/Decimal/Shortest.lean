import LightningGateway.Decimal.Double

/-
  The shortest decimal that reads back as a given double.

  Every real number between the midpoints to the neighbouring
  doubles rounds to the double itself; the midpoints belong to
  it when the mantissa is even.  For one digit, two digits and
  so on the two decimals next to the double are tested against
  that interval, and the first that lies in it wins, the nearer
  one if both do.

  Key definitions include:
    * `Shortest`
    * `Double.shortest`
-/

namespace LightningGateway.Decimal

/- The decimal `digits * 10 ^ exponent`. -/
structure Shortest where
  digits : Nat
  exponent : Int
  deriving DecidableEq, Repr

------------------------------------------------------------
-- The Interval of a Double
------------------------------------------------------------

/-
  Bounds of the interval that rounds to a double, as numerators
  over one denominator, with the double itself in the middle.
-/
structure Interval where
  low : Nat
  value : Nat
  high : Nat
  denominator : Nat
  closed : Bool
  deriving DecidableEq, Repr

namespace Double

/- The interval of the magnitude of a double. -/
def interval (x : Double) : Interval :=
  let m := x.mantissa
  let narrow := m = halfMantissa ∧ x.exponent > minExponent
  let low := if narrow then 4 * m - 1 else 4 * m - 2
  let scale := Nat.pow 2 x.exponent.natAbs
  if x.exponent < 0 then
    ⟨low, 4 * m, 4 * m + 2, 4 * scale, m % 2 = 0⟩
  else
    ⟨low * scale, 4 * m * scale, (4 * m + 2) * scale, 4,
      m % 2 = 0⟩

end Double

namespace Interval

/- Whether `p / q` lies in the interval. -/
def contains
    (i : Interval)
    (p q : Nat) : Bool :=
  let a := p * i.denominator
  if i.closed then i.low * q ≤ a && a ≤ i.high * q
  else i.low * q < a && a < i.high * q

/- The distance from the middle to `p / q`, times both denominators. -/
def distance
    (i : Interval)
    (p q : Nat) : Nat :=
  let a := p * i.denominator
  let b := i.value * q
  if a ≤ b then b - a else a - b

/- The largest power of ten not above the middle. -/
def magnitude (i : Interval) : Int :=
  let whole := i.value / i.denominator
  if 0 < whole then ((toString whole).length : Int) - 1
  else
    match (List.range 330).find? fun j =>
        i.denominator ≤ i.value * Nat.pow 10 j with
    | some j => -(j : Int)
    | none => -330

/- The decimals with exponent `k` next to the middle that lie inside. -/
def hit?
    (i : Interval)
    (k : Int) : Option Nat :=
  let scale := Nat.pow 10 k.natAbs
  let (n, d) :=
    if k < 0 then (i.value * scale, i.denominator)
    else (i.value, i.denominator * scale)
  let below := n / d
  let above := below + 1
  let place (c : Nat) : Nat × Nat :=
    if k < 0 then (c, scale) else (c * scale, 1)
  let lowIn := 0 < below && i.contains (place below).1 (place below).2
  let highIn := i.contains (place above).1 (place above).2
  if lowIn && highIn then
    let a := i.distance (place below).1 (place below).2
    let b := i.distance (place above).1 (place above).2
    if a < b ∨ (a = b ∧ below % 2 = 0) then some below
    else some above
  else if lowIn then some below
  else if highIn then some above
  else none

end Interval

------------------------------------------------------------
-- The Search
------------------------------------------------------------

/- Divide out the factors of ten, at most `fuel` of them. -/
def stripZeros : Nat → Shortest → Shortest
  | 0, s => s
  | fuel + 1, s =>
      if 0 < s.digits ∧ s.digits % 10 = 0 then
        stripZeros fuel ⟨s.digits / 10, s.exponent + 1⟩
      else s

/- The shortest decimal of the magnitude of a double that is not zero. -/
def Double.shortest (x : Double) : Shortest :=
  let i := x.interval
  let top := i.magnitude
  let found := (List.range 18).findSome? fun (n : Nat) =>
    let k := top - (n : Int)
    (i.hit? k).map fun c => (⟨c, k⟩ : Shortest)
  stripZeros 20 (found.getD ⟨x.mantissa, 0⟩)

end LightningGateway.Decimal
