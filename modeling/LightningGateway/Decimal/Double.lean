/-
  Double precision numbers as exact binary fractions.

  A finite double is a sign, a whole mantissa below 2^53 and a
  power of two.  All arithmetic is on natural numbers: an exact
  result is formed first and rounded once, to the nearest
  double, a tie going to the even mantissa.

  Key definitions include:
    * `Double`
    * `Double.nearest?`
    * `Double.mul?`
    * `Double.div?`
-/

namespace LightningGateway.Decimal

------------------------------------------------------------
-- Rounding a Quotient
------------------------------------------------------------

/- The whole number nearest to `n / d`; a tie goes to even. -/
def roundDiv (n d : Nat) : Nat :=
  let q := n / d
  let r := n % d
  if 2 * r > d ∨ (2 * r = d ∧ q % 2 = 1) then q + 1 else q

------------------------------------------------------------
-- Doubles
------------------------------------------------------------

/- The number `± mantissa * 2 ^ exponent`. -/
structure Double where
  negative : Bool
  mantissa : Nat
  exponent : Int
  deriving DecidableEq, Repr

namespace Double

/- The first number that a mantissa of 53 bits cannot be. -/
def mantissaLimit : Nat := 9007199254740992

/- The smallest mantissa of 53 bits. -/
def halfMantissa : Nat := 4503599627370496

/- The smallest exponent of a double. -/
def minExponent : Int := -1074

/- The largest exponent of a finite double. -/
def maxExponent : Int := 971

/- Zero, with its sign. -/
def zero (negative : Bool) : Double :=
  ⟨negative, 0, minExponent⟩

/- `n / d` scaled by `2 ^ (-e)`, as a numerator and a denominator. -/
def scaled
    (n d : Nat)
    (e : Int) : Nat × Nat :=
  if e < 0 then (n * Nat.pow 2 e.natAbs, d)
  else (n, d * Nat.pow 2 e.natAbs)

/-
  The exponent at which `n / d` has a mantissa of 53 bits, but
  no less than the smallest one.
-/
def exponentOf (n d : Nat) : Int :=
  let guess : Int := (n.log2 : Int) - (d.log2 : Int) - 53
  let (a, b) := scaled n d guess
  let e := if a ≥ b * mantissaLimit then guess + 1 else guess
  max e minExponent

/-
  The double nearest to the fraction `± n / d`, or none if its
  magnitude is too large.
-/
def nearest?
    (negative : Bool)
    (n d : Nat) : Option Double :=
  if n = 0 then some (zero negative)
  else
    let e := exponentOf n d
    let (a, b) := scaled n d e
    let m := roundDiv a b
    let (m, e) :=
      if m = mantissaLimit then (halfMantissa, e + 1) else (m, e)
    if e > maxExponent then none
    else some ⟨negative, m, e⟩

/- The magnitude as a numerator and a denominator. -/
def fraction (x : Double) : Nat × Nat :=
  if x.exponent < 0 then
    (x.mantissa, Nat.pow 2 x.exponent.natAbs)
  else (x.mantissa * Nat.pow 2 x.exponent.natAbs, 1)

/- The rounded product, unless it is too large. -/
def mul? (x y : Double) : Option Double :=
  let (a, b) := x.fraction
  let (c, d) := y.fraction
  nearest? (x.negative != y.negative) (a * c) (b * d)

/- The rounded quotient by a number that is not zero. -/
def div? (x y : Double) : Option Double :=
  let (a, b) := x.fraction
  let (c, d) := y.fraction
  nearest? (x.negative != y.negative) (a * d) (b * c)

/- The double nearest to a power of ten, for at most 308. -/
def pow10? (k : Nat) : Option Double :=
  nearest? false (Nat.pow 10 k) 1

end Double

end LightningGateway.Decimal
