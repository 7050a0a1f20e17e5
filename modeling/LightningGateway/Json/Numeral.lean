import LightningGateway.Decimal.Shortest

/-
  Numbers as JSON text spells them, and the values they stand
  for.

  A numeral without fraction and exponent is an integer when it
  fits 64 bits, signed if negative and unsigned otherwise.
  Every other numeral, `-0` among them, is a real number: its
  leading digits are collected while they fit 64 bits, and the
  collected number is scaled by one power of ten at a time.

  Key definitions include:
    * `Numeral`
    * `Numeral.integer?`
    * `Numeral.real?`
    * `Real.chars`
-/

namespace LightningGateway.Json

open Decimal

------------------------------------------------------------
-- Numerals
------------------------------------------------------------

/- The exponent of a numeral: its sign and its digits. -/
structure Scale where
  negative : Bool
  digits : List Nat
  deriving DecidableEq, Repr

/- A number as it is spelled. -/
structure Numeral where
  negative : Bool
  whole : List Nat
  fraction : List Nat
  scale : Option Scale
  deriving DecidableEq, Repr

/- The number that a list of decimal digits spells. -/
def ofDigits (digits : List Nat) : Nat :=
  digits.foldl (fun n d => 10 * n + d) 0

/- The first number that 64 bits cannot hold. -/
def wordLimit : Nat := 18446744073709551616

/- The bound of signed numbers of 64 bits. -/
def signedLimit : Nat := 9223372036854775808

namespace Numeral

/- The spelling of an integer. -/
def ofInt (n : Int) : Numeral :=
  ⟨n < 0, (Nat.toDigits 10 n.natAbs).map fun c =>
    c.toNat - 48, [], none⟩

/- The integer that a numeral stands for, if it is one. -/
def integer? (n : Numeral) : Option Int :=
  if n.fraction.isEmpty && n.scale.isNone then
    let v := ofDigits n.whole
    if n.negative then
      if v = 0 ∨ v > signedLimit then none
      else some (-(v : Int))
    else if v < wordLimit then some v
    else none
  else none

------------------------------------------------------------
-- Real Numbers
------------------------------------------------------------

/- Leading digits as a number below 2^64, and a decimal exponent. -/
structure Leading where
  digits : Nat
  exponent : Int
  deriving DecidableEq, Repr

/- Collect whole digits; those that no longer fit only count. -/
def collectWhole : Leading → Bool → List Nat → Leading
  | l, _, [] => l
  | l, full, d :: rest =>
      let next := 10 * l.digits + d
      if full || next ≥ wordLimit then
        collectWhole ⟨l.digits, l.exponent + 1⟩ true rest
      else collectWhole ⟨next, l.exponent⟩ false rest

/- Collect digits of the fraction until one does not fit. -/
def collectFraction : Leading → List Nat → Leading
  | l, [] => l
  | l, d :: rest =>
      let next := 10 * l.digits + d
      if next ≥ wordLimit then l
      else collectFraction ⟨next, l.exponent - 1⟩ rest

/- The digits of a numeral that count. -/
def leading (n : Numeral) : Leading :=
  collectFraction (collectWhole ⟨0, 0⟩ false n.whole)
    n.fraction

/- The largest power of ten that a double can be near to. -/
def mostPlaces : Nat := 308

/- Divide by ten to the largest power, `n` times or down to zero. -/
def shrink? : Nat → Double → Option Double
  | 0, x => some x
  | n + 1, x =>
      if x.mantissa = 0 then some x
      else
        match Double.pow10? mostPlaces with
        | none => none
        | some p => (x.div? p).bind (shrink? n)

/-
  Scale a double by a power of ten.  A large negative power is
  applied in steps, each of which rounds.
-/
def scaleBy
    (x : Double)
    (e : Int) : Option Double :=
  let places := e.natAbs
  if 0 ≤ e then
    if x.mantissa = 0 then some x
    else if places ≤ mostPlaces then
      (Double.pow10? places).bind x.mul?
    else none
  else
    let steps := (places - 1) / mostPlaces
    match Double.pow10? (places - steps * mostPlaces) with
    | none => none
    | some p => (shrink? steps x).bind fun y => y.div? p

/- The first exponent that 32 bits cannot hold. -/
def exponentLimit : Nat := 2147483648

/-
  The double that a numeral stands for, or none if it is out of
  range.
-/
def real? (n : Numeral) : Option Double :=
  let l := n.leading
  let signed (x : Double) : Double :=
    { x with negative := n.negative }
  let shift : Option Int :=
    match n.scale with
    | none => some l.exponent
    | some s =>
        let e := ofDigits s.digits
        if e ≥ exponentLimit then none
        else if s.negative then some (l.exponent - e)
        else some (l.exponent + e)
  match shift with
  | some e => do
      let x ← Double.nearest? false l.digits 1
      (scaleBy x e).map signed
  | none =>
      let up := !(n.scale.map (·.negative)).getD false
      if l.digits ≠ 0 && up then none
      else some (signed (Double.zero false))

end Numeral

------------------------------------------------------------
-- The Text of a Real Number
------------------------------------------------------------

namespace Real

/- The decimal digits of a number. -/
def digitChars (n : Nat) : List Char :=
  Nat.toDigits 10 n

/-
  Where positional notation ends: a number with `point` digits
  before its decimal point is written out for `point` from -4
  to 16.
-/
def lowestPoint : Int := -4

/- The greatest number of whole digits that are written out. -/
def highestPoint : Int := 16

/- An exponent, with its sign. -/
def exponentChars (e : Int) : List Char :=
  'e' :: (if e < 0 then '-' else '+') :: digitChars e.natAbs

/- The text of `digits * 10 ^ exponent`, digits not zero. -/
def shortestChars (s : Shortest) : List Char :=
  let ds := digitChars s.digits
  let point : Int := (ds.length : Int) + s.exponent
  if 0 ≤ s.exponent ∧ point ≤ highestPoint then
    ds ++ List.replicate s.exponent.natAbs '0' ++ ['.', '0']
  else if 0 < point ∧ point ≤ highestPoint then
    ds.take point.natAbs ++ '.' :: ds.drop point.natAbs
  else if lowestPoint ≤ point ∧ point ≤ 0 then
    '0' :: '.' :: (List.replicate point.natAbs '0' ++ ds)
  else
    match ds with
    | [] => []
    | [d] => d :: exponentChars (point - 1)
    | d :: rest => d :: '.' :: (rest ++ exponentChars (point - 1))

/- The text of a double: the fewest digits that read back. -/
def chars (x : Double) : List Char :=
  let magnitude :=
    if x.mantissa = 0 then ['0', '.', '0']
    else shortestChars x.shortest
  if x.negative then '-' :: magnitude else magnitude

end Real

end LightningGateway.Json
