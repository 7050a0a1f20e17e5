/-
  Signatures on the curve y^2 = x^3 + 7.

  The coordinates of points are numbers modulo the prime
  2^256 - 2^32 - 977.  Points are multiplied in three
  coordinates, so that no division is needed before the end.

  Key definitions include:
    * `Point`
    * `Point.ofCompressed?`
    * `Signature`
    * `Signature.recover?`
    * `Signature.verify`
-/

namespace LightningGateway.Crypto

namespace Secp256k1

------------------------------------------------------------
-- Numbers
------------------------------------------------------------

/- The prime that coordinates are counted modulo. -/
def fieldOrder : Nat :=
  0xFFFFFFFFFFFFFFFFFFFFFFFFFFFFFFFFFFFFFFFFFFFFFFFFFFFFFFFEFFFFFC2F

/- The number of points, which is prime too. -/
def groupOrder : Nat :=
  0xFFFFFFFFFFFFFFFFFFFFFFFFFFFFFFFEBAAEDCE6AF48A03BBFD25E8CD0364141

/- The number of a list of bytes, the first one highest. -/
def ofBytes (bytes : List UInt8) : Nat :=
  bytes.foldl (fun n b => 256 * n + b.toNat) 0

/- A power modulo `m`, for an exponent below 2^bits. -/
def powMod (m b : Nat) : Nat → Nat → Nat
  | 0, _ => 1 % m
  | bits + 1, e =>
      let half := powMod m (b * b % m) bits (e / 2)
      if e % 2 = 1 then b * half % m else half

/- The inverse of a number modulo a prime of 256 bits. -/
def inverse (p x : Nat) : Nat :=
  powMod p x 256 (p - 2)

/- A sum of coordinates. -/
def add (x y : Nat) : Nat :=
  (x + y) % fieldOrder

/- A difference of coordinates. -/
def sub (x y : Nat) : Nat :=
  (x + (fieldOrder - y % fieldOrder)) % fieldOrder

/- A product of coordinates. -/
def mul (x y : Nat) : Nat :=
  x * y % fieldOrder

/- The square root of a coordinate, if it has one. -/
def sqrt? (a : Nat) : Option Nat :=
  let r := powMod fieldOrder a 256 ((fieldOrder + 1) / 4)
  if mul r r = a % fieldOrder then some r else none

------------------------------------------------------------
-- Points
------------------------------------------------------------

/- A point of the curve, by its coordinates. -/
structure Point where
  x : Nat
  y : Nat
  deriving DecidableEq, Repr

/-
  A point as x / z^2 and y / z^3; the point at infinity has
  z = 0.
-/
structure Scaled where
  x : Nat
  y : Nat
  z : Nat
  deriving DecidableEq, Repr

/- What multiples of are taken. -/
def generator : Point :=
  ⟨0x79BE667EF9DCBBAC55A06295CE870B07029BFCDB2DCE28D959F2815B16F81798,
   0x483ADA7726A3C4655DA4FBFC0E1108A8FD17B448A68554199C47D08FFB10D4B8⟩

namespace Scaled

/- The point at infinity. -/
def infinity : Scaled :=
  ⟨1, 1, 0⟩

/- A point in three coordinates. -/
def ofPoint (p : Point) : Scaled :=
  ⟨p.x, p.y, 1⟩

/- The sum of a point and itself. -/
def double (p : Scaled) : Scaled :=
  if p.z = 0 ∨ p.y = 0 then infinity
  else
    let yy := mul p.y p.y
    let s := mul 4 (mul p.x yy)
    let m := mul 3 (mul p.x p.x)
    let x := sub (mul m m) (mul 2 s)
    ⟨x, sub (mul m (sub s x)) (mul 8 (mul yy yy)),
      mul 2 (mul p.y p.z)⟩

/- The sum of two points. -/
def plus (p q : Scaled) : Scaled :=
  if p.z = 0 then q
  else if q.z = 0 then p
  else
    let pz := mul p.z p.z
    let qz := mul q.z q.z
    let u := mul p.x qz
    let v := mul q.x pz
    let s := mul p.y (mul qz q.z)
    let t := mul q.y (mul pz p.z)
    let h := sub v u
    let r := sub t s
    if h = 0 then if r = 0 then double p else infinity
    else
      let hh := mul h h
      let hhh := mul hh h
      let w := mul u hh
      let x := sub (sub (mul r r) hhh) (mul 2 w)
      ⟨x, sub (mul r (sub w x)) (mul s hhh),
        mul (mul p.z q.z) h⟩

/- A multiple of a point, for a factor below 2^bits. -/
def times (p : Scaled) : Nat → Nat → Scaled
  | 0, _ => infinity
  | bits + 1, k =>
      let half := double (times p bits (k / 2))
      if k % 2 = 1 then plus half p else half

/- The coordinates of a point that is not at infinity. -/
def toPoint? (p : Scaled) : Option Point :=
  if p.z = 0 then none
  else
    let i := inverse fieldOrder p.z
    let ii := mul i i
    some ⟨mul p.x ii, mul p.y (mul ii i)⟩

end Scaled

namespace Point

/- The sum of two multiples, unless it is at infinity. -/
def combine?
    (a : Nat)
    (p : Point)
    (b : Nat)
    (q : Point) : Option Point :=
  (Scaled.plus ((Scaled.ofPoint p).times 256 a)
    ((Scaled.ofPoint q).times 256 b)).toPoint?

/- The point with a given coordinate, its other one odd or even. -/
def ofX?
    (x : Nat)
    (odd : Bool) : Option Point :=
  if x < fieldOrder then
    match sqrt? (add (mul (mul x x) x) 7) with
    | none => none
    | some y =>
        if y % 2 = (if odd then 1 else 0) then some ⟨x, y⟩
        else some ⟨x, sub 0 y⟩
  else none

/- The point that 33 bytes stand for. -/
def ofCompressed? (bytes : List UInt8) : Option Point :=
  match bytes with
  | tag :: rest =>
      if rest.length = 32 ∧ (tag = 2 ∨ tag = 3) then
        ofX? (ofBytes rest) (tag == 3)
      else none
  | [] => none

end Point

------------------------------------------------------------
-- Signatures
------------------------------------------------------------

/- A signature, with what is needed to find its key. -/
structure Signature where
  r : Nat
  s : Nat
  recovery : Nat
  deriving DecidableEq, Repr

namespace Signature

/- The key that has signed a hash. -/
def recover?
    (g : Signature)
    (hash : List UInt8) : Option Point :=
  if g.r = 0 ∨ g.s = 0 then none
  else
    let x := if 2 ≤ g.recovery then g.r + groupOrder else g.r
    match Point.ofX? x (g.recovery % 2 == 1) with
    | none => none
    | some p =>
        let i := inverse groupOrder g.r
        let e := ofBytes hash % groupOrder
        let a := (groupOrder - e) % groupOrder * i % groupOrder
        let b := g.s * i % groupOrder
        Point.combine? a generator b p

/-
  Whether a key has signed a hash.  Of the two signatures that
  would do, only the one with the smaller second number counts.
-/
def verify
    (g : Signature)
    (hash : List UInt8)
    (key : Point) : Bool :=
  if g.r = 0 ∨ g.s = 0 ∨ 2 * g.s > groupOrder then false
  else
    let i := inverse groupOrder g.s
    let e := ofBytes hash % groupOrder
    let a := e * i % groupOrder
    let b := g.r * i % groupOrder
    match Point.combine? a generator b key with
    | none => false
    | some p => p.x % groupOrder = g.r

end Signature

end Secp256k1

end LightningGateway.Crypto
