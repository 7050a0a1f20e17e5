/-
  Domain labels with characters outside ASCII, written in
  ASCII.

  The ASCII characters of a label come first.  The others are
  inserted one by one in the order of their code points; each
  insertion is a number in which the point and the place are
  combined, written in a variable number of digits whose
  thresholds adapt to the numbers seen before.

  Key definitions include:
    * `Punycode.encode`
    * `Punycode.decode?`
-/

namespace LightningGateway.Url

namespace Punycode

------------------------------------------------------------
-- Digits
------------------------------------------------------------

/- The number of digit values. -/
def base : Nat := 36

/- The first point that is not ASCII. -/
def firstPoint : Nat := 0x80

/- The bias before any insertion. -/
def firstBias : Nat := 72

/- The letter or digit of a value below 36. -/
def digit (n : Nat) : Char :=
  if n < 26 then Char.ofNat (97 + n) else Char.ofNat (22 + n)

/- The value of a letter or a digit. -/
def value? (c : Char) : Option Nat :=
  let n := c.toNat
  if 97 ≤ n ∧ n ≤ 122 then some (n - 97)
  else if 65 ≤ n ∧ n ≤ 90 then some (n - 65)
  else if 48 ≤ n ∧ n ≤ 57 then some (n - 22)
  else none

/- The threshold of the digit in place `k`, `k` a multiple of 36. -/
def threshold (bias k : Nat) : Nat :=
  if k ≤ bias + 1 then 1
  else if k ≥ bias + 26 then 26
  else k - bias

/- Divide by 35 until the number is small, counting places. -/
def settle (delta k : Nat) : Nat :=
  if 455 < delta then settle (delta / 35) (k + base)
  else k + 36 * delta / (delta + 38)
  termination_by delta
  decreasing_by exact Nat.div_lt_self (by omega) (by decide)

/- The bias after a number, when `count` characters are placed. -/
def adapt
    (delta count : Nat)
    (first : Bool) : Nat :=
  let d := if first then delta / 700 else delta / 2
  settle (d + d / count) 0

------------------------------------------------------------
-- Encoding
------------------------------------------------------------

/- The threshold is never zero. -/
theorem threshold_pos (bias k : Nat) :
    0 < threshold bias k := by
  unfold threshold
  split
  · decide
  · split <;> omega

/- The digits of a number, from place `k` on. -/
def numberFrom (bias k q : Nat) : List Char :=
  let t := threshold bias k
  if q < t then [digit q]
  else
    digit (t + (q - t) % (base - t)) ::
      numberFrom bias (k + base) ((q - t) / (base - t))
  termination_by q
  decreasing_by
    have := threshold_pos bias k
    exact Nat.lt_of_le_of_lt (Nat.div_le_self _ _) (by omega)

/- The digits of a number. -/
def number (bias q : Nat) : List Char :=
  numberFrom bias base q

/- What an encoder carries along. -/
structure Encoder where
  out : List Char
  delta : Nat
  bias : Nat
  placed : Nat

/- Pass one character while inserting those at point `m`. -/
def Encoder.pass
    (ascii m : Nat)
    (e : Encoder)
    (c : Char) : Encoder :=
  if c.toNat < m then { e with delta := e.delta + 1 }
  else if c.toNat = m then
    ⟨e.out ++ number e.bias e.delta, 0,
      adapt e.delta (e.placed + 1) (e.placed == ascii),
      e.placed + 1⟩
  else e

/- Insert the characters at each of the given points. -/
def encodePoints
    (cs : List Char)
    (ascii : Nat) : List Nat → Nat → Encoder → Encoder
  | [], _, e => e
  | m :: rest, n, e =>
      let e :=
        { e with delta := e.delta + (m - n) * (e.placed + 1) }
      let e := cs.foldl (Encoder.pass ascii m) e
      encodePoints cs ascii rest (m + 1)
        { e with delta := e.delta + 1 }

/- The ASCII form of a label. -/
def encode (cs : List Char) : List Char :=
  let plain := cs.filter fun c => c.toNat < firstPoint
  let points :=
    ((cs.map Char.toNat).filter fun n => firstPoint ≤ n)
  let points := (points.mergeSort fun a b => a ≤ b).eraseDups
  let start := if plain.isEmpty then [] else plain ++ ['-']
  (encodePoints cs plain.length points firstPoint
    ⟨start, 0, firstBias, plain.length⟩).out

------------------------------------------------------------
-- Decoding
------------------------------------------------------------

/- The first number that a word of 32 bits cannot hold. -/
def wordLimit : Nat := 4294967296

/- What a decoder carries along. -/
structure Decoder where
  out : List Char
  point : Nat
  place : Nat
  bias : Nat

/-
  Read the digits of one insertion, from place `k` on: the
  place so far, and the weight of the next digit.
-/
def Decoder.readFrom
    (d : Decoder) :
    Nat → Nat → Nat → List Char → Option (Nat × List Char)
  | _, _, _, [] => none
  | k, place, weight, c :: rest =>
      match value? c with
      | none => none
      | some v =>
          let place := place + v * weight
          let t := threshold d.bias k
          if v < t then some (place, rest)
          else
            if weight * (base - t) < wordLimit then
              d.readFrom (k + base) place (weight * (base - t))
                rest
            else none

/- Insert the character of one number. -/
def Decoder.insert?
    (d : Decoder)
    (place : Nat) : Option Decoder :=
  let count := d.out.length + 1
  let point := d.point + place / count
  let slot := place % count
  if point.isValidChar then
    some
      ⟨d.out.take slot ++ Char.ofNat point :: d.out.drop slot,
        point, slot + 1,
        adapt (place - d.place) count (d.place == 0)⟩
  else none

/- Read insertions to the end, at most `fuel` of them. -/
def Decoder.run : Nat → Decoder → List Char → Option (List Char)
  | _, d, [] => some d.out
  | 0, _, _ :: _ => none
  | fuel + 1, d, cs =>
      match d.readFrom base d.place 1 cs with
      | none => none
      | some (place, rest) =>
          match d.insert? place with
          | none => none
          | some d => d.run fuel rest

/-
  The label of an ASCII form.  The last hyphen ends the ASCII
  characters, unless there are none in front of it.
-/
def decode? (cs : List Char) : Option (List Char) :=
  let tail := (cs.reverse.takeWhile (· != '-')).reverse
  let plain := (cs.take (cs.length - tail.length)).dropLast
  let tail := if plain.isEmpty then cs else tail
  Decoder.run cs.length ⟨plain, firstPoint, 0, firstBias⟩ tail

end Punycode

end LightningGateway.Url
