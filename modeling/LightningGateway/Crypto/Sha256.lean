/-
  The hash function SHA-256.

  A message is padded to blocks of 64 bytes.  Each block is read
  as sixteen words and stretched to sixty-four, which are mixed
  one by one into eight words of state.

  Key definitions include:
    * `Sha256.pad`
    * `Sha256.compress`
    * `Sha256.hash`
-/

namespace LightningGateway.Crypto

namespace Sha256

------------------------------------------------------------
-- Constants
------------------------------------------------------------

/- A number for each round: cube roots of primes, after the point. -/
def roundConstants : List UInt32 :=
  [0x428a2f98, 0x71374491, 0xb5c0fbcf, 0xe9b5dba5,
   0x3956c25b, 0x59f111f1, 0x923f82a4, 0xab1c5ed5,
   0xd807aa98, 0x12835b01, 0x243185be, 0x550c7dc3,
   0x72be5d74, 0x80deb1fe, 0x9bdc06a7, 0xc19bf174,
   0xe49b69c1, 0xefbe4786, 0x0fc19dc6, 0x240ca1cc,
   0x2de92c6f, 0x4a7484aa, 0x5cb0a9dc, 0x76f988da,
   0x983e5152, 0xa831c66d, 0xb00327c8, 0xbf597fc7,
   0xc6e00bf3, 0xd5a79147, 0x06ca6351, 0x14292967,
   0x27b70a85, 0x2e1b2138, 0x4d2c6dfc, 0x53380d13,
   0x650a7354, 0x766a0abb, 0x81c2c92e, 0x92722c85,
   0xa2bfe8a1, 0xa81a664b, 0xc24b8b70, 0xc76c51a3,
   0xd192e819, 0xd6990624, 0xf40e3585, 0x106aa070,
   0x19a4c116, 0x1e376c08, 0x2748774c, 0x34b0bcb5,
   0x391c0cb3, 0x4ed8aa4a, 0x5b9cca4f, 0x682e6ff3,
   0x748f82ee, 0x78a5636f, 0x84c87814, 0x8cc70208,
   0x90befffa, 0xa4506ceb, 0xbef9a3f7, 0xc67178f2]

/- The words of the state. -/
structure State where
  a : UInt32
  b : UInt32
  c : UInt32
  d : UInt32
  e : UInt32
  f : UInt32
  g : UInt32
  h : UInt32
  deriving DecidableEq, Repr

/- The first state: square roots of primes, after the point. -/
def State.first : State :=
  ⟨0x6a09e667, 0xbb67ae85, 0x3c6ef372, 0xa54ff53a,
   0x510e527f, 0x9b05688c, 0x1f83d9ab, 0x5be0cd19⟩

------------------------------------------------------------
-- Words
------------------------------------------------------------

/- Turn a word to the right by `n` bits, `n` from 1 to 31. -/
def rotate (n x : UInt32) : UInt32 :=
  (x >>> n) ||| (x <<< (32 - n))

/- The word of four bytes, the first one highest. -/
def word (a b c d : UInt8) : UInt32 :=
  (a.toUInt32 <<< 24) ||| (b.toUInt32 <<< 16) |||
    (c.toUInt32 <<< 8) ||| d.toUInt32

/- The words of a list of bytes. -/
def words : List UInt8 → List UInt32
  | a :: b :: c :: d :: rest => word a b c d :: words rest
  | _ => []

/- The four bytes of a word, the highest one first. -/
def bytes (x : UInt32) : List UInt8 :=
  [(x >>> 24).toUInt8, (x >>> 16).toUInt8, (x >>> 8).toUInt8,
   x.toUInt8]

------------------------------------------------------------
-- Padding
------------------------------------------------------------

/- The eight bytes of a length, the highest one first. -/
def lengthBytes (n : Nat) : List UInt8 :=
  [7, 6, 5, 4, 3, 2, 1, 0].map fun k =>
    UInt8.ofNat (n / Nat.pow 256 k % 256)

/- How many zeros stand between a message and its length. -/
def zeroCount (n : Nat) : Nat :=
  (119 - n % 64) % 64

/- A message with one bit, zeros and its length in bits after it. -/
def pad (m : List UInt8) : List UInt8 :=
  m ++ 0x80 :: (List.replicate (zeroCount m.length) 0 ++
    lengthBytes (8 * m.length))

------------------------------------------------------------
-- Mixing
------------------------------------------------------------

/-
  The next word of the stretched block, from the words before
  it, the latest one first.
-/
def nextWord (latest : List UInt32) : UInt32 :=
  let x := latest.getD 1 0
  let y := latest.getD 14 0
  let s := rotate 17 x ^^^ rotate 19 x ^^^ (x >>> 10)
  let t := rotate 7 y ^^^ rotate 18 y ^^^ (y >>> 3)
  s + latest.getD 6 0 + t + latest.getD 15 0

/- Add `n` words to a block, the latest one first. -/
def stretch : Nat → List UInt32 → List UInt32
  | 0, latest => latest
  | n + 1, latest => stretch n (nextWord latest :: latest)

/- One round, with its word and its constant. -/
def round
    (s : State)
    (wk : UInt32 × UInt32) : State :=
  let s1 := rotate 6 s.e ^^^ rotate 11 s.e ^^^ rotate 25 s.e
  let choice := (s.e &&& s.f) ^^^ (~~~s.e &&& s.g)
  let t1 := s.h + s1 + choice + wk.2 + wk.1
  let s0 := rotate 2 s.a ^^^ rotate 13 s.a ^^^ rotate 22 s.a
  let majority :=
    (s.a &&& s.b) ^^^ (s.a &&& s.c) ^^^ (s.b &&& s.c)
  ⟨t1 + (s0 + majority), s.a, s.b, s.c, s.d + t1, s.e, s.f, s.g⟩

/- The sum of two states, word by word. -/
def State.add (s t : State) : State :=
  ⟨s.a + t.a, s.b + t.b, s.c + t.c, s.d + t.d,
   s.e + t.e, s.f + t.f, s.g + t.g, s.h + t.h⟩

/- Mix the sixteen words of a block into a state. -/
def compress
    (s : State)
    (block : List UInt32) : State :=
  let ws := (stretch 48 block.reverse).reverse
  s.add ((ws.zip roundConstants).foldl round s)

/- Mix `n` blocks into a state. -/
def compressAll : Nat → State → List UInt32 → State
  | 0, s, _ => s
  | n + 1, s, ws =>
      compressAll n (compress s (ws.take 16)) (ws.drop 16)

/- The bytes of a state. -/
def State.bytes (s : State) : List UInt8 :=
  [s.a, s.b, s.c, s.d, s.e, s.f, s.g, s.h].flatMap
    Sha256.bytes

/- The hash of a message. -/
def hash (m : List UInt8) : List UInt8 :=
  let ws := words (pad m)
  (compressAll (ws.length / 16) .first ws).bytes

/- A hash has 32 bytes. -/
theorem length_hash (m : List UInt8) :
    (hash m).length = 32 := by
  simp [hash, State.bytes, bytes]

end Sha256

end LightningGateway.Crypto
