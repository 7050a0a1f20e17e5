/-
  The UTF-8 encoding of text.

  Decoding is a machine that reads one byte at a time.  What
  it holds between bytes is the unfinished character: how many
  continuation bytes are owed, which range the next one must
  lie in, and the bits read so far.  A byte that cannot
  continue the unfinished character ends it and is read again
  from the start, so every maximal ill-formed piece is replaced
  by one U+FFFD.

  Key definitions include:
    * `Utf8.encode`
    * `Utf8.decode`
    * `Utf8.fault?`
-/

namespace LightningGateway.Text

namespace Utf8

------------------------------------------------------------
-- Encoding
------------------------------------------------------------

/- The bytes of a list of characters. -/
def encodeChars (cs : List Char) : List UInt8 :=
  cs.flatMap String.utf8EncodeChar

/- The bytes of a text. -/
def encode (s : String) : List UInt8 :=
  encodeChars s.toList

------------------------------------------------------------
-- The Unfinished Character
------------------------------------------------------------

/- A character of which some bytes are still owed. -/
structure Unfinished where
  owed : Nat
  low : Nat
  high : Nat
  bits : Nat
  seen : Nat
  deriving DecidableEq, Repr

/- What the first byte of a character says. -/
inductive Lead where
  | whole (c : Char)
  | more (u : Unfinished)
  | bad
  deriving DecidableEq, Repr

/-
  The first byte fixes the length of a character and narrows
  its second byte, so that overlong forms, surrogates and
  values above U+10FFFF never arise.
-/
def lead (b : UInt8) : Lead :=
  let n := b.toNat
  if n < 0x80 then .whole (Char.ofNat n)
  else if n < 0xC2 then .bad
  else if n < 0xE0 then .more ⟨1, 0x80, 0xBF, n % 32, 1⟩
  else if n = 0xE0 then .more ⟨2, 0xA0, 0xBF, 0, 1⟩
  else if n = 0xED then .more ⟨2, 0x80, 0x9F, 13, 1⟩
  else if n < 0xF0 then .more ⟨2, 0x80, 0xBF, n % 16, 1⟩
  else if n = 0xF0 then .more ⟨3, 0x90, 0xBF, 0, 1⟩
  else if n < 0xF4 then .more ⟨3, 0x80, 0xBF, n % 8, 1⟩
  else if n = 0xF4 then .more ⟨3, 0x80, 0x8F, 4, 1⟩
  else .bad

/- Whether a byte continues the unfinished character. -/
def Unfinished.accepts
    (u : Unfinished)
    (b : UInt8) : Bool :=
  u.low ≤ b.toNat && b.toNat ≤ u.high

/- The unfinished character after a continuation byte. -/
def Unfinished.push
    (u : Unfinished)
    (b : UInt8) : Lead :=
  let bits := 64 * u.bits + b.toNat % 64
  if u.owed ≤ 1 then .whole (Char.ofNat bits)
  else .more ⟨u.owed - 1, 0x80, 0xBF, bits, u.seen + 1⟩

------------------------------------------------------------
-- Decoding
------------------------------------------------------------

/- The character that stands for an ill-formed piece. -/
def replacement : Char := '\uFFFD'

/-
  Decode the bytes that follow an unfinished character, or that
  start a new one.
-/
def decodeFrom :
    Option Unfinished → List UInt8 → List Char
  | none, [] => []
  | some _, [] => [replacement]
  | none, b :: rest =>
      match lead b with
      | .whole c => c :: decodeFrom none rest
      | .more u => decodeFrom (some u) rest
      | .bad => replacement :: decodeFrom none rest
  | some u, b :: rest =>
      if u.accepts b then
        match u.push b with
        | .whole c => c :: decodeFrom none rest
        | .more u => decodeFrom (some u) rest
        | .bad => replacement :: decodeFrom none rest
      else
        replacement ::
          match lead b with
          | .whole c => c :: decodeFrom none rest
          | .more u => decodeFrom (some u) rest
          | .bad => replacement :: decodeFrom none rest

/- Decode bytes, replacing what is ill-formed. -/
def decode (bytes : List UInt8) : String :=
  String.ofList (decodeFrom none bytes)

------------------------------------------------------------
-- The First Fault
------------------------------------------------------------

/-
  Where well-formed text ends: the offset of the first bad
  character, and the length of its ill-formed piece unless the
  bytes just stopped inside it.
-/
structure Fault where
  offset : Nat
  length : Option Nat
  deriving DecidableEq, Repr

/-
  The first fault of the bytes from `offset` on; `offset` is
  where the unfinished character, if any, began.
-/
def faultFrom :
    Option Unfinished → Nat → List UInt8 → Option Fault
  | none, _, [] => none
  | some _, offset, [] => some ⟨offset, none⟩
  | none, offset, b :: rest =>
      match lead b with
      | .whole _ => faultFrom none (offset + 1) rest
      | .more u => faultFrom (some u) offset rest
      | .bad => some ⟨offset, some 1⟩
  | some u, offset, b :: rest =>
      if u.accepts b then
        match u.push b with
        | .whole _ =>
            faultFrom none (offset + u.seen + 1) rest
        | .more u => faultFrom (some u) offset rest
        | .bad => some ⟨offset, some u.seen⟩
      else some ⟨offset, some u.seen⟩

/- The first fault of a list of bytes, if it has one. -/
def fault? (bytes : List UInt8) : Option Fault :=
  faultFrom none 0 bytes

/- The text of well-formed bytes. -/
def decode? (bytes : List UInt8) : Except Fault String :=
  match fault? bytes with
  | some f => .error f
  | none => .ok (decode bytes)

end Utf8

end LightningGateway.Text
