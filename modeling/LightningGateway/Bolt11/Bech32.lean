/-
  Bech32: a readable part and data of five bits a character,
  with a checksum.

  The last `1` separates the readable part from the data.
  Letters are of one case throughout.  The checksum is the
  remainder of a polynomial over the field of 32 elements.

  Key definitions include:
    * `Bech32.Error`
    * `Bech32.residue`
    * `Bech32.decode`
    * `Bech32.bytes`
    * `Bech32.ofBytes`
-/

namespace LightningGateway.Bolt11

namespace Bech32

------------------------------------------------------------
-- Errors
------------------------------------------------------------

/- Why a text is not in the form. -/
inductive Error where
  | badCharacter (c : Char)
  | mixedCase
  | noSeparator
  | emptyPart
  | longPart (bytes : Nat)
  | foreignCharacter (c : Char)
  | badByte (b : Nat)
  | longText (length : Nat)
  | shortData
  | badChecksum
  deriving DecidableEq, Repr

/- How long a text may be. -/
def longestText : Nat := 7089

namespace Error

/- The wording of an error in the readable part. -/
def partMessage (reason : String) : String :=
  "parse failed: invalid human-readable part: " ++ reason

/- The wording of an error in the characters. -/
def characterMessage (reason : String) : String :=
  "parse failed: character error: " ++ reason

/- The wording of an error in the checksum. -/
def checksumMessage (reason : String) : String :=
  "invalid checksum: " ++ reason

/- The wording of an error. -/
def message : Error → String
  | .badCharacter c =>
      characterMessage
        ("invalid character (code=" ++ String.singleton c ++ ")")
  | .mixedCase =>
      characterMessage "mixed-case strings not allowed"
  | .noSeparator =>
      characterMessage
        "missing human-readable separator, \"1\""
  | .emptyPart =>
      partMessage "hrp is empty, must have at least 1 character"
  | .longPart bytes =>
      partMessage
        ("hrp is too long, found " ++ toString bytes ++
          " characters, must be <= 126")
  | .foreignCharacter c =>
      partMessage
        ("found non-ASCII character: " ++ String.singleton c)
  | .badByte b =>
      partMessage
        ("byte value is not valid US-ASCII: '" ++
          String.ofList (Nat.toDigits 16 b) ++ "'")
  | .longText length =>
      checksumMessage
        ("string exceeds maximum allowed length: encoded length " ++
          toString length ++ " exceeds maximum (code length) " ++
          toString longestText)
  | .shortData =>
      checksumMessage "the checksummed string is not a valid length"
  | .badChecksum =>
      checksumMessage
        "the checksum residue is not valid for the data"

end Error

------------------------------------------------------------
-- Characters
------------------------------------------------------------

/- The characters of the 32 values, in order. -/
def alphabet : List Char :=
  "qpzry9x8gf2tvdw0s3jn54khce6mua7l".toList

/- The value of a character, in either case. -/
def value? (c : Char) : Option Nat :=
  alphabet.findIdx? (· == c.toLower)

/- The first character that has no value. -/
def firstBad? : List Char → Option Char
  | [] => none
  | c :: rest =>
      if (value? c).isSome then firstBad? rest else some c

/- Whether letters of both cases occur. -/
def isMixed (cs : List Char) : Bool :=
  cs.any Char.isUpper && cs.any Char.isLower

/- What stands between the readable part and the data. -/
def separator : Char := '1'

------------------------------------------------------------
-- The Checksum
------------------------------------------------------------

/- What a carry out of the top adds, for each of its five bits. -/
def generators : List Nat :=
  [0x3b6a57b2, 0x26508e6d, 0x1ea119fa, 0x3d4233dd, 0x2a1462b3]

/- What the top five of the thirty bits of a remainder count. -/
def checksumTop : Nat := 33554432

/- Take one more value into the remainder. -/
def absorb (chk v : Nat) : Nat :=
  let top := chk / checksumTop
  let low := (chk % checksumTop) * 32 ^^^ v
  (generators.zipIdx).foldl
    (fun chk g => if top.testBit g.2 then chk ^^^ g.1 else chk)
    low

/- The values that stand for the readable part. -/
def expand (cs : List Char) : List Nat :=
  (cs.map fun c => c.toLower.toNat / 32) ++ 0 ::
    (cs.map fun c => c.toLower.toNat % 32)

/- The remainder of a readable part and its data. -/
def residue
    (part : List Char)
    (data : List Nat) : Nat :=
  (expand part ++ data).foldl absorb 1

/- How many values the checksum takes. -/
def checksumLength : Nat := 6

------------------------------------------------------------
-- Reading
------------------------------------------------------------

/- A readable part and the values after it, without checksum. -/
structure Decoded where
  part : List Char
  data : List Nat
  deriving DecidableEq, Repr

/- How long a readable part may be. -/
def longestPart : Nat := 83

/- The first fault of the characters of a readable part. -/
def partFault? : List Char → Option Error
  | [] => none
  | c :: rest =>
      if 0x7F < c.toNat then some (.foreignCharacter c)
      else if c.toNat < 33 ∨ 126 < c.toNat then
        some (.badByte c.toNat)
      else partFault? rest

/- Check a readable part. -/
def checkPart (part : List Char) : Except Error Unit :=
  let bytes := (String.ofList part).utf8ByteSize
  if part.isEmpty then .error .emptyPart
  else if bytes > longestPart then .error (.longPart bytes)
  else
    match partFault? part with
    | some e => .error e
    | none => .ok ()

/- Cut a text at its last separator; the data is checked first. -/
def split
    (cs : List Char) : Except Error (List Char × List Char) :=
  let back := cs.reverse
  let data := back.takeWhile (· != separator)
  match firstBad? data with
  | some c => .error (.badCharacter c)
  | none =>
      if isMixed cs then .error .mixedCase
      else
        match back.dropWhile (· != separator) with
        | [] => .error .noSeparator
        | _ :: part => .ok (part.reverse, data.reverse)

/- Read a text. -/
def decode (cs : List Char) : Except Error Decoded := do
  let (part, text) ← split cs
  checkPart part
  if longestText < cs.length then throw (.longText cs.length)
  let data := text.filterMap value?
  if data.length < checksumLength then throw .shortData
  if residue part data ≠ 1 then throw .badChecksum
  return ⟨part, data.take (data.length - checksumLength)⟩

------------------------------------------------------------
-- Bits
------------------------------------------------------------

/- The number that values spell, the first one highest. -/
def number (vs : List Nat) : Nat :=
  vs.foldl (fun n v => 32 * n + v) 0

/- `count` bytes of a number, the highest one first. -/
def bytesOf (n : Nat) : Nat → List UInt8
  | 0 => []
  | count + 1 =>
      UInt8.ofNat (n / Nat.pow 256 count % 256) :: bytesOf n count

/- The whole bytes that values spell; bits left over are dropped. -/
def bytes (vs : List Nat) : List UInt8 :=
  let bits := 5 * vs.length
  bytesOf (number vs / Nat.pow 2 (bits % 8)) (bits / 8)

/- `count` values of a number, the highest one first. -/
def valuesOf (n : Nat) : Nat → List Nat
  | 0 => []
  | count + 1 =>
      n / Nat.pow 32 count % 32 :: valuesOf n count

/- The values of a number, as few as can spell it. -/
def minimalValues (n : Nat) : List Nat :=
  if n = 0 then [] else valuesOf n (n.log2 / 5 + 1)

/- The values that spell bytes, filled up with zero bits. -/
def ofBytes (bytes : List UInt8) : List Nat :=
  let n := bytes.foldl (fun n b => 256 * n + b.toNat) 0
  let bits := 8 * bytes.length
  let missing := (5 - bits % 5) % 5
  valuesOf (n * Nat.pow 2 missing) ((bits + missing) / 5)

/- The bytes that values spell, filled up with zeros. -/
def paddedBytes (vs : List Nat) : List UInt8 :=
  let bits := 5 * vs.length
  let missing := (8 - bits % 8) % 8
  bytesOf (number vs * Nat.pow 2 missing) ((bits + missing) / 8)

end Bech32

end LightningGateway.Bolt11
