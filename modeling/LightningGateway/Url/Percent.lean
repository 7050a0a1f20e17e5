import LightningGateway.Text.Hex
import LightningGateway.Text.Utf8

/-
  Percent encoding.

  A character that is not allowed in a part of a URL is written
  as the bytes of its UTF-8 form, each as a percent sign and
  two upper case digits.

  Key definitions include:
    * `Percent.encode`
    * `Percent.decode`
    * `Percent.inPath`, `Percent.inQuery`, `Percent.inFragment`,
      `Percent.inUserinfo`
-/

namespace LightningGateway.Url

namespace Percent

------------------------------------------------------------
-- Sets of Characters
------------------------------------------------------------

/- Control characters and everything outside ASCII. -/
def isControl (c : Char) : Bool :=
  c.toNat < 0x20 || 0x7E < c.toNat

/- What is encoded in a fragment. -/
def inFragment (c : Char) : Bool :=
  isControl c || c == ' ' || c == '"' || c == '<' || c == '>' ||
    c.toNat == 0x60

/- What is encoded in a path. -/
def inPath (c : Char) : Bool :=
  inFragment c || c == '#' || c == '?' || c == '\x7b' ||
    c == '\x7d'

/- What is encoded in a user name or a password. -/
def inUserinfo (c : Char) : Bool :=
  inPath c || c == '/' || c == ':' || c == ';' || c == '=' ||
    c == '@' || c == '[' || c == '\\' || c == ']' ||
    c == '^' || c == '|'

/- What is encoded in a query; special URLs encode the quote too. -/
def inQuery
    (special : Bool)
    (c : Char) : Bool :=
  isControl c || c == ' ' || c == '"' || c == '#' || c == '<' ||
    c == '>' || (special && c.toNat == 0x27)

------------------------------------------------------------
-- Encoding
------------------------------------------------------------

/- An upper case digit. -/
def digit (n : Nat) : Char :=
  (Text.Hex.digit n).toUpper

/- A percent sign and the digits of a byte. -/
def byte (b : UInt8) : List Char :=
  ['%', digit (b.toNat / 16), digit (b.toNat % 16)]

/- A character, encoded if it is in the set. -/
def encodeChar
    (inSet : Char → Bool)
    (c : Char) : List Char :=
  if inSet c then (String.utf8EncodeChar c).flatMap byte
  else [c]

/- Encode the characters that are in the set. -/
def encode
    (inSet : Char → Bool)
    (cs : List Char) : List Char :=
  cs.flatMap (encodeChar inSet)

------------------------------------------------------------
-- Decoding
------------------------------------------------------------

/-
  The bytes that a text stands for.  A percent sign without two
  digits after it stands for itself.
-/
def decode : List Char → List UInt8
  | [] => []
  | '%' :: a :: b :: rest =>
      match Text.Hex.value? a, Text.Hex.value? b with
      | some hi, some lo =>
          UInt8.ofNat (16 * hi + lo) :: decode rest
      | _, _ => 0x25 :: decode (a :: b :: rest)
  | c :: rest => String.utf8EncodeChar c ++ decode rest

end Percent

end LightningGateway.Url
