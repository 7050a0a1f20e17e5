import LightningGateway.Text.Blank
import LightningGateway.Text.Utf8

/-
  The character encodings of bodies.

  A byte order mark at the beginning of the bytes tells their
  encoding and is no part of the text.  Without one the
  encoding is the one that a label names, where an unknown
  label means UTF-8.  What is ill-formed is replaced.

  Key definitions include:
    * `Charset`
    * `Charset.ofLabel?`
    * `Charset.ofMark?`
    * `Charset.ofContentType`
    * `Charset.decodeBody`
-/

namespace LightningGateway.Text

/- An encoding of text. -/
inductive Charset where
  | utf8
  | utf16le
  | utf16be
  | windows1252
  deriving DecidableEq, Repr

namespace Charset

------------------------------------------------------------
-- Labels and Marks
------------------------------------------------------------

/- The labels of UTF-8. -/
def utf8Labels : List String :=
  ["unicode-1-1-utf-8", "unicode11utf8", "unicode20utf8",
   "utf-8", "utf8", "x-unicode20utf8"]

/- The labels of UTF-16, the low byte first. -/
def utf16leLabels : List String :=
  ["csunicode", "iso-10646-ucs-2", "ucs-2", "unicode",
   "unicodefeff", "utf-16", "utf-16le"]

/- The labels of UTF-16, the high byte first. -/
def utf16beLabels : List String :=
  ["unicodefffe", "utf-16be"]

/- The labels of the Western encoding of one byte. -/
def windows1252Labels : List String :=
  ["ansi_x3.4-1968", "ascii", "cp1252", "cp819", "csisolatin1",
   "ibm819", "iso-8859-1", "iso-ir-100", "iso8859-1",
   "iso88591", "iso_8859-1", "iso_8859-1:1987", "l1", "latin1",
   "us-ascii", "windows-1252", "x-cp1252"]

/- The encoding that a label names, in any case. -/
def ofLabel? (label : List Char) : Option Charset :=
  let name :=
    String.ofList ((trimBlank label).map Char.toLower)
  if utf8Labels.contains name then some .utf8
  else if utf16leLabels.contains name then some .utf16le
  else if utf16beLabels.contains name then some .utf16be
  else if windows1252Labels.contains name then some .windows1252
  else none

/- The encoding that a byte order mark tells, and the other bytes. -/
def ofMark? :
    List UInt8 → Option (Charset × List UInt8)
  | 0xEF :: 0xBB :: 0xBF :: rest => some (.utf8, rest)
  | 0xFF :: 0xFE :: rest => some (.utf16le, rest)
  | 0xFE :: 0xFF :: rest => some (.utf16be, rest)
  | _ => none

/- Cut a text at every semicolon. -/
def fields : List Char → List (List Char)
  | [] => [[]]
  | c :: rest =>
      match fields rest with
      | f :: fs =>
          if c = ';' then [] :: f :: fs else (c :: f) :: fs
      | [] => [[c]]

/- The value of a field that gives a charset. -/
def label? (field : List Char) : Option (List Char) :=
  let field := trimBlank field
  let name := field.takeWhile (· != '=')
  if name.map Char.toLower = "charset".toList then
    match field.dropWhile (· != '=') with
    | _ :: value => some (value.filter (· != '"'))
    | [] => none
  else none

/- The encoding that a content type asks for. -/
def ofContentType (contentType : String) : Charset :=
  let label := (fields contentType.toList).findSome? label?
  (label.bind ofLabel?).getD .utf8

------------------------------------------------------------
-- Decoding
------------------------------------------------------------

/- The 16-bit units of bytes; `none` stands for half a unit. -/
def units
    (join : UInt8 → UInt8 → Nat) :
    List UInt8 → List (Option Nat)
  | a :: b :: rest => some (join a b) :: units join rest
  | [_] => [none]
  | [] => []

/- Whether a unit is the first half of a pair. -/
def isHigh (n : Nat) : Bool := 0xD800 ≤ n && n < 0xDC00

/- Whether a unit is the second half of a pair. -/
def isLow (n : Nat) : Bool := 0xDC00 ≤ n && n < 0xE000

/- The characters of units; halves without partner are replaced. -/
def ofUnits : List (Option Nat) → List Char
  | [] => []
  | some a :: some b :: rest =>
      if isHigh a && isLow b then
        Char.ofNat
          (0x10000 + (a - 0xD800) * 0x400 + (b - 0xDC00)) ::
          ofUnits rest
      else if isHigh a || isLow a then
        Utf8.replacement :: ofUnits (some b :: rest)
      else Char.ofNat a :: ofUnits (some b :: rest)
  | some a :: rest =>
      if isHigh a || isLow a then
        Utf8.replacement :: ofUnits rest
      else Char.ofNat a :: ofUnits rest
  | none :: rest => Utf8.replacement :: ofUnits rest

/- The code points of the bytes from 128 to 159. -/
def windows1252Points : List Nat :=
  [0x20AC, 0x81, 0x201A, 0x192, 0x201E, 0x2026, 0x2020, 0x2021,
   0x2C6, 0x2030, 0x160, 0x2039, 0x152, 0x8D, 0x17D, 0x8F,
   0x90, 0x2018, 0x2019, 0x201C, 0x201D, 0x2022, 0x2013, 0x2014,
   0x2DC, 0x2122, 0x161, 0x203A, 0x153, 0x9D, 0x17E, 0x178]

/- The character of a byte in the Western encoding. -/
def windows1252Char (b : UInt8) : Char :=
  let n := b.toNat
  if n < 128 then Char.ofNat n
  else Char.ofNat ((windows1252Points[n - 128]?).getD n)

/- The text of bytes. -/
def decode
    (c : Charset)
    (bytes : List UInt8) : String :=
  match c with
  | .utf8 => Utf8.decode bytes
  | .utf16le =>
      String.ofList
        (ofUnits (units (fun a b => a.toNat + 256 * b.toNat)
          bytes))
  | .utf16be =>
      String.ofList
        (ofUnits (units (fun a b => 256 * a.toNat + b.toNat)
          bytes))
  | .windows1252 => String.ofList (bytes.map windows1252Char)

/- The text of a body with its content type. -/
def decodeBody
    (contentType : String)
    (bytes : List UInt8) : String :=
  match ofMark? bytes with
  | some (c, rest) => c.decode rest
  | none => (ofContentType contentType).decode bytes

end Charset

end LightningGateway.Text
