import LightningGateway.Bolt11.Error
import LightningGateway.Crypto.Secp256k1

/-
  The fields of an invoice.

  Each field has a tag, a length and a content.  A field whose
  tag is not known, or whose content has not the length that
  its tag asks for, has no meaning and is kept as it is.

  A field with a meaning has one form in which it is written:
  numbers have no needless zeros, and bits that fill up bytes
  are zero.  It can be read in other forms too.

  Key definitions include:
    * `Field`
    * `Field.read`
    * `Field.readAll`
    * `Field.values`
-/

namespace LightningGateway.Bolt11

open Crypto

------------------------------------------------------------
-- Fields
------------------------------------------------------------

/- What a field says. -/
inductive Field where
  | paymentHash (bytes : List UInt8)
  | description (s : String)
  | descriptionHash (bytes : List UInt8)
  | payee (key : List UInt8)
  | paymentSecret (bytes : List UInt8)
  | metadata (bytes : List UInt8)
  | features (bits : Nat)
  -- In seconds.
  | expiry (seconds : Nat)
  -- In blocks.
  | finalDelay (blocks : Nat)
  -- An address to pay to outside the network.
  | fallback (version : Nat) (program : List UInt8)
  -- Steps of a route, each with its key and its fees.
  | route (steps : List UInt8)
  | unknown (tag : Nat) (content : List Nat)
  deriving DecidableEq, Repr

namespace Field

/- The place of a letter among the values; 0 for another one. -/
def tagOf (letter : Char) : Nat :=
  (Bech32.value? letter).getD 0

/- The tag of a field. -/
def tag : Field → Nat
  | .paymentHash _ => tagOf 'p'
  | .description _ => tagOf 'd'
  | .descriptionHash _ => tagOf 'h'
  | .payee _ => tagOf 'n'
  | .paymentSecret _ => tagOf 's'
  | .metadata _ => tagOf 'm'
  | .features _ => tagOf '9'
  | .expiry _ => tagOf 'x'
  | .finalDelay _ => tagOf 'c'
  | .fallback _ _ => tagOf 'f'
  | .route _ => tagOf 'r'
  | .unknown tag _ => tag

/- The content of a field, as it is written. -/
def content : Field → List Nat
  | .paymentHash bytes => Bech32.ofBytes bytes
  | .description s => Bech32.ofBytes (Text.Utf8.encode s)
  | .descriptionHash bytes => Bech32.ofBytes bytes
  | .payee key => Bech32.ofBytes key
  | .paymentSecret bytes => Bech32.ofBytes bytes
  | .metadata bytes => Bech32.ofBytes bytes
  | .features bits => Bech32.minimalValues bits
  | .expiry seconds => Bech32.minimalValues seconds
  | .finalDelay blocks => Bech32.minimalValues blocks
  | .fallback version program =>
      version :: Bech32.ofBytes program
  | .route steps => Bech32.ofBytes steps
  | .unknown _ content => content

/- A field as it is written: tag, length and content. -/
def values (f : Field) : List Nat :=
  let length := f.content.length
  f.tag :: length / 32 :: length % 32 :: f.content

------------------------------------------------------------
-- Reading
------------------------------------------------------------

/- The length of a content of 32 bytes. -/
def hashLength : Nat := 52

/- The length of a content of 33 bytes. -/
def keyLength : Nat := 53

/- Read a description. -/
def readDescription
    (content : List Nat) : Except InvoiceError Field :=
  match Text.Utf8.decode? (Bech32.bytes content) with
  | .ok s => .ok (.description s)
  | .error f => .error (.badDescription f)

/- Whether bytes are those of a key. -/
def isKey (bytes : List UInt8) : Bool :=
  (Secp256k1.Point.ofCompressed? bytes).isSome

/- Read the key of the payee. -/
def readPayee
    (content : List Nat) : Except InvoiceError Field :=
  let key := Bech32.bytes content
  if isKey key then .ok (.payee key) else .error .badKey

/- The first number that a word of 64 bits cannot hold. -/
def numberLimit : Nat := 18446744073709551616

/- Read a number, which has to fit a word. -/
def readNumber
    (make : Nat → Field)
    (content : List Nat) : Except InvoiceError Field :=
  let n := Bech32.number content
  if n < numberLimit then .ok (make n)
  else .error .integerOverflow

/- Read an address to pay to outside the network. -/
def readFallback :
    List Nat → Except InvoiceError Field
  | [] => .error .fieldsEnd
  | version :: rest =>
      let program := Bech32.bytes rest
      let length := program.length
      if version ≤ 16 then
        if length < 2 ∨ 40 < length then .error .badProgram
        else .ok (.fallback version program)
      else if version = 17 then
        if length = 20 then .ok (.fallback version program)
        else .error .badKeyHash
      else if version = 18 then
        if length = 20 then .ok (.fallback version program)
        else .error .badScriptHash
      else .ok (.unknown (tagOf 'f') (version :: rest))

/- How many bytes describe one step of a route. -/
def stepLength : Nat := 51

/- Whether each of `n` steps of a route begins with a key. -/
def areSteps : Nat → List UInt8 → Bool
  | 0, _ => true
  | n + 1, bytes =>
      isKey (bytes.take 33) && areSteps n (bytes.drop stepLength)

/- Read a route. -/
def readRoute
    (content : List Nat) : Except InvoiceError Field :=
  let steps := Bech32.bytes content
  if steps.length % stepLength ≠ 0 then .error .fieldsEnd
  else if areSteps (steps.length / stepLength) steps then
    .ok (.route steps)
  else .error .badKey

/- The length that the content of a letter has to have. -/
def lengthOf? (letter : Char) : Option Nat :=
  match letter with
  | 'p' => some hashLength
  | 'h' => some hashLength
  | 's' => some hashLength
  | 'n' => some keyLength
  | _ => none

/- Read a content by the letter of its tag. -/
def readContent
    (tag : Nat)
    (letter : Char)
    (content : List Nat) : Except InvoiceError Field :=
  match letter with
  | 'p' => .ok (.paymentHash (Bech32.bytes content))
  | 'd' => readDescription content
  | 'h' => .ok (.descriptionHash (Bech32.bytes content))
  | 'n' => readPayee content
  | 's' => .ok (.paymentSecret (Bech32.bytes content))
  | 'm' => .ok (.metadata (Bech32.bytes content))
  | '9' => .ok (.features (Bech32.number content))
  | 'x' => readNumber .expiry content
  | 'c' => readNumber .finalDelay content
  | 'f' => readFallback content
  | 'r' => readRoute content
  | _ => .ok (.unknown tag content)

/- Read a field by its tag. -/
def read
    (tag : Nat)
    (content : List Nat) : Except InvoiceError Field :=
  match Bech32.alphabet[tag]? with
  | none => .ok (.unknown tag content)
  | some letter =>
      if (lengthOf? letter).all (· == content.length) then
        readContent tag letter content
      else .ok (.unknown tag content)

/- Read all fields. -/
def readAll :
    List Nat → Except InvoiceError (List Field)
  | [] => .ok []
  | tag :: high :: low :: rest =>
      let length := 32 * high + low
      if rest.length < length then .error .fieldsEnd
      else
        match read tag (rest.take length) with
        | .error e => .error e
        | .ok f =>
            match readAll (rest.drop length) with
            | .error e => .error e
            | .ok fs => .ok (f :: fs)
  | _ => .error .fieldsEnd
  termination_by data => data.length
  decreasing_by
    rw [List.length_drop]
    simp only [List.length_cons]
    omega

end Field

end LightningGateway.Bolt11
