import LightningGateway.Bolt11.Amount
import LightningGateway.Bolt11.Field
import LightningGateway.Crypto.Sha256
import LightningGateway.Payment.Error
import LightningGateway.Text.Blank
import LightningGateway.Text.Hex

/-
  Invoices of the Lightning network.

  An invoice is read in three steps: its parts are read, the
  fields are counted, and the signature is checked against the
  key of the payee, which is either given or found from the
  signature itself.  The signature is about the parts in the
  form in which they are written, and not about the form in
  which they were read.

  Key definitions include:
    * `Invoice`
    * `Invoice.parse`
    * `Invoice.paymentHashOf`
    * `Invoice.amountOf`
-/

namespace LightningGateway.Bolt11

open Crypto Payment

------------------------------------------------------------
-- Parts
------------------------------------------------------------

/- What an invoice consists of, before it is checked. -/
structure RawInvoice where
  head : Head
  -- The time of creation, in seconds.
  time : Nat
  fields : List Field
  signature : Secp256k1.Signature
  deriving DecidableEq, Repr

/- What a payer needs of an invoice. -/
structure Invoice where
  paymentHash : List UInt8
  -- In thousandths of a satoshi.
  amount : Option Nat
  deriving DecidableEq, Repr

/- The length of a signature, in values of five bits. -/
def signatureLength : Nat := 104

/- The length of the time of creation. -/
def timeLength : Nat := 7

/- Read a signature of 65 bytes. -/
def readSignature
    (data : List Nat) : Except InvoiceError Secp256k1.Signature :=
  let bytes := Bech32.bytes data
  let r := Secp256k1.ofBytes (bytes.take 32)
  let s := Secp256k1.ofBytes ((bytes.drop 32).take 32)
  let recovery := Secp256k1.ofBytes (bytes.drop 64)
  if 3 < recovery then .error .badRecovery
  else if r < Secp256k1.groupOrder ∧ s < Secp256k1.groupOrder then
    .ok ⟨r, s, recovery⟩
  else .error .badSignature

/- The bytes of a list of ASCII characters. -/
def asciiBytes (cs : List Char) : List UInt8 :=
  cs.map fun c => UInt8.ofNat c.toNat

namespace RawInvoice

/- Read the parts of an invoice. -/
def parse (cs : List Char) : Except InvoiceError RawInvoice := do
  let d ← (Bech32.decode cs).mapError .bech32
  if d.data.length < signatureLength then throw .shortData
  let count := d.data.length - signatureLength
  let signed := d.data.take count
  let head ← Head.parse (d.part.map Char.toLower)
  if signed.length < timeLength then throw .shortData
  let time := Bech32.number (signed.take timeLength)
  let fields ← Field.readAll (signed.drop timeLength)
  let signature ← readSignature (d.data.drop count)
  return ⟨head, time, fields, signature⟩

/- The values that are signed, as they are written. -/
def signedValues (r : RawInvoice) : List Nat :=
  Bech32.valuesOf r.time timeLength ++
    r.fields.flatMap Field.values

/- What the signature is about. -/
def hash (r : RawInvoice) : List UInt8 :=
  Sha256.hash
    (asciiBytes r.head.chars ++
      Bech32.paddedBytes r.signedValues)

------------------------------------------------------------
-- Checks
------------------------------------------------------------

/- The payment hashes that are given. -/
def paymentHashes (r : RawInvoice) : List (List UInt8) :=
  r.fields.filterMap fun
    | .paymentHash b => some b
    | _ => none

/- How many descriptions and hashes of descriptions are given. -/
def descriptionCount (r : RawInvoice) : Nat :=
  r.fields.countP fun
    | .description _ => true
    | .descriptionHash _ => true
    | _ => false

/- How many payment secrets are given. -/
def secretCount (r : RawInvoice) : Nat :=
  r.fields.countP fun
    | .paymentSecret _ => true
    | _ => false

/- The features that are given first. -/
def features? (r : RawInvoice) : Option Nat :=
  r.fields.findSome? fun
    | .features bits => some bits
    | _ => none

/- The key of the payee that is given first. -/
def payee? (r : RawInvoice) : Option Secp256k1.Point :=
  r.fields.findSome? fun
    | .payee key => Secp256k1.Point.ofCompressed? key
    | _ => none

/- The features that a payer has to know and does, by bit. -/
def knownFeatures : List Nat := [8, 14, 16, 48, 56]

/- The bit that asks for payment secrets; the next one offers them. -/
def secretFeature : Nat := 14

/- Whether no feature is asked for that is not known. -/
def noneUnknown (bits : Nat) : Bool :=
  (List.range (bits.log2 + 1)).all fun i =>
    !bits.testBit i || i % 2 == 1 || knownFeatures.contains i

/- Whether a payer can deal with the features. -/
def featuresOk (r : RawInvoice) : Bool :=
  match r.features? with
  | none => false
  | some bits =>
      noneUnknown bits &&
        (bits.testBit secretFeature ||
          bits.testBit (secretFeature + 1))

/- Whether the payee has signed the invoice. -/
def signatureOk (r : RawInvoice) : Bool :=
  match r.signature.recover? r.hash with
  | none => false
  | some key =>
      r.signature.verify r.hash (r.payee?.getD key)

/- An error unless there is exactly one. -/
def exactlyOne
    (count : Nat)
    (absent many : InvoiceError) : Except InvoiceError Unit :=
  if count = 0 then .error absent
  else if count = 1 then .ok ()
  else .error many

/- An error unless a check holds. -/
def ensure
    (b : Bool)
    (e : InvoiceError) : Except InvoiceError Unit :=
  if b then .ok () else .error e

/- Check an invoice. -/
def check (r : RawInvoice) : Except InvoiceError Invoice := do
  exactlyOne r.paymentHashes.length .noHash .manyHashes
  exactlyOne r.descriptionCount .noDescription .manyDescriptions
  exactlyOne r.secretCount .noSecret .manySecrets
  ensure r.featuresOk .badFeatures
  ensure r.signatureOk .wrongSignature
  let pico := r.head.pico?
  ensure (pico.all fun p => p % 10 == 0) .impreciseAmount
  return ⟨r.paymentHashes.headD [], pico.map (· / 10)⟩

end RawInvoice

------------------------------------------------------------
-- Invoices
------------------------------------------------------------

namespace Invoice

/- Read an invoice; blanks around it do not count. -/
def parse (s : String) : Except InvoiceError Invoice :=
  (RawInvoice.parse (Text.trimBlank s.toList)).bind
    RawInvoice.check

/- An invoice, or the error that a wallet reports. -/
def read (s : String) : Except GatewayError Invoice :=
  (parse s).mapError fun e => .invalidInvoice e.message

/- The payment hash of an invoice, in hexadecimal. -/
def paymentHashOf (s : String) : Except GatewayError String :=
  (read s).map fun i => Text.Hex.encode i.paymentHash

/- The amount of an invoice, if it names one. -/
def amountOf (s : String) : Except GatewayError (Option Nat) :=
  (read s).map Invoice.amount

end Invoice

end LightningGateway.Bolt11
