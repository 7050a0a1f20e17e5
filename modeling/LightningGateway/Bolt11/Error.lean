import LightningGateway.Bolt11.Bech32
import LightningGateway.Text.Utf8

/-
  Why a text is no invoice.

  Key definitions include:
    * `InvoiceError`
    * `InvoiceError.message`
-/

namespace LightningGateway.Bolt11

/- The causes, in the order in which a reader comes upon them. -/
inductive InvoiceError where
  -- The text is not in the form of characters.
  | bech32 (e : Bech32.Error)
  -- The data cannot hold a time and a signature.
  | shortData
  -- The readable part has the wrong form.
  | malformedPart
  | unknownUnit
  | unknownCurrency
  | hugeAmount
  | integerOverflow
  -- The fields have the wrong form.
  | fieldsEnd
  | badDescription (f : Text.Utf8.Fault)
  | badProgram
  | badKeyHash
  | badScriptHash
  | badKey
  -- The signature has the wrong form.
  | badRecovery
  | badSignature
  -- The fields are not those of an invoice.
  | noHash
  | manyHashes
  | noDescription
  | manyDescriptions
  | noSecret
  | manySecrets
  | badFeatures
  | wrongSignature
  | impreciseAmount
  deriving DecidableEq, Repr

namespace InvoiceError

/- The wording of a text that is not well formed. -/
def faultMessage (f : Text.Utf8.Fault) : String :=
  match f.length with
  | some n =>
      "invalid utf-8 sequence of " ++ toString n ++
        " bytes from index " ++ toString f.offset
  | none =>
      "incomplete utf-8 byte sequence from index " ++
        toString f.offset

/- The wording of a number or a point that is out of range. -/
def curveMessage (reason : String) : String :=
  "Invalid secp256k1 signature: " ++ reason

/- The wording of an error. -/
def message : InvoiceError → String
  | .bech32 e => "Invalid bech32: " ++ e.message
  | .shortData =>
      "data part too short (should be at least 111 bech32 " ++
        "chars long)"
  | .malformedPart => "malformed human readable part"
  | .unknownUnit => "unknown SI prefix"
  | .unknownCurrency => "currency code unknown"
  | .hugeAmount =>
      "Invalid amount in hrp (number too large to fit in " ++
        "target type)"
  | .integerOverflow =>
      "parsed integer doesn't fit into receiving type"
  | .fieldsEnd => "tagged fields part ended unexpectedly"
  | .badDescription f =>
      "Description is not a valid utf-8 string: " ++
        faultMessage f
  | .badProgram =>
      "fallback SegWit program is too long or too short"
  | .badKeyHash =>
      "fallback public key hash has a length unequal 20 bytes"
  | .badScriptHash =>
      "fallback script hash has a length unequal 32 bytes"
  | .badKey => curveMessage "malformed public key"
  | .badRecovery => curveMessage "bad recovery id"
  | .badSignature => curveMessage "malformed signature"
  | .noHash =>
      "The invoice is missing the mandatory payment hash"
  | .manyHashes =>
      "The invoice has multiple payment hashes which isn't " ++
        "allowed"
  | .noDescription =>
      "No description or description hash are part of the " ++
        "invoice"
  | .manyDescriptions =>
      "The invoice contains multiple descriptions and/or " ++
        "description hashes which isn't allowed"
  | .noSecret =>
      "The invoice is missing the mandatory payment secret"
  | .manySecrets =>
      "The invoice contains multiple payment secrets"
  | .badFeatures => "The invoice's features are invalid"
  | .wrongSignature => "The invoice's signature is invalid"
  | .impreciseAmount =>
      "The invoice's amount was not a whole number of " ++
        "millisatoshis"

end InvoiceError

end LightningGateway.Bolt11
