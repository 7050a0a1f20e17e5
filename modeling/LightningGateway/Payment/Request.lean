import LightningGateway.Payment.Amount
import LightningGateway.Payment.Error

/-
  Requests for a new invoice.

  An invoice may commit to a description kept elsewhere, either
  by its hash or by the text that the provider is to hash.  It
  holds one commitment at most: a later one takes the place of
  an earlier one.

  Key definitions include:
    * `Commitment`
    * `InvoiceRequest`
    * `InvoiceRequest.amount`
-/

namespace LightningGateway.Payment

------------------------------------------------------------
-- Commitments
------------------------------------------------------------

/- A hash of 32 bytes. -/
structure Digest where
  bytes : List UInt8
  size : bytes.length = 32
  deriving DecidableEq

namespace Digest

/- The hash of a list of 32 bytes. -/
def ofBytes? (bytes : List UInt8) : Option Digest :=
  if h : bytes.length = 32 then some ⟨bytes, h⟩ else none

end Digest

/- What an invoice commits to beside its memo. -/
inductive Commitment where
  | hash (d : Digest)
  | unhashed (bytes : List UInt8)
  deriving DecidableEq

------------------------------------------------------------
-- Requests
------------------------------------------------------------

/- A request for a new invoice. -/
structure InvoiceRequest where
  amountSat : UInt64
  memo : Option String
  commitment : Option Commitment
  expirySecs : Option UInt64
  deriving DecidableEq

namespace InvoiceRequest

/- A request for an amount, with nothing else. -/
def ofSat (amountSat : UInt64) : InvoiceRequest :=
  ⟨amountSat, none, none, none⟩

/- Set the memo. -/
def withMemo
    (r : InvoiceRequest)
    (memo : String) : InvoiceRequest :=
  { r with memo := some memo }

/- Commit to a description by its hash. -/
def withHash
    (r : InvoiceRequest)
    (d : Digest) : InvoiceRequest :=
  { r with commitment := some (.hash d) }

/- Commit to a description that the provider is to hash. -/
def withUnhashed
    (r : InvoiceRequest)
    (bytes : List UInt8) : InvoiceRequest :=
  { r with commitment := some (.unhashed bytes) }

/- Set the time after which the invoice expires. -/
def withExpiry
    (r : InvoiceRequest)
    (secs : UInt64) : InvoiceRequest :=
  { r with expirySecs := some secs }

/- The memo, empty if there is none. -/
def memoText (r : InvoiceRequest) : String :=
  r.memo.getD ""

/- The amount asked for, unless it is too large. -/
def amount (r : InvoiceRequest) : Except GatewayError Msat :=
  match Msat.ofSat? r.amountSat.toNat with
  | some a => .ok a
  | none =>
      .error (.invalidInvoice
        (toString r.amountSat.toNat ++ " sat is out of range"))

end InvoiceRequest

end LightningGateway.Payment
