import LightningGateway.Payment.Error
import LightningGateway.Payment.Status

/-
  What a wallet answers to its host.

  No operation of a wallet raises an error: whatever goes wrong
  becomes the wording of an answer.

  Key definitions include:
    * `BalanceAnswer`
    * `InvoiceAnswer`
    * `PaymentAnswer`
-/

namespace LightningGateway.Payment

------------------------------------------------------------
-- Balances
------------------------------------------------------------

/- A balance, which means nothing beside an error message. -/
structure BalanceAnswer where
  errorMessage : Option String
  balance : Msat
  deriving DecidableEq

namespace BalanceAnswer

/- A known balance. -/
def known (balance : Msat) : BalanceAnswer :=
  ⟨none, balance⟩

/- No balance, and why. -/
def failed (message : String) : BalanceAnswer :=
  ⟨some message, .zero⟩

/- The answer that reports an error. -/
def ofError (e : GatewayError) : BalanceAnswer :=
  .failed e.message

/- The answer of a query that may have failed. -/
def ofExcept : Except GatewayError BalanceAnswer → BalanceAnswer
  | .ok a => a
  | .error e => .ofError e

end BalanceAnswer

------------------------------------------------------------
-- Invoices
------------------------------------------------------------

/- A new invoice with the id that later lookups use, or a failure. -/
inductive InvoiceAnswer where
  | success (checkingId paymentRequest : String)
  | failed (errorMessage : String)
  deriving DecidableEq

namespace InvoiceAnswer

/- The answer that reports an error. -/
def ofError (e : GatewayError) : InvoiceAnswer :=
  .failed e.message

/- The answer of a submission that may have failed. -/
def ofExcept : Except GatewayError InvoiceAnswer → InvoiceAnswer
  | .ok a => a
  | .error e => .ofError e

/- Whether there is an invoice. -/
def isSuccess : InvoiceAnswer → Bool
  | .success _ _ => true
  | .failed _ => false

/- The id of the invoice. -/
def checkingId? : InvoiceAnswer → Option String
  | .success id _ => some id
  | .failed _ => none

/- What went wrong. -/
def errorMessage? : InvoiceAnswer → Option String
  | .success _ _ => none
  | .failed message => some message

end InvoiceAnswer

------------------------------------------------------------
-- Payments
------------------------------------------------------------

/-
  A payment that was sent, or a failure.  The fee is zero while
  the provider has not reported it.
-/
inductive PaymentAnswer where
  | success
      (checkingId : String)
      (fee : Msat)
      (preimage : Option String)
  | failed (errorMessage : String)
  deriving DecidableEq

namespace PaymentAnswer

/- The answer that reports an error. -/
def ofError (e : GatewayError) : PaymentAnswer :=
  .failed e.message

/- The answer of a submission that may have failed. -/
def ofExcept : Except GatewayError PaymentAnswer → PaymentAnswer
  | .ok a => a
  | .error e => .ofError e

/- Whether a payment was sent. -/
def isSuccess : PaymentAnswer → Bool
  | .success _ _ _ => true
  | .failed _ => false

/- The id of the payment. -/
def checkingId? : PaymentAnswer → Option String
  | .success id _ _ => some id
  | .failed _ => none

/- What went wrong. -/
def errorMessage? : PaymentAnswer → Option String
  | .success _ _ _ => none
  | .failed message => some message

end PaymentAnswer

end LightningGateway.Payment
