import LightningGateway.Backend.Credentials
import LightningGateway.Bolt11.Invoice
import LightningGateway.Payment.Request
import LightningGateway.Payment.Wire
import LightningGateway.Provider.Dialogue
import LightningGateway.Relay
import LightningGateway.Settings.Basic

/-
  Wallets at the ZBD service.

  The service wraps its answers in an envelope, writes amounts
  as numbers or as text, and reports what a payment has cost as
  a positive fee.  Its invoices commit to no description.  It
  does not tell the hash of a payment, which is therefore read
  from the invoice before anything is sent.

  Key definitions include:
    * `Zbd`
    * `Zbd.build`
    * `Zbd.balance`, `Zbd.createInvoice`, `Zbd.payInvoice`
    * `Zbd.invoiceStatus`, `Zbd.paymentStatus`
-/

namespace LightningGateway.Backend

open Payment Provider Settings

/- A wallet at the ZBD service. -/
structure Zbd where
  client : Client
  relay : Relay.RelayQueue
  deriving DecidableEq, Repr

namespace Zbd

------------------------------------------------------------
-- Building
------------------------------------------------------------

/- The name of the wallet. -/
def walletName : String := "ZBDWallet"

/- The field in which the service explains errors. -/
def errorField : String := "message"

/- Seconds that a balance may take. -/
def balanceLimit : Nat := 10

/- Seconds after which an invoice expires if none are set. -/
def defaultExpiry : UInt64 := 3600

/- The words by which the service reports states. -/
def statusTable : StatusTable String :=
  ⟨["completed", "paid"], ["failed", "expired"],
   ["initial", "pending", "error", "unpaid"]⟩

/- The wallet that the settings describe. -/
def build
    (s : ZbdSettings)
    (f : FundingSettings) : Except GatewayError Zbd := do
  let endpoint ← required walletName "zbd_api_endpoint"
    [s.endpoint]
  let apiKey ← required walletName "zbd_api_key" [s.apiKey]
  let client ← Client.build walletName endpoint f.userAgent
    "apikey" apiKey
  return ⟨client, .ofCapacity f.relayCapacity.toNat⟩

------------------------------------------------------------
-- Amounts and Envelopes
------------------------------------------------------------

/- An amount as the service writes it. -/
inductive WrittenAmount where
  | number (a : Msat)
  | text (s : String)
  deriving DecidableEq

namespace WrittenAmount

/- The written amount of a number or a text. -/
def ofJson? (t : Json.Tree) : Option WrittenAmount :=
  match t with
  | .text s => s.map .text
  | t => (Msat.ofJson? t).map .number

/- The amount, if it can be read. -/
def value? : WrittenAmount → Option Msat
  | .number a => some a
  | .text s => Msat.ofDecimal? (Text.trimBlank s.toList)

end WrittenAmount

/- What an envelope holds, if it holds anything. -/
def envelope?
    {α : Type}
    (read? : Json.Tree → Option α)
    (t : Json.Tree) : Option (Option α) := do
  let r ← t.record? ["data"]
  r.optional? read? "data"

/-
  The fee of a payment: what it has cost, with the sign of
  money that is gone.
-/
def outgoingFee
    (r : Reply)
    (fee : Option WrittenAmount) :
    Except GatewayError (Option Msat) :=
  match fee.bind WrittenAmount.value? with
  | none => .ok none
  | some a =>
      match a.neg? with
      | some b => .ok (some b)
      | none => .error r.malformed

------------------------------------------------------------
-- Balances
------------------------------------------------------------

/- The balance of the wallet in an envelope. -/
def balance? (t : Json.Tree) : Option (Option WrittenAmount) := do
  let r ← t.record? ["balance"]
  r.optional? WrittenAmount.ofJson? "balance"

/- Read the balance in a reply. -/
def readBalance (r : Reply) : Except GatewayError BalanceAnswer :=
  if r.isError then .error (r.providerError errorField)
  else
    match r.read (envelope? balance?) with
    | .error e => .error e
    | .ok data =>
        match (data.bind fun b => b).bind WrittenAmount.value? with
        | some b => .ok (.known b)
        | none => .error r.malformed

/- Ask for the balance. -/
def balance (w : Zbd) : Dialogue BalanceAnswer :=
  .once ⟨.get, "wallet", some balanceLimit⟩ fun o =>
    .ofExcept ((w.client.receive o).bind readBalance)

------------------------------------------------------------
-- Invoices
------------------------------------------------------------

/- What is sent for a new invoice over an amount. -/
def invoiceBody
    (r : InvoiceRequest)
    (amount : Msat) : Json.Value :=
  .object
    [("amount", .text (toString amount.value)),
     ("description", .text r.memoText),
     ("expiresIn",
       wordToJson (r.expirySecs.getD defaultExpiry)),
     ("callbackUrl", .text ""),
     ("internalId", .text "")]

/- The payment request of a charge. -/
def request? (t : Json.Tree) : Option (Option String) := do
  let r ← t.record? ["request"]
  r.optional? Json.Tree.text? "request"

/- The id of a charge and its payment request. -/
def charge? (t : Json.Tree) :
    Option (Option String × Option (Option String)) := do
  let r ← t.record? ["id", "invoice"]
  let id ← r.optional? Json.Tree.text? "id"
  let invoice ← r.optional? request? "invoice"
  some (id, invoice)

/- Read the new invoice in a reply. -/
def readInvoice (r : Reply) : Except GatewayError InvoiceAnswer :=
  if r.isError then .ok (.failed (r.errorMessage errorField))
  else
    match r.read (envelope? charge?) with
    | .error e => .error e
    | .ok (some (some id, some (some request))) =>
        .ok (.success id request)
    | .ok _ => .error r.malformed

/- Ask for a new invoice, unless the service cannot issue it. -/
def createInvoice
    (w : Zbd)
    (r : InvoiceRequest) : Dialogue InvoiceAnswer :=
  if r.commitment.isSome then
    .done (.ofError (.unsupported "description_hash"))
  else
    match r.amount with
    | .error e => .done (.ofError e)
    | .ok amount =>
        .once
          ⟨.post (invoiceBody r amount), "charges",
            some invoiceLimit⟩
          fun o => .ofExcept ((w.client.receive o).bind readInvoice)

------------------------------------------------------------
-- Payments
------------------------------------------------------------

/- What is sent to pay an invoice. -/
def paymentBody (paymentRequest : String) : Json.Value :=
  .object
    [("invoice", .text paymentRequest),
     ("description", .text ""),
     ("amount", .text ""),
     ("internalId", .text ""),
     ("callbackUrl", .text "")]

/- The fee and the preimage of a payment. -/
def payment? (t : Json.Tree) :
    Option (Option WrittenAmount × Option String) := do
  let r ← t.record? ["fee", "preimage"]
  let fee ← r.optional? WrittenAmount.ofJson? "fee"
  let preimage ← r.optional? Json.Tree.text? "preimage"
  some (fee, preimage)

/- Read the reply to the payment of an invoice with a hash. -/
def readPayment
    (hash : String)
    (r : Reply) : Except GatewayError PaymentAnswer :=
  if r.isError then .ok (.failed (r.errorMessage errorField))
  else
    match r.read (envelope? payment?) with
    | .error e => .error e
    | .ok none => .error r.malformed
    | .ok (some (fee, preimage)) =>
        (outgoingFee r fee).map fun f =>
          .success hash (f.getD .zero) preimage

/- Pay an invoice, if it can be read. -/
def payInvoice
    (w : Zbd)
    (paymentRequest : String) : Dialogue PaymentAnswer :=
  match Bolt11.Invoice.paymentHashOf paymentRequest with
  | .error e => .done (.ofError e)
  | .ok hash =>
      .once ⟨.post (paymentBody paymentRequest), "payments", none⟩
        fun o =>
          .ofExcept ((w.client.receive o).bind (readPayment hash))

------------------------------------------------------------
-- Lookups
------------------------------------------------------------

/- Whether money comes in or goes out. -/
inductive Direction where
  | incoming
  | outgoing
  deriving DecidableEq, Repr

/- What a lookup tells about a charge or a payment. -/
structure Lookup where
  status : Option String
  preimage : Option String
  fee : Option WrittenAmount
  deriving DecidableEq

/- The lookup in an envelope. -/
def lookup? (t : Json.Tree) : Option Lookup := do
  let r ← t.record? ["status", "preimage", "fee"]
  let status ← r.optional? Json.Tree.text? "status"
  let preimage ← r.optional? Json.Tree.text? "preimage"
  let fee ← r.optional? WrittenAmount.ofJson? "fee"
  some ⟨status, preimage, fee⟩

/- The fee of a lookup. -/
def feeOf
    (d : Direction)
    (r : Reply)
    (fee : Option WrittenAmount) :
    Except GatewayError (Option Msat) :=
  match d with
  | .outgoing => outgoingFee r fee
  | .incoming => .ok (fee.bind WrittenAmount.value?)

/- Read the state in a reply. -/
def readStatus
    (d : Direction)
    (r : Reply) : Except GatewayError SettlementStatus :=
  if r.isError then .error (r.providerError errorField)
  else
    match r.read (envelope? lookup?) with
    | .error e => .error e
    | .ok (some ⟨some token, preimage, fee⟩) =>
        (feeOf d r fee).map fun f =>
          statusTable.resolveWith token f preimage
    | .ok _ => .ok .pending

/- The state that the outcome of a lookup tells. -/
def statusOf
    (w : Zbd)
    (d : Direction)
    (o : Outcome) : SettlementStatus :=
  (((w.client.receive o).bind (readStatus d)).toOption).getD
    .pending

/- Look an invoice up. -/
def invoiceStatus
    (w : Zbd)
    (id : String) : Dialogue SettlementStatus :=
  .once ⟨.get, "charges/" ++ id, some readLimit⟩
    (w.statusOf .incoming)

/- Look a payment up. -/
def paymentStatus
    (w : Zbd)
    (id : String) : Dialogue SettlementStatus :=
  .once ⟨.get, "payments/" ++ id, some readLimit⟩
    (w.statusOf .outgoing)

------------------------------------------------------------
-- Closing
------------------------------------------------------------

/- Close the wallet. -/
def close (w : Zbd) : Zbd :=
  { w with client := w.client.close, relay := w.relay.close }

end Zbd

end LightningGateway.Backend
