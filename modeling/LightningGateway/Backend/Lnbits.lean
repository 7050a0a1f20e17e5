import LightningGateway.Backend.Credentials
import LightningGateway.Payment.Request
import LightningGateway.Payment.Wire
import LightningGateway.Provider.Dialogue
import LightningGateway.Settings.Basic

/-
  Wallets at an LNbits instance.

  The instance reports balances in thousandths of a satoshi and
  pushes paid invoices on a stream.  After a payment was sent
  its fee and preimage are looked up; whatever that lookup
  gives, the payment has been sent.

  Key definitions include:
    * `Lnbits`
    * `Lnbits.build`
    * `Lnbits.balance`, `Lnbits.createInvoice`,
      `Lnbits.payInvoice`
    * `Lnbits.invoiceStatus`, `Lnbits.paymentStatus`
-/

namespace LightningGateway.Backend

open Payment Provider Settings

/- A wallet at an LNbits instance. -/
structure Lnbits where
  client : Client
  reconnectSecs : Nat
  streamCapacity : Nat
  deriving DecidableEq, Repr

namespace Lnbits

------------------------------------------------------------
-- Building
------------------------------------------------------------

/- The name of the wallet. -/
def walletName : String := "LNbitsWallet"

/- The field in which the instance explains errors. -/
def errorField : String := "detail"

/- The path of the stream of paid invoices. -/
def streamPath : String := "api/v1/payments/sse"

/- The path of invoices and payments. -/
def paymentsPath : String := "api/v1/payments"

/- The flag by which the instance reports states. -/
def statusTable : StatusTable (Option Bool) :=
  ⟨[some true], [some false], [none]⟩

/- The wallet that the settings describe. -/
def build
    (s : LnbitsSettings)
    (f : FundingSettings) : Except GatewayError Lnbits := do
  let endpoint ← required walletName "lnbits_endpoint"
    [s.endpoint]
  let key ← required walletName
    "lnbits_key or lnbits_admin_key or lnbits_invoice_key"
    [s.key, s.adminKey, s.invoiceKey]
  let client ← Client.build walletName endpoint f.userAgent
    "x-api-key" key
  return ⟨client, f.reconnectSecs.toNat, f.relayCapacity.toNat⟩

------------------------------------------------------------
-- Balances
------------------------------------------------------------

/- The balance in a body. -/
def balance? (t : Json.Tree) : Option (Option Msat) := do
  let r ← t.record? ["balance"]
  r.optional? Msat.ofJson? "balance"

/- The wording of a body without a balance. -/
def noBalance
    (endpoint : String)
    (r : Reply) : String :=
  "Failed to connect to " ++ endpoint ++ ", got: '" ++
    r.excerpt ++ "...'"

/- Read the balance in a reply. -/
def readBalance
    (endpoint : String)
    (r : Reply) : Except GatewayError BalanceAnswer :=
  if r.isError then .error (r.providerError errorField)
  else
    match r.read balance? with
    | .ok (some b) => .ok (.known b)
    | _ => .ok (.failed (noBalance endpoint r))

/- Ask for the balance. -/
def balance (w : Lnbits) : Dialogue BalanceAnswer :=
  .once ⟨.get, "api/v1/wallet", some readLimit⟩ fun o =>
    .ofExcept ((w.client.receive o).bind
      (readBalance w.client.endpoint))

------------------------------------------------------------
-- Invoices
------------------------------------------------------------

/- A member of an object, if there is a value for it. -/
def member
    (name : String)
    (v : Option Json.Value) : List (String × Json.Value) :=
  v.toList.map (name, ·)

/- The hash that an invoice commits to, in hexadecimal. -/
def hashText? : Option Commitment → Option Json.Value
  | some (.hash d) => some (.text (Text.Hex.encode d.bytes))
  | _ => none

/- The bytes that the instance is to hash, in hexadecimal. -/
def unhashedText? : Option Commitment → Option Json.Value
  | some (.unhashed b) => some (.text (Text.Hex.encode b))
  | _ => none

/- What is sent for a new invoice. -/
def invoiceBody (r : InvoiceRequest) : Json.Value :=
  .object
    ([("out", .bool false),
      ("amount", wordToJson r.amountSat),
      ("memo", .text r.memoText)] ++
     member "expiry" (r.expirySecs.map wordToJson) ++
     member "description_hash" (hashText? r.commitment) ++
     member "unhashed_description" (unhashedText? r.commitment))

/- The id and the payment request in a body. -/
def invoice?
    (idField : String)
    (t : Json.Tree) :
    Option (Option String × Option String) := do
  let r ← t.record? [idField, "payment_request"]
  let id ← r.optional? Json.Tree.text? idField
  let request ← r.optional? Json.Tree.text? "payment_request"
  some (id, request)

/- An invoice whose two parts have to be there. -/
def wholeInvoice
    (r : Reply) :
    Option String × Option String →
    Except GatewayError InvoiceAnswer
  | (some id, some request) => .ok (.success id request)
  | _ => .error r.malformed

/- Read the new invoice in a reply. -/
def readInvoice (r : Reply) : Except GatewayError InvoiceAnswer :=
  if r.isError then .ok (.failed (r.errorMessage errorField))
  else (r.read (invoice? "checking_id")).bind (wholeInvoice r)

/- Ask for a new invoice. -/
def createInvoice
    (w : Lnbits)
    (r : InvoiceRequest) : Dialogue InvoiceAnswer :=
  .once ⟨.post (invoiceBody r), paymentsPath, some invoiceLimit⟩
    fun o => .ofExcept ((w.client.receive o).bind readInvoice)

------------------------------------------------------------
-- Lookups
------------------------------------------------------------

/- What a lookup tells about an invoice or a payment. -/
structure Lookup where
  paid : Option Bool
  preimage : Option String
  -- Whether it is pending, and its fee.
  details : Option (Option Bool × Option Msat)
  deriving DecidableEq

/- The details in a lookup. -/
def details? (t : Json.Tree) :
    Option (Option Bool × Option Msat) := do
  let r ← t.record? ["pending", "fee"]
  let pending ← r.optional? Json.Tree.bool? "pending"
  let fee ← r.optional? Msat.ofJson? "fee"
  some (pending, fee)

/- The lookup in a body. -/
def lookup? (t : Json.Tree) : Option Lookup := do
  let r ← t.record? ["paid", "preimage", "details"]
  let paid ← r.optional? Json.Tree.bool? "paid"
  let preimage ← r.optional? Json.Tree.text? "preimage"
  let details ← r.optional? details? "details"
  some ⟨paid, preimage, details⟩

/- The lookup in a reply, if it is usable. -/
def readLookup? (r : Reply) : Option Lookup :=
  if r.isError then none else (r.read lookup?).toOption

/- The state of an invoice. -/
def Lookup.invoiceStatus (l : Lookup) : SettlementStatus :=
  if (l.details.bind (·.1)).getD false then .pending
  else statusTable.resolve l.paid

/- The state of a payment. -/
def Lookup.paymentStatus (l : Lookup) : SettlementStatus :=
  match l.paid, l.details with
  | some true, some details =>
      statusTable.resolveWith (some true) details.2 l.preimage
  | _, _ => .pending

/- The state that the outcome of a lookup tells. -/
def statusOf
    (w : Lnbits)
    (read : Lookup → SettlementStatus)
    (o : Outcome) : SettlementStatus :=
  match (w.client.receive o).toOption.bind readLookup? with
  | some l => read l
  | none => .pending

/- The call of a lookup. -/
def lookupCall (id : String) : Call :=
  ⟨.get, paymentsPath ++ "/" ++ id, some readLimit⟩

/- Look an invoice up. -/
def invoiceStatus
    (w : Lnbits)
    (id : String) : Dialogue SettlementStatus :=
  .once (lookupCall id) (w.statusOf Lookup.invoiceStatus)

/- Look a payment up. -/
def paymentStatus
    (w : Lnbits)
    (id : String) : Dialogue SettlementStatus :=
  .once (lookupCall id) (w.statusOf Lookup.paymentStatus)

------------------------------------------------------------
-- Payments
------------------------------------------------------------

/- What is sent to pay an invoice. -/
def paymentBody (paymentRequest : String) : Json.Value :=
  .object
    [("out", .bool true), ("bolt11", .text paymentRequest)]

/- The payment hash in a body. -/
def sentHash? (t : Json.Tree) : Option (Option String) := do
  let r ← t.record? ["payment_hash"]
  r.optional? Json.Tree.text? "payment_hash"

/- What the reply to a payment says. -/
inductive Sent where
  | refused (message : String)
  | accepted (hash : String)
  deriving DecidableEq, Repr

/- Read the reply to a payment. -/
def readSent (r : Reply) : Except GatewayError Sent :=
  if r.isError then .ok (.refused (r.errorMessage errorField))
  else
    match r.read sentHash? with
    | .ok (some hash) => .ok (.accepted hash)
    | _ => .error r.malformed

/- A payment that was sent, on the terms of its lookup. -/
def sentOn
    (hash : String)
    (s : SettlementStatus) : PaymentAnswer :=
  .success hash (s.fee?.getD .zero) s.preimage?

/- Go on after the reply to a payment. -/
def afterSent
    (w : Lnbits) :
    Except GatewayError Sent → Dialogue PaymentAnswer
  | .error e => .done (.ofError e)
  | .ok (.refused message) => .done (.failed message)
  | .ok (.accepted hash) => (w.paymentStatus hash).map (sentOn hash)

/- Pay an invoice. -/
def payInvoice
    (w : Lnbits)
    (paymentRequest : String) : Dialogue PaymentAnswer :=
  .ask ⟨.post (paymentBody paymentRequest), paymentsPath, none⟩
    fun o => w.afterSent ((w.client.receive o).bind readSent)

------------------------------------------------------------
-- Closing
------------------------------------------------------------

/- Close the wallet. -/
def close (w : Lnbits) : Lnbits :=
  { w with client := w.client.close }

end Lnbits

end LightningGateway.Backend
