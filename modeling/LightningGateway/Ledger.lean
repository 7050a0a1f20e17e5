import LightningGateway.Bolt11.Invoice
import LightningGateway.Crypto.Sha256
import LightningGateway.Pause
import LightningGateway.Payment.Answer
import LightningGateway.Payment.Request
import LightningGateway.Relay
import LightningGateway.Settings.Basic

/-
  A wallet that is kept in memory.

  Its invoices are paid when they are settled by hand, or by
  themselves after a delay.  Settling marks an invoice first
  and then offers its id to the reader of paid invoices; an id
  for which there is no room is lost, and the invoice is paid
  all the same.  Payments always succeed and cost nothing.

  Ids and preimages are made from random bytes, which are given
  to the operations.  Time is a number of milliseconds that
  only `advance` moves.

  Key definitions include:
    * `Ledger`
    * `Ledger.createInvoice`, `Ledger.payInvoice`
    * `Ledger.settle`
    * `Ledger.balance`
    * `Ledger.advance`
-/

namespace LightningGateway

open Payment Settings

------------------------------------------------------------
-- Entries
------------------------------------------------------------

namespace Ledger

/- An invoice, by whose id it is recorded. -/
structure InvoiceEntry where
  paymentRequest : String
  amount : Msat
  preimage : String
  settled : Bool
  deriving DecidableEq

/- A payment, by whose id it is recorded. -/
structure PaymentEntry where
  amount : Msat
  preimage : String
  deriving DecidableEq

/- When an invoice is settled by itself. -/
structure Timer where
  due : Nat
  id : String
  deriving DecidableEq, Repr

end Ledger

/- A wallet in memory. -/
structure Ledger where
  invoices : List (String × Ledger.InvoiceEntry)
  payments : List (String × Ledger.PaymentEntry)
  relay : Relay.RelayQueue
  delay : Option Nat
  timers : List Ledger.Timer
  now : Nat
  closed : Bool
  deriving DecidableEq

namespace Ledger

/- Entries with one more; an entry of the same id is replaced. -/
def record
    {α : Type}
    (id : String)
    (entry : α) : List (String × α) → List (String × α)
  | [] => [(id, entry)]
  | (k, e) :: rest =>
      if k = id then (id, entry) :: rest
      else (k, e) :: record id entry rest

/- A hash of bytes, in hexadecimal. -/
def hexHash (bytes : List UInt8) : String :=
  Text.Hex.encode (Crypto.Sha256.hash bytes)

/- The id of a preimage: the hash of its bytes. -/
def idOf (preimage : List UInt8) : String :=
  hexHash preimage

------------------------------------------------------------
-- Building
------------------------------------------------------------

/- The name of the wallet. -/
def walletName : String := "FakeWallet"

/- An empty wallet. -/
def build
    (s : FakeSettings)
    (f : FundingSettings) : Ledger :=
  ⟨[], [], .ofCapacity f.relayCapacity.toNat,
    s.autoSettleMs.map UInt64.toNat, [], 0, false⟩

------------------------------------------------------------
-- Balances
------------------------------------------------------------

/- What has come in by settled invoices. -/
def incoming (l : Ledger) : Msat :=
  Msat.total ((l.invoices.filter (·.2.settled)).map (·.2.amount))

/- What has gone out by payments. -/
def outgoing (l : Ledger) : Msat :=
  Msat.total (l.payments.map (·.2.amount))

/- What has come in less what has gone out. -/
def balance (l : Ledger) : Msat :=
  l.incoming.minus l.outgoing

------------------------------------------------------------
-- Settling
------------------------------------------------------------

/- The error of an id that is not recorded. -/
def notFound (id : String) : GatewayError :=
  .invalidInvoice (id ++ " not found")

/- Mark an invoice as settled. -/
def mark
    (l : Ledger)
    (id : String)
    (e : InvoiceEntry) : Ledger :=
  { l with
    invoices := record id { e with settled := true } l.invoices }

/- Offer an id to the reader, who may have no room for it. -/
def offer
    (l : Ledger)
    (id : String) : Ledger :=
  match l.relay.push id with
  | .ok relay => { l with relay := relay }
  | .error _ => l

/- Settle an invoice; one that is settled stays as it is. -/
def settle
    (l : Ledger)
    (id : String) : Except GatewayError Ledger :=
  match l.invoices.lookup id with
  | none => .error (notFound id)
  | some e =>
      if e.settled then .ok l else .ok ((l.mark id e).offer id)

/- Settle an invoice by itself; an error changes nothing. -/
def fire
    (l : Ledger)
    (t : Timer) : Ledger :=
  match l.settle t.id with
  | .ok l => l
  | .error _ => l

/- Settle the invoices whose time has come, in their order. -/
def fireDue (l : Ledger) : Ledger :=
  let due := l.timers.filter (·.due ≤ l.now)
  let later := l.timers.filter (l.now < ·.due)
  due.foldl fire { l with timers := later }

/- Let time pass. -/
def advance
    (l : Ledger)
    (ms : Nat) : Ledger :=
  fireDue { l with now := l.now + ms }

------------------------------------------------------------
-- Invoices
------------------------------------------------------------

/- How much of an id stands in a payment request. -/
def requestIdLength : Nat := 16

/- The payment request of an invoice. -/
def paymentRequestOf
    (amountSat : UInt64)
    (id : String) : String :=
  "lnfake" ++ toString amountSat.toNat ++ "n1" ++
    String.ofList (id.toList.take requestIdLength)

/- The timers with one more, if invoices settle by themselves. -/
def startTimer
    (l : Ledger)
    (id : String) : List Timer :=
  match l.delay with
  | some ms =>
      if l.closed then l.timers
      else l.timers ++ [⟨l.now + Pause.length ms, id⟩]
  | none => l.timers

/- Record a new invoice. -/
def createInvoice
    (l : Ledger)
    (random : List UInt8)
    (r : InvoiceRequest) : InvoiceAnswer × Ledger :=
  match r.amount with
  | .error e => (.ofError e, l)
  | .ok amount =>
      let preimage := Crypto.Sha256.hash random
      let id := idOf preimage
      let request := paymentRequestOf r.amountSat id
      let entry : InvoiceEntry :=
        ⟨request, amount, Text.Hex.encode preimage, false⟩
      (.success id request,
        { l with
          invoices := record id entry l.invoices
          timers := l.startTimer id })

/- The state of an invoice. -/
def invoiceStatus
    (l : Ledger)
    (id : String) : SettlementStatus :=
  match l.invoices.lookup id with
  | some e =>
      if e.settled then .success none (some e.preimage)
      else .pending
  | none => .pending

------------------------------------------------------------
-- Payments
------------------------------------------------------------

/- The amount of an invoice of the wallet itself. -/
def ownAmount?
    (l : Ledger)
    (paymentRequest : String) : Option Msat :=
  (l.invoices.find? fun e =>
    e.2.paymentRequest == paymentRequest).map (·.2.amount)

/- The amount to pay for an invoice from elsewhere. -/
def foreignAmount
    (paymentRequest : String) : Except GatewayError Msat :=
  match Bolt11.Invoice.amountOf paymentRequest with
  | .error e => .error e
  | .ok amount =>
      let n := amount.getD 0
      match Msat.ofInt? n with
      | some a => .ok a
      | none =>
          .error (.invalidInvoice
            (toString n ++ " msat is out of range"))

/- The amount to pay. -/
def amountToPay
    (l : Ledger)
    (paymentRequest : String) : Except GatewayError Msat :=
  match l.ownAmount? paymentRequest with
  | some a => .ok a
  | none => foreignAmount paymentRequest

/- Record a payment. -/
def payInvoice
    (l : Ledger)
    (random : List UInt8)
    (paymentRequest : String) : PaymentAnswer × Ledger :=
  match l.amountToPay paymentRequest with
  | .error e => (.ofError e, l)
  | .ok amount =>
      let preimage := Crypto.Sha256.hash
        (Text.Utf8.encode (paymentRequest ++ ":") ++ random)
      let id := idOf preimage
      let text := Text.Hex.encode preimage
      (.success id .zero (some text),
        { l with
          payments := record id ⟨amount, text⟩ l.payments })

/- The state of a payment. -/
def paymentStatus
    (l : Ledger)
    (id : String) : SettlementStatus :=
  match l.payments.lookup id with
  | some e => .success (some .zero) (some e.preimage)
  | none => .pending

------------------------------------------------------------
-- Closing
------------------------------------------------------------

/- Close the wallet: no invoice settles by itself any more. -/
def close (l : Ledger) : Ledger :=
  { l with relay := l.relay.close, timers := [], closed := true }

end Ledger

end LightningGateway
