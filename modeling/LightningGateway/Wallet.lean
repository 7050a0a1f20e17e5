import LightningGateway.Backend.Lnpay
import LightningGateway.Backend.Zbd
import LightningGateway.Ledger

/-
  The wallet of the gateway, whichever provider it has.

  Each operation is a dialogue with the provider, at whose end
  stands an answer; none of them fails.

  Key definitions include:
    * `Wallet`
    * `Wallet.build`
    * `Wallet.balance`, `Wallet.createInvoice`,
      `Wallet.payInvoice`
    * `Wallet.invoiceStatus`, `Wallet.paymentStatus`
    * `Wallet.run`
    * `PaidStream`
    * `Wallet.openStream`, `Wallet.poll`
-/

namespace LightningGateway

open Backend Payment Provider Settings

/- A wallet with its provider. -/
inductive Wallet where
  | lnbits (w : Lnbits)
  | lnpay (w : Lnpay)
  | zbd (w : Zbd)
  | memory (l : Ledger)
  deriving DecidableEq

namespace Wallet

------------------------------------------------------------
-- Building
------------------------------------------------------------

/- The wallet that the settings describe. -/
def build (s : Settings) : Except GatewayError Wallet :=
  match s.funding.source with
  | .lnbits => (Lnbits.build s.lnbits s.funding).map .lnbits
  | .lnpay => (Lnpay.build s.lnpay s.funding).map .lnpay
  | .zbd => (Zbd.build s.zbd s.funding).map .zbd
  | .fake => .ok (.memory (.build s.fake s.funding))

/- The name of a wallet. -/
def name : Wallet → String
  | .lnbits _ => Lnbits.walletName
  | .lnpay _ => Lnpay.walletName
  | .zbd _ => Zbd.walletName
  | .memory _ => Ledger.walletName

/- The connection to the provider, if there is one. -/
def client? : Wallet → Option Client
  | .lnbits w => some w.client
  | .lnpay w => some w.client
  | .zbd w => some w.client
  | .memory _ => none

------------------------------------------------------------
-- Operations
------------------------------------------------------------

/- Ask for the balance. -/
def balance : Wallet → Dialogue BalanceAnswer
  | .lnbits w => w.balance
  | .lnpay w => w.balance
  | .zbd w => w.balance
  | .memory l => .done (.known l.balance)

/- Ask for a new invoice. -/
def createInvoice
    (w : Wallet)
    (random : List UInt8)
    (r : InvoiceRequest) : Dialogue (InvoiceAnswer × Wallet) :=
  match w with
  | .lnbits v => (v.createInvoice r).map fun a => (a, w)
  | .lnpay v => (v.createInvoice r).map fun a => (a, w)
  | .zbd v => (v.createInvoice r).map fun a => (a, w)
  | .memory l =>
      let (a, l) := l.createInvoice random r
      .done (a, .memory l)

/- Pay an invoice. -/
def payInvoice
    (w : Wallet)
    (random : List UInt8)
    (paymentRequest : String) :
    Dialogue (PaymentAnswer × Wallet) :=
  match w with
  | .lnbits v => (v.payInvoice paymentRequest).map fun a => (a, w)
  | .lnpay v => (v.payInvoice paymentRequest).map fun a => (a, w)
  | .zbd v => (v.payInvoice paymentRequest).map fun a => (a, w)
  | .memory l =>
      let (a, l) := l.payInvoice random paymentRequest
      .done (a, .memory l)

/- Look an invoice up. -/
def invoiceStatus
    (w : Wallet)
    (id : String) : Dialogue SettlementStatus :=
  match w with
  | .lnbits w => w.invoiceStatus id
  | .lnpay w => w.status id
  | .zbd w => w.invoiceStatus id
  | .memory l => .done (l.invoiceStatus id)

/- Look a payment up. -/
def paymentStatus
    (w : Wallet)
    (id : String) : Dialogue SettlementStatus :=
  match w with
  | .lnbits w => w.paymentStatus id
  | .lnpay w => w.status id
  | .zbd w => w.paymentStatus id
  | .memory l => .done (l.paymentStatus id)

/- Close the wallet. -/
def close : Wallet → Wallet
  | .lnbits w => .lnbits w.close
  | .lnpay w => .lnpay w.close
  | .zbd w => .zbd w.close
  | .memory l => .memory l.close

/- Run an operation against a script. -/
def run
    {α : Type}
    (w : Wallet)
    (d : Dialogue α)
    (s : Script) : Run α :=
  match w.client? with
  | some c => d.run c s
  | none => ⟨d.resultOf? [], [], 0, s⟩

------------------------------------------------------------
-- The Relay
------------------------------------------------------------

/- The queue that a webhook feeds, if the wallet has one. -/
def relay? : Wallet → Option Relay.RelayQueue
  | .lnbits _ => none
  | .lnpay w => some w.relay
  | .zbd w => some w.relay
  | .memory l => some l.relay

/- The wallet with another state of its queue. -/
def withRelay
    (w : Wallet)
    (q : Relay.RelayQueue) : Wallet :=
  match w with
  | .lnbits v => .lnbits v
  | .lnpay v => .lnpay { v with relay := q }
  | .zbd v => .zbd { v with relay := q }
  | .memory l => .memory { l with relay := q }

/- Push a hash on the queue, if the wallet has one. -/
def push?
    (w : Wallet)
    (hash : String) : Option (Except Relay.RelayError Wallet) :=
  w.relay?.map fun q => (q.push hash).map w.withRelay

------------------------------------------------------------
-- Streams of Paid Invoices
------------------------------------------------------------

/-
  A stream of paid invoices: the reading end of the queue, or
  what the provider has pushed and nobody has read.
-/
inductive PaidStream where
  | relayed
  | pushed (waiting : List String)
  deriving DecidableEq, Repr

/- What is shown of a stream. -/
def PaidStream.describe (s : PaidStream) : String :=
  let runs :=
    match s with
    | .relayed => "false"
    | .pushed _ => "true"
  "PaidInvoiceStream \x7b runner: " ++ runs ++ " \x7d"

/- What a look at a stream finds. -/
inductive Poll where
  | item (id : String)
  | empty
  | ended
  deriving DecidableEq, Repr

/- Open a stream of paid invoices. -/
def openStream
    (w : Wallet) : Except GatewayError (PaidStream × Wallet) :=
  match w.relay? with
  | some q =>
      q.takeStream.map fun q => (.relayed, w.withRelay q)
  | none =>
      if w.client?.any Client.closed then .error .closed
      else .ok (.pushed [], w)

/-
  Look at a stream.  A stream of the provider's ends when the
  wallet is closed and all of it has been read; the reading end
  of the queue never does.
-/
def poll
    (w : Wallet)
    (s : PaidStream) : Poll × PaidStream × Wallet :=
  match s with
  | .pushed (id :: rest) => (.item id, .pushed rest, w)
  | .pushed [] =>
      if w.client?.any Client.closed then (.ended, s, w)
      else (.empty, s, w)
  | .relayed =>
      match w.relay?.bind Relay.RelayQueue.receive with
      | some (id, q) => (.item id, s, w.withRelay q)
      | none => (.empty, s, w)

/- Drop a stream. -/
def dropStream
    (w : Wallet)
    (s : PaidStream) : Wallet :=
  match s, w.relay? with
  | .relayed, some q => w.withRelay q.dropStream
  | _, _ => w

end Wallet

end LightningGateway
