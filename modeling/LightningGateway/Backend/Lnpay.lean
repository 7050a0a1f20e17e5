import LightningGateway.Backend.Lnbits
import LightningGateway.Crypto.Sha256
import LightningGateway.Relay

/-
  Wallets at the LNPay service.

  The service counts in satoshis, numbers its wallets by a key
  in the path, and tells of paid invoices by a webhook.

  Key definitions include:
    * `Lnpay`
    * `Lnpay.build`
    * `Lnpay.balance`, `Lnpay.createInvoice`, `Lnpay.payInvoice`
    * `Lnpay.status`
-/

namespace LightningGateway.Backend

open Payment Provider Settings

/- A wallet at the LNPay service. -/
structure Lnpay where
  client : Client
  walletKey : String
  relay : Relay.RelayQueue
  deriving DecidableEq, Repr

namespace Lnpay

------------------------------------------------------------
-- Building
------------------------------------------------------------

/- The name of the wallet. -/
def walletName : String := "LNPayWallet"

/- The field in which the service explains errors. -/
def errorField : String := "message"

/- The number by which the service reports states. -/
def statusTable : StatusTable Int :=
  ⟨[1], [-1], [0]⟩

/- The wallet that the settings describe. -/
def build
    (s : LnpaySettings)
    (f : FundingSettings) : Except GatewayError Lnpay := do
  let endpoint ← required walletName "lnpay_api_endpoint"
    [s.endpoint]
  let apiKey ← required walletName "lnpay_api_key" [s.apiKey]
  let walletKey ← required walletName
    "lnpay_wallet_key or lnpay_admin_key"
    [s.walletKey, s.adminKey]
  let client ← Client.build walletName endpoint f.userAgent
    "x-api-key" apiKey
  return ⟨client, walletKey, .ofCapacity f.relayCapacity.toNat⟩

/- The path of the wallet. -/
def walletPath (w : Lnpay) : String :=
  "wallet/" ++ w.walletKey

------------------------------------------------------------
-- Balances
------------------------------------------------------------

/- What the service tells about a wallet. -/
structure WalletInfo where
  id : Option String
  label : Option String
  balance : Option Int
  status : Option (Option String)
  deriving DecidableEq, Repr

/- An integer of 64 bits with a sign. -/
def integer? (t : Json.Tree) : Option Int :=
  (Msat.ofJson? t).map Msat.value

/- The name of the status of a wallet. -/
def statusName? (t : Json.Tree) : Option (Option String) := do
  let r ← t.record? ["name"]
  r.optional? Json.Tree.text? "name"

/- The wallet in a body. -/
def walletInfo? (t : Json.Tree) : Option WalletInfo := do
  let r ← t.record? ["id", "user_label", "balance", "statusType"]
  let id ← r.optional? Json.Tree.text? "id"
  let label ← r.optional? Json.Tree.text? "user_label"
  let balance ← r.optional? integer? "balance"
  let status ← r.optional? statusName? "statusType"
  some ⟨id, label, balance, status⟩

/- The status of a wallet, empty if it is not given. -/
def WalletInfo.statusText (i : WalletInfo) : String :=
  (i.status.bind fun name => name).getD ""

/- The status of a wallet that can be used. -/
def active : String := "active"

/- The wording of a wallet that cannot be used. -/
def WalletInfo.inactive (i : WalletInfo) : String :=
  "Wallet " ++ i.label.getD "" ++ " (" ++ i.id.getD "" ++
    ") not active, but " ++ i.statusText

/- Read the balance in a reply. -/
def readBalance (r : Reply) : Except GatewayError BalanceAnswer :=
  if r.isError then .error (r.providerError errorField)
  else
    match r.read walletInfo? with
    | .error e => .error e
    | .ok info =>
        if info.statusText = active then
          match info.balance.bind Msat.ofSat? with
          | some b => .ok (.known b)
          | none => .error r.malformed
        else .ok (.failed info.inactive)

/- Ask for the balance. -/
def balance (w : Lnpay) : Dialogue BalanceAnswer :=
  .once ⟨.get, w.walletPath, some readLimit⟩ fun o =>
    .ofExcept ((w.client.receive o).bind readBalance)

------------------------------------------------------------
-- Invoices
------------------------------------------------------------

/-
  What an invoice commits to: a hash, or its memo if it commits
  to no description.
-/
def commitment (r : InvoiceRequest) : String × Json.Value :=
  match r.commitment with
  | some (.hash d) =>
      ("description_hash", .text (Text.Hex.encode d.bytes))
  | some (.unhashed b) =>
      ("description_hash",
        .text (Text.Hex.encode (Crypto.Sha256.hash b)))
  | none => ("memo", .text r.memoText)

/- What is sent for a new invoice. -/
def invoiceBody (r : InvoiceRequest) : Json.Value :=
  .object
    [("num_satoshis", .text (toString r.amountSat.toNat)),
     commitment r]

/- The status of a reply with a new invoice. -/
def created : Nat := 201

/- Read the new invoice in a reply. -/
def readInvoice (r : Reply) : Except GatewayError InvoiceAnswer :=
  if r.status ≠ created then
    .ok (.failed (r.errorMessage errorField))
  else
    (r.read (Lnbits.invoice? "id")).bind (Lnbits.wholeInvoice r)

/- Ask for a new invoice. -/
def createInvoice
    (w : Lnpay)
    (r : InvoiceRequest) : Dialogue InvoiceAnswer :=
  .once
    ⟨.post (invoiceBody r), w.walletPath ++ "/invoice",
      some invoiceLimit⟩
    fun o => .ofExcept ((w.client.receive o).bind readInvoice)

------------------------------------------------------------
-- Payments
------------------------------------------------------------

/- What is sent to pay an invoice. -/
def paymentBody (paymentRequest : String) : Json.Value :=
  .object [("payment_request", .text paymentRequest)]

/- The transaction of a payment: its id and its preimage. -/
def transaction? (t : Json.Tree) :
    Option (Option String × Option String) := do
  let r ← t.record? ["id", "payment_preimage"]
  let id ← r.optional? Json.Tree.text? "id"
  let preimage ← r.optional? Json.Tree.text? "payment_preimage"
  some (id, preimage)

/- The transaction in a body. -/
def withdrawal? (t : Json.Tree) :
    Option (Option (Option String × Option String)) := do
  let r ← t.record? ["lnTx"]
  r.optional? transaction? "lnTx"

/- Read the reply to a payment; its body is read in any case. -/
def readPayment (r : Reply) : Except GatewayError PaymentAnswer :=
  match r.read withdrawal? with
  | .error e => .error e
  | .ok tx =>
      if r.isError then .ok (.failed (r.errorMessage errorField))
      else
        match tx with
        | some (some id, preimage) =>
            .ok (.success id .zero preimage)
        | _ => .error r.malformed

/- Pay an invoice. -/
def payInvoice
    (w : Lnpay)
    (paymentRequest : String) : Dialogue PaymentAnswer :=
  .once
    ⟨.post (paymentBody paymentRequest),
      w.walletPath ++ "/withdraw", none⟩
    fun o => .ofExcept ((w.client.receive o).bind readPayment)

------------------------------------------------------------
-- Lookups
------------------------------------------------------------

/- What a lookup tells about a transaction. -/
structure Lookup where
  settled : Option Int
  preimage : Option String
  fee : Option Msat
  deriving DecidableEq

/- The lookup in a body. -/
def lookup? (t : Json.Tree) : Option Lookup := do
  let r ← t.record? ["settled", "payment_preimage", "fee_msat"]
  let settled ← r.optional? integer? "settled"
  let preimage ← r.optional? Json.Tree.text? "payment_preimage"
  let fee ← r.optional? Msat.ofJson? "fee_msat"
  some ⟨settled, preimage, fee⟩

/- The state that a lookup tells. -/
def Lookup.status (l : Lookup) : SettlementStatus :=
  match l.settled with
  | some token => statusTable.resolveWith token l.fee l.preimage
  | none => .pending

/- Read the state in a reply. -/
def readStatus
    (r : Reply) : Except GatewayError SettlementStatus :=
  if r.isError then .error (r.providerError errorField)
  else (r.read lookup?).map Lookup.status

/- The state that the outcome of a lookup tells. -/
def statusOf
    (w : Lnpay)
    (o : Outcome) : SettlementStatus :=
  (((w.client.receive o).bind readStatus).toOption).getD .pending

/- Look an invoice or a payment up. -/
def status
    (w : Lnpay)
    (id : String) : Dialogue SettlementStatus :=
  .once ⟨.get, "lntx/" ++ id, some readLimit⟩ w.statusOf

------------------------------------------------------------
-- Closing
------------------------------------------------------------

/- Close the wallet. -/
def close (w : Lnpay) : Lnpay :=
  { w with client := w.client.close, relay := w.relay.close }

end Lnpay

end LightningGateway.Backend
