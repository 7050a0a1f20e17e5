import LightningGateway.Json.Record
import LightningGateway.Payment.Answer

/-
  The JSON form of answers and states.

  Balances are plain records; the other answers and the states
  are tagged records, whose tag tells what happened.

  Key definitions include:
    * `BalanceAnswer.toJson`, `BalanceAnswer.ofJson?`
    * `InvoiceAnswer.toJson`, `InvoiceAnswer.ofJson?`
    * `PaymentAnswer.toJson`, `PaymentAnswer.ofJson?`
    * `SettlementStatus.toJson`, `SettlementStatus.ofJson?`
-/

namespace LightningGateway.Payment

open Json

------------------------------------------------------------
-- Amounts
------------------------------------------------------------

namespace Msat

/- An amount as a JSON number. -/
def toJson (a : Msat) : Value :=
  .int a.value

/- The amount of a JSON integer. -/
def ofJson? (t : Tree) : Option Msat :=
  t.int?.bind ofInt?

/- An amount that may be absent. -/
def optionToJson (a : Option Msat) : Value :=
  .ofInt? (a.map value)

end Msat

------------------------------------------------------------
-- Balances
------------------------------------------------------------

namespace BalanceAnswer

/- The fields of a balance. -/
def fields : List String :=
  ["error_message", "balance_msat"]

/- The JSON form of a balance. -/
def toJson (a : BalanceAnswer) : Value :=
  .object
    [("error_message", .ofText? a.errorMessage),
     ("balance_msat", a.balance.toJson)]

/- Read a balance. -/
def ofJson? (t : Tree) : Option BalanceAnswer := do
  let r ← t.record? fields
  let message ← r.optional? Tree.text? "error_message"
  let balance ← r.required? Msat.ofJson? "balance_msat"
  some ⟨message, balance⟩

/- Read a balance from JSON text. -/
def parse? (s : String) : Option BalanceAnswer :=
  (Tree.parse? s).bind ofJson?

end BalanceAnswer

------------------------------------------------------------
-- Invoices
------------------------------------------------------------

/- The tag of answers. -/
def resultTag : String := "result"

namespace InvoiceAnswer

/- The JSON form of an invoice. -/
def toJson : InvoiceAnswer → Value
  | .success id request =>
      .object
        [(resultTag, .text "success"),
         ("checking_id", .text id),
         ("payment_request", .text request)]
  | .failed message =>
      .object
        [(resultTag, .text "failed"),
         ("error_message", .text message)]

/- Read an invoice. -/
def ofJson? (t : Tree) : Option InvoiceAnswer := do
  let (name, t) ← t.tagged? resultTag
  if name = "success" then
    let r ← t.record? ["checking_id", "payment_request"]
    let id ← r.required? Tree.text? "checking_id"
    let request ← r.required? Tree.text? "payment_request"
    some (.success id request)
  else if name = "failed" then
    let r ← t.record? ["error_message"]
    let message ← r.required? Tree.text? "error_message"
    some (.failed message)
  else none

/- Read an invoice from JSON text. -/
def parse? (s : String) : Option InvoiceAnswer :=
  (Tree.parse? s).bind ofJson?

end InvoiceAnswer

------------------------------------------------------------
-- Payments
------------------------------------------------------------

namespace PaymentAnswer

/- The JSON form of a payment. -/
def toJson : PaymentAnswer → Value
  | .success id fee preimage =>
      .object
        [(resultTag, .text "success"),
         ("checking_id", .text id),
         ("fee_msat", fee.toJson),
         ("preimage", .ofText? preimage)]
  | .failed message =>
      .object
        [(resultTag, .text "failed"),
         ("error_message", .text message)]

/- Read a payment. -/
def ofJson? (t : Tree) : Option PaymentAnswer := do
  let (name, t) ← t.tagged? resultTag
  if name = "success" then
    let r ← t.record? ["checking_id", "fee_msat", "preimage"]
    let id ← r.required? Tree.text? "checking_id"
    let fee ← r.required? Msat.ofJson? "fee_msat"
    let preimage ← r.optional? Tree.text? "preimage"
    some (.success id fee preimage)
  else if name = "failed" then
    let r ← t.record? ["error_message"]
    let message ← r.required? Tree.text? "error_message"
    some (.failed message)
  else none

/- Read a payment from JSON text. -/
def parse? (s : String) : Option PaymentAnswer :=
  (Tree.parse? s).bind ofJson?

end PaymentAnswer

------------------------------------------------------------
-- States
------------------------------------------------------------

/- The tag of states. -/
def statusTag : String := "status"

namespace SettlementStatus

/- The JSON form of a state. -/
def toJson : SettlementStatus → Value
  | .pending => .object [(statusTag, .text "pending")]
  | .success fee preimage =>
      .object
        [(statusTag, .text "success"),
         ("fee_msat", Msat.optionToJson fee),
         ("preimage", .ofText? preimage)]
  | .failed => .object [(statusTag, .text "failed")]

/- Whether a record without fields is given; others are skipped. -/
def isBare : Tree → Bool
  | .list items => items.isEmpty
  | _ => true

/- Read a state. -/
def ofJson? (t : Tree) : Option SettlementStatus := do
  let (name, t) ← t.tagged? statusTag
  if name = "pending" then
    if isBare t then some .pending else none
  else if name = "success" then
    let r ← t.record? ["fee_msat", "preimage"]
    let fee ← r.optional? Msat.ofJson? "fee_msat"
    let preimage ← r.optional? Tree.text? "preimage"
    some (.success fee preimage)
  else if name = "failed" then
    if isBare t then some .failed else none
  else none

/- Read a state from JSON text. -/
def parse? (s : String) : Option SettlementStatus :=
  (Tree.parse? s).bind ofJson?

end SettlementStatus

end LightningGateway.Payment
