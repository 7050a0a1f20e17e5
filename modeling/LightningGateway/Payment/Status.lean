import LightningGateway.Payment.Amount

/-
  The state of an invoice or a payment, and the tables that
  give a provider's own words for it their meaning.

  Key definitions include:
    * `SettlementStatus`
    * `StatusTable`
    * `StatusTable.resolve`
    * `StatusTable.isDisjoint`
-/

namespace LightningGateway.Payment

------------------------------------------------------------
-- States
------------------------------------------------------------

/-
  Whether money has moved.  The terms of a settlement are
  absent while they are not known.
-/
inductive SettlementStatus where
  | pending
  | success (fee : Option Msat) (preimage : Option String)
  | failed
  deriving DecidableEq

namespace SettlementStatus

instance : Inhabited SettlementStatus := ⟨pending⟩

/- Settled, on terms that are not known. -/
def settled : SettlementStatus :=
  .success none none

/- Attach terms to a settlement; other states stay as they are. -/
def withTerms
    (s : SettlementStatus)
    (fee : Option Msat)
    (preimage : Option String) : SettlementStatus :=
  match s with
  | .success _ _ => .success fee preimage
  | s => s

/- Whether money has moved. -/
def isPaid : SettlementStatus → Bool
  | .success _ _ => true
  | _ => false

/- Whether no money will move. -/
def isFailed : SettlementStatus → Bool
  | .failed => true
  | _ => false

/- Whether it is not known yet. -/
def isPending : SettlementStatus → Bool
  | .pending => true
  | _ => false

/- The fee of a settlement. -/
def fee? : SettlementStatus → Option Msat
  | .success fee _ => fee
  | _ => none

/- The proof of a settlement. -/
def preimage? : SettlementStatus → Option String
  | .success _ preimage => preimage
  | _ => none

/- The name of a state. -/
def name : SettlementStatus → String
  | .pending => "pending"
  | .success _ _ => "success"
  | .failed => "failed"

end SettlementStatus

------------------------------------------------------------
-- Tables of Tokens
------------------------------------------------------------

/- The tokens with which a provider reports each state. -/
structure StatusTable (α : Type) where
  success : List α
  failed : List α
  pending : List α

namespace StatusTable

variable {α : Type} [BEq α]

/-
  The state that a token reports.  A token that is listed for
  both outcomes, or for none, reports nothing.
-/
def resolve
    (table : StatusTable α)
    (token : α) : SettlementStatus :=
  match table.success.contains token,
      table.failed.contains token with
  | true, false => .settled
  | false, true => .failed
  | _, _ => .pending

/- The state that a token reports, with the terms of a settlement. -/
def resolveWith
    (table : StatusTable α)
    (token : α)
    (fee : Option Msat)
    (preimage : Option String) : SettlementStatus :=
  (table.resolve token).withTerms fee preimage

/- Whether no token of the first list is in the second. -/
def apart (xs ys : List α) : Bool :=
  xs.all fun x => !ys.contains x

/- Whether no token is listed for two states. -/
def isDisjoint (table : StatusTable α) : Bool :=
  apart table.success table.failed &&
    apart table.success table.pending &&
    apart table.failed table.pending

end StatusTable

end LightningGateway.Payment
