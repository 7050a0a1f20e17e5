import LightningGateway.Payment.Error
import LightningGateway.Text.Blank

/-
  Settings that a wallet cannot do without.

  Key definitions include:
    * `firstPresent?`
    * `required`
-/

namespace LightningGateway.Backend

open Payment

/- A setting without the blanks around it, unless it is blank. -/
def present? (value : Option String) : Option String :=
  value.bind fun s =>
    let t := Text.trim s
    if t.isEmpty then none else some t

/- The first of several settings that is not blank. -/
def firstPresent?
    (candidates : List (Option String)) : Option String :=
  candidates.findSome? present?

/- The first setting that is not blank, or an error naming it. -/
def required
    (wallet field : String)
    (candidates : List (Option String)) :
    Except GatewayError String :=
  match firstPresent? candidates with
  | some s => .ok s
  | none => .error (.config wallet ("missing " ++ field))

/- Seconds that a balance or a lookup may take. -/
def readLimit : Nat := 15

/- Seconds that a new invoice may take. -/
def invoiceLimit : Nat := 40

end LightningGateway.Backend
