import LightningGateway.Json.Record
import LightningGateway.Payment.Error
import LightningGateway.Text.Charset
import LightningGateway.Text.Excerpt

/-
  What a provider answers: a status and a body of text.

  Key definitions include:
    * `Reply`
    * `Reply.ofBytes`
    * `Reply.isError`
    * `Reply.read`
    * `Reply.errorMessage`
-/

namespace LightningGateway.Provider

open Payment

/- How much of a body is quoted in an error message. -/
def quotedChars : Nat := 200

/- The status and the body of an answer. -/
structure Reply where
  status : Nat
  body : String
  deriving DecidableEq, Repr

namespace Reply

/- The answer with a body of bytes, read as its content type says. -/
def ofBytes
    (status : Nat)
    (contentType : String)
    (bytes : List UInt8) : Reply :=
  ⟨status, Text.Charset.decodeBody contentType bytes⟩

/- Whether the status blames the request or the provider. -/
def isError (r : Reply) : Bool :=
  400 ≤ r.status && r.status < 600

/- Whether the status reports success. -/
def isSuccess (r : Reply) : Bool :=
  200 ≤ r.status && r.status < 300

/- The beginning of the body. -/
def excerpt (r : Reply) : String :=
  Text.excerpt r.body quotedChars

/- The error of a body that is not what it should be. -/
def malformed (r : Reply) : GatewayError :=
  .malformed r.excerpt

/- Read the body. -/
def read
    {α : Type}
    (r : Reply)
    (read? : Json.Tree → Option α) : Except GatewayError α :=
  match (Json.Tree.parse? r.body).bind read? with
  | some a => .ok a
  | none => .error r.malformed

/- The text of a value: a text itself, else its JSON form. -/
def plainText? : Json.Value → Option String
  | .text s => some s
  | .null => none
  | v => some v.render

/-
  The provider's own message, in the given field of the body;
  without one, the beginning of the body.
-/
def errorMessage
    (r : Reply)
    (field : String) : String :=
  match (Json.Value.parse? r.body).bind fun v =>
      (v.member? field).bind plainText? with
  | some message => message
  | none => r.excerpt

/- The error that the provider reports. -/
def providerError
    (r : Reply)
    (field : String) : GatewayError :=
  .provider r.status (r.errorMessage field)

end Reply

end LightningGateway.Provider
