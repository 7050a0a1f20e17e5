/-
  What can go wrong with a wallet, and how it is worded.

  Key definitions include:
    * `GatewayError`
    * `GatewayError.message`
    * `GatewayError.isTransport`
-/

namespace LightningGateway.Payment

/- The causes for which a wallet cannot do what it is asked. -/
inductive GatewayError where
  -- The settings do not describe a wallet.
  | config (wallet reason : String)
  -- The provider gave no usable answer.
  | transport (endpoint cause : String)
  -- The provider answered with an error.
  | provider (status : Nat) (message : String)
  -- The provider's answer could not be read.
  | malformed (body : String)
  -- The provider cannot do what is asked.
  | unsupported (parameter : String)
  -- The invoice cannot be used.
  | invalidInvoice (reason : String)
  -- The stream of paid invoices was handed out before.
  | streamTaken
  -- The wallet was closed.
  | closed
  deriving DecidableEq, Repr

namespace GatewayError

/- The wording of an error. -/
def message : GatewayError → String
  | .config wallet reason =>
      "cannot initialize " ++ wallet ++ ": " ++ reason
  | .transport endpoint cause =>
      "Failed to connect to " ++ endpoint ++ " due to: " ++ cause
  | .provider _ message => message
  | .malformed body => "Got invalid JSON: " ++ body
  | .unsupported parameter => "unsupported: " ++ parameter
  | .invalidInvoice reason => "invalid invoice: " ++ reason
  | .streamTaken => "paid invoices stream already taken"
  | .closed => "wallet connection closed"

/- Whether the connection is at fault, so that a retry may help. -/
def isTransport : GatewayError → Bool
  | .transport _ _ => true
  | .closed => true
  | _ => false

end GatewayError

end LightningGateway.Payment
