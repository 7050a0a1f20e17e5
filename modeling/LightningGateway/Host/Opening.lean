import LightningGateway.Host

/-
  The log of the start.

  While a host starts, not only the host writes to the log.  A
  wallet that is built says where its provider is, and a request
  is logged when it is made and when it has ended, each time with
  the address that it goes to.  A request that cannot be made is
  not logged.

  How the end of a request is worded is up to the library that
  sends it.

  Key definitions include:
    * `Wording`
    * `Client.loggedAddress?`
    * `Dialogue.records`
    * `Host.opening`
-/

namespace LightningGateway

open Payment Provider Settings

------------------------------------------------------------
-- Requests
------------------------------------------------------------

namespace Provider

/- How the library that sends requests words their ends. -/
structure Wording where
  status : Nat → String
  -- The status of an answer of which the body ends too early.
  cutShort : String
  fault : Fault → String

/-
  The address that is logged for a path.  No request is made for
  a text that is no URL, or a URL without a host; whether the
  request can be sent is found out later.
-/
def Client.loggedAddress?
    (c : Client)
    (path : String) : Option String :=
  if c.closed then none
  else
    match Url.parse (c.url path) with
    | .error _ => none
    | .ok u =>
        if u.host?.isNone then none
        else some (connectUrl u).render

/- A record about a request. -/
def requestRecord
    (level : LogLevel)
    (message : String) : LogRecord :=
  ⟨level, "funding::wallets::client", message⟩

/- The record about a request that is made. -/
def startRecord (method address : String) : LogRecord :=
  requestRecord .info
    ("Making " ++ method ++ " request to: " ++ address)

/- The record about a request that has ended. -/
def endRecord?
    (W : Wording)
    (method address : String)
    (o : Outcome) : Option LogRecord :=
  let subject := method ++ " " ++ address ++ " -> "
  match o with
  | .reply r =>
      some (requestRecord .info
        (subject ++ "Status: " ++ W.status r.status))
  | .failed .cutShort =>
      some (requestRecord .info
        (subject ++ "Status: " ++ W.cutShort))
  | .failed f =>
      some (requestRecord .warn
        (subject ++ "Error: " ++ W.fault f))
  | .closed => none

/- The records about a call, of which the outcome may be awaited. -/
def Client.records
    (c : Client)
    (W : Wording)
    (call : Call)
    (o : Option Outcome) : List LogRecord :=
  match c.loggedAddress? call.path with
  | none => []
  | some address =>
      startRecord call.action.method address ::
        (o.bind (endRecord? W call.action.method address)).toList

/- The records about a dialogue, by the outcomes of its calls. -/
def Dialogue.records
    {α : Type}
    (c : Client)
    (W : Wording) : Dialogue α → List Outcome → List LogRecord
  | .done _, _ => []
  | .ask call _, [] => c.records W call none
  | .ask call next, o :: rest =>
      c.records W call (some o) ++ records c W (next o) rest

end Provider

------------------------------------------------------------
-- Wallets
------------------------------------------------------------

namespace Wallet

/- Under which name a wallet writes to the log. -/
def target : Wallet → String
  | .lnbits _ => "funding::wallets::lnbits"
  | .lnpay _ => "funding::wallets::lnpay"
  | .zbd _ => "funding::wallets::zbd"
  | .memory _ => "funding::wallets::fake"

/- A wallet that is built says where its provider is. -/
def readyRecord? (w : Wallet) : Option LogRecord :=
  w.client?.map fun c =>
    ⟨.info, w.target, w.name ++ " ready at " ++ c.endpoint⟩

/- The records about the balance query of a wallet. -/
def balanceRecords
    (w : Wallet)
    (W : Wording)
    (outcomes : List Outcome) : List LogRecord :=
  match w.client? with
  | some c => w.balance.records c W outcomes
  | none => []

end Wallet

------------------------------------------------------------
-- Hosts
------------------------------------------------------------

namespace Host

/- A line of the host's own, as it is logged. -/
def ownRecord (line : LogLine) : LogRecord :=
  ⟨line.level, "funding::startup", line.text⟩

/-
  All that is logged while the host that settings describe
  starts, by the outcomes of the calls of its wallet.
-/
def opening
    (W : Wording)
    (s : Settings)
    (outcomes : List Outcome) : List LogRecord :=
  ownRecord (sourceLine s) ::
    match Wallet.build s with
    | .error _ => []
    | .ok w =>
        w.readyRecord?.toList ++ w.balanceRecords W outcomes ++
          ((w.balance.resultOf? outcomes).map fun a =>
            ownRecord (balanceLine w a)).toList

end Host

end LightningGateway
