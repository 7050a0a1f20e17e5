import LightningGateway.Provider.Endpoint
import LightningGateway.Provider.Reply
import LightningGateway.Text.Base64
import LightningGateway.Text.Quoted
import LightningGateway.Url.Reading

/-
  The connection of a wallet to its provider.

  A client adds the address and the credentials to the calls
  that a wallet makes.  An address may name somebody to log in
  as; then the login is sent too, in a header of its own.  A
  client can be closed; then no call leaves it any more.

  Key definitions include:
    * `Client`
    * `Client.build`
    * `Call`
    * `login?`
    * `Client.request`
    * `Outcome`
    * `Client.receive`
-/

namespace LightningGateway.Provider

open Payment

------------------------------------------------------------
-- Clients
------------------------------------------------------------

/- A connection to a provider. -/
structure Client where
  endpoint : String
  keyName : String
  key : String
  userAgent : String
  closed : Bool
  deriving DecidableEq, Repr

/- Whether a byte may stand in the value of a header. -/
def isHeaderByte (b : UInt8) : Bool :=
  b == 0x09 || (0x20 ≤ b && b != 0x7F)

/- Whether a text can be the value of a header. -/
def isHeaderValue (s : String) : Bool :=
  (Text.Utf8.encode s).all isHeaderByte

namespace Client

/-
  A client of a wallet.  The address is checked first, then the
  key, then the name under which the client presents itself.
-/
def build
    (wallet endpoint userAgent keyName key : String) :
    Except GatewayError Client :=
  let endpoint := Endpoint.normal endpoint
  match Url.parse endpoint with
  | .error e =>
      .error (.config wallet
        ("invalid endpoint " ++ endpoint ++ ": " ++ e.message))
  | .ok _ =>
      if !isHeaderValue key then
        .error (.config wallet
          ("invalid " ++ keyName ++
            " header: failed to parse header value"))
      else if !isHeaderValue userAgent then
        .error (.config wallet
          "invalid user agent: failed to parse header value")
      else .ok ⟨endpoint, keyName, key, userAgent, false⟩

/- The address of a path. -/
def url
    (c : Client)
    (path : String) : String :=
  Endpoint.join c.endpoint path

/- A client that lets no call through. -/
def close (c : Client) : Client :=
  { c with closed := true }

/- What is shown of a client; the key is not. -/
def describe (c : Client) : String :=
  let closed := if c.closed then "true" else "false"
  "ProviderClient \x7b endpoint: " ++
    Text.Quoted.encode c.endpoint ++ ", closed: " ++ closed ++
    " \x7d"

end Client

------------------------------------------------------------
-- Calls and Requests
------------------------------------------------------------

/- What a call does. -/
inductive Action where
  | get
  | post (body : Json.Value)
  | listen
  deriving Repr

/- A call of a wallet, with the seconds it may take. -/
structure Call where
  action : Action
  path : String
  limit : Option Nat
  deriving Repr

namespace Action

/- The method of a request. -/
def method : Action → String
  | .get => "GET"
  | .post _ => "POST"
  | .listen => "GET"

/- What kind of answer is asked for. -/
def accept : Action → String
  | .listen => "text/event-stream"
  | _ => "*/*"

/- The text that is sent. -/
def body? : Action → Option String
  | .post body => some body.render
  | _ => none

end Action

/- A request as it reaches the provider. -/
structure Request where
  method : String
  url : String
  headers : List (String × String)
  body : Option String
  deriving DecidableEq, Repr

/- Why a request has no usable answer. -/
inductive Fault where
  -- No request can be made for the address.
  | unbuildable (url : Option String)
  -- No answer came, or not in time.
  | unanswered (url : String)
  -- The body of the answer ended too early.
  | cutShort
  deriving DecidableEq, Repr

namespace Fault

/- The end of a message, naming an address. -/
def forUrl (url : String) : String :=
  " for url (" ++ url ++ ")"

/- The wording of a fault. -/
def message : Fault → String
  | .unbuildable none => "Request error: builder error"
  | .unbuildable (some url) =>
      "Request error: builder error" ++ forUrl url
  | .unanswered url =>
      "Request error: error sending request" ++ forUrl url
  | .cutShort => "error decoding response body"

end Fault

/- The number of bytes that the address of a request has at most. -/
def addressLimit : Nat := 65534

/- Whether the host of a request may contain a character. -/
def isSendableInHost (c : Char) : Bool :=
  c != '"'

/- Whether a request can be sent to an address. -/
def isSendable (u : Url) : Bool :=
  let scheme := String.ofList u.scheme
  (scheme == "http" || scheme == "https") &&
    u.render.utf8ByteSize ≤ addressLimit &&
    match u.host? with
    | none => false
    | some h => h.chars.all isSendableInHost

/- Whether a percent-encoded part of an address is text. -/
def isText (cs : List Char) : Bool :=
  (Text.Utf8.decode? (Url.Percent.decode cs)).isOk

/-
  Whether an address names somebody to log in as: its user is
  text, and it has a user or a password that is text.
-/
def hasLogin (a : Url.Authority) : Bool :=
  isText a.user &&
    (!a.user.isEmpty ||
      (!a.password.isEmpty && isText a.password))

/-
  The address to connect to: user and password are taken out if
  there is a login, as it is sent in a header of its own.
-/
def connectUrl (u : Url) : Url :=
  if u.authority.any hasLogin then u.withoutUser else u

/- A percent-encoded part of an address, empty if it is no text. -/
def plainPart (cs : List Char) : String :=
  ((Text.Utf8.decode? (Url.Percent.decode cs)).toOption).getD ""

/- The user and the password, with a colon between them. -/
def loginText (a : Url.Authority) : String :=
  plainPart a.user ++ ":" ++ plainPart a.password

/- The header for the login of an address, if it has one. -/
def login? (u : Url) : Option (String × String) :=
  (u.authority.filter hasLogin).map fun a =>
    ("authorization",
      "Basic " ++
        Text.Base64.encode (Text.Utf8.encode (loginText a)))

namespace Client

/- The header for the login in the address of a path. -/
def login?
    (c : Client)
    (path : String) : Option (String × String) :=
  match Url.parse (c.url path) with
  | .error _ => none
  | .ok u => Provider.login? u

/- The headers of a request. -/
def headers
    (c : Client)
    (a : Action)
    (path : String) : List (String × String) :=
  [("accept", a.accept),
   (c.keyName, c.key),
   ("user-agent", c.userAgent)] ++
    (c.login? path).toList ++
    match a with
    | .post _ => [("content-type", "application/json")]
    | _ => []

/- The address of a call, if a request can be made for it. -/
def target
    (c : Client)
    (path : String) : Except Fault Url :=
  match Url.parse (c.url path) with
  | .error _ => .error (.unbuildable none)
  | .ok u =>
      if u.host?.isNone then
        .error (.unbuildable (some u.render))
      else
        let u := connectUrl u
        if isSendable u then .ok u
        else .error (.unbuildable (some u.render))

/- The request of a call, with the address that messages name. -/
def request
    (c : Client)
    (call : Call) : Except Fault (Request × String) :=
  match c.target call.path with
  | .error f => .error f
  | .ok u =>
      .ok (⟨call.action.method, u.withoutFragment.render,
        c.headers call.action call.path, call.action.body?⟩,
        u.render)

end Client

------------------------------------------------------------
-- Outcomes
------------------------------------------------------------

/- How a call ends. -/
inductive Outcome where
  | reply (r : Reply)
  | failed (f : Fault)
  | closed
  deriving DecidableEq, Repr

/- The answer to a call, or the error. -/
def Client.receive
    (c : Client) : Outcome → Except GatewayError Reply
  | .reply r => .ok r
  | .failed f => .error (.transport c.endpoint f.message)
  | .closed => .error .closed

end LightningGateway.Provider
