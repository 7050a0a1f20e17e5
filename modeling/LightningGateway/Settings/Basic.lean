import LightningGateway.Json.Record

/-
  The settings of the program.

  One section chooses the provider and tells how to talk to it;
  each provider has a section of its own with its address and
  its credentials, all of them optional.  A section that is not
  given has its default.

  Key definitions include:
    * `Source`
    * `Settings`
    * `Settings.default`
    * `Settings.toJson`, `Settings.ofJson?`
-/

namespace LightningGateway.Settings

------------------------------------------------------------
-- Sections
------------------------------------------------------------

/- The provider that invoices are issued and paid through. -/
inductive Source where
  | lnbits
  | lnpay
  | zbd
  | fake
  deriving DecidableEq, Repr

namespace Source

/- The name of a provider in settings. -/
def name : Source → String
  | .lnbits => "lnbits"
  | .lnpay => "lnpay"
  | .zbd => "zbd"
  | .fake => "fake"

/- The provider with a name. -/
def ofName? (s : String) : Option Source :=
  match s with
  | "lnbits" => some .lnbits
  | "lnpay" => some .lnpay
  | "zbd" => some .zbd
  | "fake" => some .fake
  | _ => none

/-
  The provider in settings: a name, or an object whose only
  member has the name and holds nothing.
-/
def ofJson? : Json.Tree → Option Source
  | .text name => name.bind ofName?
  | .object [(some name, .null)] => ofName? name
  | _ => none

end Source

/- Which provider to use, and how. -/
structure FundingSettings where
  source : Source
  -- The name under which the program presents itself.
  userAgent : String
  -- Seconds before a stream that broke off is opened again.
  reconnectSecs : UInt64
  -- How many paid invoices wait for their reader at most.
  relayCapacity : UInt64
  deriving DecidableEq, Repr

/- The address and the keys of an LNbits instance. -/
structure LnbitsSettings where
  endpoint : Option String
  key : Option String
  adminKey : Option String
  invoiceKey : Option String
  deriving DecidableEq, Repr

/- The address and the keys of an LNPay wallet. -/
structure LnpaySettings where
  endpoint : Option String
  apiKey : Option String
  walletKey : Option String
  adminKey : Option String
  deriving DecidableEq, Repr

/- The address and the key of a ZBD wallet. -/
structure ZbdSettings where
  endpoint : Option String
  apiKey : Option String
  deriving DecidableEq, Repr

/- When invoices of the wallet in memory are paid by themselves. -/
structure FakeSettings where
  autoSettleMs : Option UInt64
  deriving DecidableEq, Repr

end LightningGateway.Settings

namespace LightningGateway

/- All settings. -/
structure Settings where
  config : Option String
  level : Option String
  funding : Settings.FundingSettings
  lnbits : Settings.LnbitsSettings
  lnpay : Settings.LnpaySettings
  zbd : Settings.ZbdSettings
  fake : Settings.FakeSettings
  deriving DecidableEq, Repr

end LightningGateway

namespace LightningGateway.Settings

open Json

------------------------------------------------------------
-- Defaults
------------------------------------------------------------

/- The choice of provider if nothing is set. -/
def FundingSettings.default : FundingSettings :=
  ⟨.lnbits, "funding/0.1.0", 5, 1024⟩

/- A public LNbits instance, without keys. -/
def LnbitsSettings.default : LnbitsSettings :=
  ⟨some "https://legend.lnbits.com", none, none, none⟩

/- The LNPay service, without keys. -/
def LnpaySettings.default : LnpaySettings :=
  ⟨some "https://api.lnpay.co/v1", none, none, none⟩

/- The ZBD service, without a key. -/
def ZbdSettings.default : ZbdSettings :=
  ⟨some "https://api.zebedee.io/v0", none⟩

/- No invoice is paid by itself. -/
def FakeSettings.default : FakeSettings :=
  ⟨none⟩

/- The settings if nothing is set. -/
def default : Settings :=
  ⟨none, none, .default, .default, .default, .default, .default⟩

------------------------------------------------------------
-- JSON
------------------------------------------------------------

/- A word of 64 bits as a JSON number. -/
def wordToJson (n : UInt64) : Value :=
  .int n.toNat

/- A JSON integer that is no less than zero. -/
def word? (t : Tree) : Option UInt64 :=
  match t.int? with
  | some n => if 0 ≤ n then some (UInt64.ofNat n.toNat) else none
  | none => none

namespace FundingSettings

/- The JSON form of the section. -/
def toJson (s : FundingSettings) : Value :=
  .object
    [("source", .text s.source.name),
     ("user_agent", .text s.userAgent),
     ("stream_reconnect_secs", wordToJson s.reconnectSecs),
     ("relay_capacity", wordToJson s.relayCapacity)]

/- Read the section, all of whose fields have to be given. -/
def ofJson? (t : Tree) : Option FundingSettings := do
  let r ← t.record?
    ["source", "user_agent", "stream_reconnect_secs",
     "relay_capacity"]
  let source ← r.required? Source.ofJson? "source"
  let agent ← r.required? Tree.text? "user_agent"
  let secs ← r.required? word? "stream_reconnect_secs"
  let capacity ← r.required? word? "relay_capacity"
  some ⟨source, agent, secs, capacity⟩

end FundingSettings

namespace LnbitsSettings

/- The JSON form of the section. -/
def toJson (s : LnbitsSettings) : Value :=
  .object
    [("endpoint", .ofText? s.endpoint),
     ("key", .ofText? s.key),
     ("admin_key", .ofText? s.adminKey),
     ("invoice_key", .ofText? s.invoiceKey)]

/- Read the section. -/
def ofJson? (t : Tree) : Option LnbitsSettings := do
  let r ← t.record?
    ["endpoint", "key", "admin_key", "invoice_key"]
  let endpoint ← r.optional? Tree.text? "endpoint"
  let key ← r.optional? Tree.text? "key"
  let admin ← r.optional? Tree.text? "admin_key"
  let invoice ← r.optional? Tree.text? "invoice_key"
  some ⟨endpoint, key, admin, invoice⟩

end LnbitsSettings

namespace LnpaySettings

/- The JSON form of the section. -/
def toJson (s : LnpaySettings) : Value :=
  .object
    [("api_endpoint", .ofText? s.endpoint),
     ("api_key", .ofText? s.apiKey),
     ("wallet_key", .ofText? s.walletKey),
     ("admin_key", .ofText? s.adminKey)]

/- Read the section. -/
def ofJson? (t : Tree) : Option LnpaySettings := do
  let r ← t.record?
    ["api_endpoint", "api_key", "wallet_key", "admin_key"]
  let endpoint ← r.optional? Tree.text? "api_endpoint"
  let key ← r.optional? Tree.text? "api_key"
  let wallet ← r.optional? Tree.text? "wallet_key"
  let admin ← r.optional? Tree.text? "admin_key"
  some ⟨endpoint, key, wallet, admin⟩

end LnpaySettings

namespace ZbdSettings

/- The JSON form of the section. -/
def toJson (s : ZbdSettings) : Value :=
  .object
    [("api_endpoint", .ofText? s.endpoint),
     ("api_key", .ofText? s.apiKey)]

/- Read the section. -/
def ofJson? (t : Tree) : Option ZbdSettings := do
  let r ← t.record? ["api_endpoint", "api_key"]
  let endpoint ← r.optional? Tree.text? "api_endpoint"
  let key ← r.optional? Tree.text? "api_key"
  some ⟨endpoint, key⟩

end ZbdSettings

namespace FakeSettings

/- The JSON form of the section. -/
def toJson (s : FakeSettings) : Value :=
  .object
    [("auto_settle_ms",
      .ofInt? (s.autoSettleMs.map fun n => (n.toNat : Int)))]

/- Read the section. -/
def ofJson? (t : Tree) : Option FakeSettings := do
  let r ← t.record? ["auto_settle_ms"]
  let ms ← r.optional? word? "auto_settle_ms"
  some ⟨ms⟩

end FakeSettings

/- A section of a record, which has a default. -/
def section?
    {α : Type}
    (read? : Tree → Option α)
    (default : α)
    (name : String)
    (r : Record) : Option α :=
  match r.lookup name with
  | none => some default
  | some t => read? t

/- The fields of the settings. -/
def fields : List String :=
  ["config", "level", "funding_settings", "lnbits_settings",
   "lnpay_settings", "zbd_settings", "fake_settings"]

/- The JSON form of the settings. -/
def toJson (s : Settings) : Value :=
  .object
    [("config", .ofText? s.config),
     ("level", .ofText? s.level),
     ("funding_settings", s.funding.toJson),
     ("lnbits_settings", s.lnbits.toJson),
     ("lnpay_settings", s.lnpay.toJson),
     ("zbd_settings", s.zbd.toJson),
     ("fake_settings", s.fake.toJson)]

/- Read the settings. -/
def ofJson? (t : Tree) : Option Settings := do
  let r ← t.record? fields
  let config ← r.optional? Tree.text? "config"
  let level ← r.optional? Tree.text? "level"
  let funding ← section? FundingSettings.ofJson? .default
    "funding_settings" r
  let lnbits ← section? LnbitsSettings.ofJson? .default
    "lnbits_settings" r
  let lnpay ← section? LnpaySettings.ofJson? .default
    "lnpay_settings" r
  let zbd ← section? ZbdSettings.ofJson? .default
    "zbd_settings" r
  let fake ← section? FakeSettings.ofJson? .default
    "fake_settings" r
  some ⟨config, level, funding, lnbits, lnpay, zbd, fake⟩

end LightningGateway.Settings
