import LightningGateway.Settings.Basic
import LightningGateway.Toml.Document

/-
  Settings as TOML documents.

  A section is a table, in which unknown entries are skipped,
  or a list that has an item for each field in order, and
  possibly more.  A point in time counts as a table without
  known entries.  Fields without a value are not written.

  Key definitions include:
    * `Toml.Value.record?`
    * `Settings.ofToml?`
    * `Settings.outline`
    * `HostSettings`
-/

namespace LightningGateway

------------------------------------------------------------
-- Records
------------------------------------------------------------

namespace Toml

/- The entries of a value that have one of the names. -/
def Value.record?
    (names : List String) : Value → Option Table
  | .table entries =>
      some (entries.filter fun (k, _) => names.contains k)
  | .list items =>
      if names.length ≤ items.length then some (names.zip items)
      else none
  | .moment _ => some []
  | _ => none

/- An integer that is no less than zero. -/
def Value.word? (v : Value) : Option UInt64 :=
  match v.int? with
  | some n => if 0 ≤ n then some (UInt64.ofNat n.toNat) else none
  | none => none

/- An entry that has to be given. -/
def Table.required?
    {α : Type}
    (read? : Value → Option α)
    (name : String)
    (t : Table) : Option α :=
  (t.lookup name).bind read?

/- An entry that may be left out. -/
def Table.optional?
    {α : Type}
    (read? : Value → Option α)
    (name : String)
    (t : Table) : Option (Option α) :=
  match t.lookup name with
  | none => some none
  | some v => (read? v).map some

/- An entry that has a default. -/
def Table.orElse?
    {α : Type}
    (read? : Value → Option α)
    (default : α)
    (name : String)
    (t : Table) : Option α :=
  match t.lookup name with
  | none => some default
  | some v => read? v

/- A text, if there is one. -/
def Entries.ofText?
    (name : String) : Option String → Entries
  | none => []
  | some s => [(name, .text s)]

/- A number, if there is one. -/
def Entries.ofWord?
    (name : String) : Option UInt64 → Entries
  | none => []
  | some n => [(name, .int n.toNat)]

end Toml

namespace Settings

open Toml

------------------------------------------------------------
-- Sections
------------------------------------------------------------

/-
  A provider by its name, which is a text, or the only entry of
  a table, with a hollow value.
-/
def Source.ofToml? : Value → Option Source
  | .text s => Source.ofName? s
  | .table [(name, v)] =>
      if v.isHollow then Source.ofName? name else none
  | _ => none

namespace FundingSettings

/- Read the section. -/
def ofToml? (v : Value) : Option FundingSettings := do
  let t ← v.record?
    ["source", "user_agent", "stream_reconnect_secs",
     "relay_capacity"]
  let source ← Table.required? Source.ofToml? "source" t
  let agent ← Table.required? Value.text? "user_agent" t
  let secs ←
    Table.required? Value.word? "stream_reconnect_secs" t
  let capacity ←
    Table.required? Value.word? "relay_capacity" t
  some ⟨source, agent, secs, capacity⟩

/- The written section. -/
def entries (s : FundingSettings) : Entries :=
  [("source", .text s.source.name),
   ("user_agent", .text s.userAgent),
   ("stream_reconnect_secs", .int s.reconnectSecs.toNat),
   ("relay_capacity", .int s.relayCapacity.toNat)]

end FundingSettings

namespace LnbitsSettings

/- Read the section. -/
def ofToml? (v : Value) : Option LnbitsSettings := do
  let t ← v.record?
    ["endpoint", "key", "admin_key", "invoice_key"]
  let endpoint ← Table.optional? Value.text? "endpoint" t
  let key ← Table.optional? Value.text? "key" t
  let admin ← Table.optional? Value.text? "admin_key" t
  let invoice ← Table.optional? Value.text? "invoice_key" t
  some ⟨endpoint, key, admin, invoice⟩

/- The written section. -/
def entries (s : LnbitsSettings) : Entries :=
  Entries.ofText? "endpoint" s.endpoint ++
  Entries.ofText? "key" s.key ++
  Entries.ofText? "admin_key" s.adminKey ++
  Entries.ofText? "invoice_key" s.invoiceKey

end LnbitsSettings

namespace LnpaySettings

/- Read the section. -/
def ofToml? (v : Value) : Option LnpaySettings := do
  let t ← v.record?
    ["api_endpoint", "api_key", "wallet_key", "admin_key"]
  let endpoint ← Table.optional? Value.text? "api_endpoint" t
  let key ← Table.optional? Value.text? "api_key" t
  let wallet ← Table.optional? Value.text? "wallet_key" t
  let admin ← Table.optional? Value.text? "admin_key" t
  some ⟨endpoint, key, wallet, admin⟩

/- The written section. -/
def entries (s : LnpaySettings) : Entries :=
  Entries.ofText? "api_endpoint" s.endpoint ++
  Entries.ofText? "api_key" s.apiKey ++
  Entries.ofText? "wallet_key" s.walletKey ++
  Entries.ofText? "admin_key" s.adminKey

end LnpaySettings

namespace ZbdSettings

/- Read the section. -/
def ofToml? (v : Value) : Option ZbdSettings := do
  let t ← v.record? ["api_endpoint", "api_key"]
  let endpoint ← Table.optional? Value.text? "api_endpoint" t
  let key ← Table.optional? Value.text? "api_key" t
  some ⟨endpoint, key⟩

/- The written section. -/
def entries (s : ZbdSettings) : Entries :=
  Entries.ofText? "api_endpoint" s.endpoint ++
  Entries.ofText? "api_key" s.apiKey

end ZbdSettings

namespace FakeSettings

/- Read the section. -/
def ofToml? (v : Value) : Option FakeSettings := do
  let t ← v.record? ["auto_settle_ms"]
  let ms ← Table.optional? Value.word? "auto_settle_ms" t
  some ⟨ms⟩

/- The written section. -/
def entries (s : FakeSettings) : Entries :=
  Entries.ofWord? "auto_settle_ms" s.autoSettleMs

end FakeSettings

------------------------------------------------------------
-- All Settings
------------------------------------------------------------

/- Read the settings from a document. -/
def ofToml? (t : Table) : Option Settings := do
  let config ← Table.optional? Value.text? "config" t
  let level ← Table.optional? Value.text? "level" t
  let funding ← Table.orElse? FundingSettings.ofToml? .default
    "funding_settings" t
  let lnbits ← Table.orElse? LnbitsSettings.ofToml? .default
    "lnbits_settings" t
  let lnpay ← Table.orElse? LnpaySettings.ofToml? .default
    "lnpay_settings" t
  let zbd ← Table.orElse? ZbdSettings.ofToml? .default
    "zbd_settings" t
  let fake ← Table.orElse? FakeSettings.ofToml? .default
    "fake_settings" t
  some ⟨config, level, funding, lnbits, lnpay, zbd, fake⟩

/- The settings as a document. -/
def outline (s : Settings) : Outline :=
  ⟨Entries.ofText? "config" s.config ++
    Entries.ofText? "level" s.level,
   [("funding_settings", s.funding.entries),
    ("lnbits_settings", s.lnbits.entries),
    ("lnpay_settings", s.lnpay.entries),
    ("zbd_settings", s.zbd.entries),
    ("fake_settings", s.fake.entries)]⟩

------------------------------------------------------------
-- Settings of a Host
------------------------------------------------------------

/- What a program that only hosts a wallet needs. -/
structure HostSettings where
  level : Option String
  funding : FundingSettings
  deriving DecidableEq, Repr

namespace HostSettings

/- The settings if nothing is set. -/
def default : HostSettings := ⟨none, .default⟩

/- The JSON form of the settings. -/
def toJson (s : HostSettings) : Json.Value :=
  .object
    [("level", .ofText? s.level),
     ("funding_settings", s.funding.toJson)]

/- Read the settings from a document. -/
def ofToml? (t : Table) : Option HostSettings := do
  let level ← Table.optional? Value.text? "level" t
  let funding ← Table.orElse? FundingSettings.ofToml? .default
    "funding_settings" t
  some ⟨level, funding⟩

/- The settings as a document. -/
def outline (s : HostSettings) : Outline :=
  ⟨Entries.ofText? "level" s.level,
   [("funding_settings", s.funding.entries)]⟩

end HostSettings

end Settings

end LightningGateway
