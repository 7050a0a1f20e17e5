import LightningGateway.Proofs.Json.Record
import LightningGateway.Proofs.Toml.RoundTrip
import LightningGateway.Settings.Loading

/-
  Settings that were written, and what is read of them.

  Entries may be left out, and no two of a section have the
  same name, so that each is found under its own.  Settings are
  read as they were written, unless a number among them is too
  great for the integers of a document.

  Key definitions include:
    * `Entries.IsWithin`
    * `IsStored`
    * `Settings.Fits`

  Main results:
    * `Settings.read?_scheme`
    * `Settings.read?_hostScheme`
-/

namespace LightningGateway

namespace Toml

------------------------------------------------------------
-- Entries of a Section
------------------------------------------------------------

/-
  Entries that have some of the names, in their order, and
  values that can be read again.
-/
structure Entries.IsWithin
    (names : List String)
    (es : Entries) : Prop where
  names : (es.map Prod.fst).Sublist names
  fits : ∀ e ∈ es, e.2.Fits

/- An entry with a text has its name only. -/
theorem Entries.isWithin_text
    (name s : String) :
    IsWithin [name] [(name, .text s)] where
  names := List.Sublist.refl _
  fits := List.forall_mem_singleton.mpr trivial

/- So has one with a number, which has to be small enough. -/
theorem Entries.isWithin_int
    {n : UInt64}
    (name : String)
    (hLess : n.toNat < integerLimit) :
    IsWithin [name] [(name, .int n.toNat)] where
  names := List.Sublist.refl _
  fits := by
    refine List.forall_mem_singleton.mpr ⟨?_, ?_⟩
    · exact Int.natCast_nonneg n.toNat
    · exact Int.ofNat_lt.mpr hLess

/- An entry that is left out has none. -/
theorem Entries.isWithin_nil
    (names : List String) :
    IsWithin names [] where
  names := List.nil_sublist names
  fits := List.forall_mem_nil _

/- A text may be left out. -/
theorem Entries.isWithin_ofText?
    (name : String)
    (s : Option String) :
    IsWithin [name] (ofText? name s) := by
  cases s with
  | none => exact isWithin_nil [name]
  | some s => exact isWithin_text name s

/- So may a number. -/
theorem Entries.isWithin_ofWord?
    {n : Option UInt64}
    (name : String)
    (hLess : ∀ m ∈ n, m.toNat < integerLimit) :
    IsWithin [name] (ofWord? name n) := by
  cases n with
  | none => exact isWithin_nil [name]
  | some m => exact isWithin_int name (hLess m rfl)

/- Entries after entries have names after names. -/
theorem Entries.IsWithin.append
    {es fs : Entries}
    {names others : List String}
    (hFirst : es.IsWithin names)
    (hSecond : fs.IsWithin others) :
    (es ++ fs).IsWithin (names ++ others) where
  names := by
    rw [List.map_append]
    exact hFirst.names.append hSecond.names
  fits := List.forall_mem_append.mpr ⟨hFirst.fits, hSecond.fits⟩

/- They are sound if the names are. -/
theorem Entries.IsWithin.isSound
    {es : Entries}
    {names : List String}
    (hWithin : es.IsWithin names)
    (hBare : ∀ name ∈ names, IsBare name)
    (hNodup : names.Nodup) :
    es.IsSound where
  bare _ hMem :=
    hBare _ (hWithin.names.subset (List.mem_map_of_mem hMem))
  fits := hWithin.fits
  nodup := hNodup.sublist hWithin.names

/- A section that has only known entries is read with them all. -/
theorem Entries.IsWithin.record?_table
    {es : Entries}
    {names : List String}
    (hWithin : es.IsWithin names) :
    (Value.table es.table).record? names = some es.table := by
  refine congrArg some (List.filter_eq_self.mpr fun e hMem => ?_)
  rcases List.mem_map.mp hMem with ⟨entry, hEntry, rfl⟩
  exact List.contains_iff_mem.mpr
    (hWithin.names.subset (List.mem_map_of_mem hEntry))

------------------------------------------------------------
-- What Is Found
------------------------------------------------------------

/- A text is found under its name only. -/
theorem Entries.lookup_ofText?
    (name k : String)
    (s : Option String) :
    (ofText? name s).table.lookup k =
      if k = name then s.map Value.text else none := by
  cases s with
  | none => exact (ite_self _).symm
  | some s => exact Json.Value.lookup_cons_eq_ite name k _ []

/- So is a number. -/
theorem Entries.lookup_ofWord?
    (name k : String)
    (n : Option UInt64) :
    (ofWord? name n).table.lookup k =
      if k = name then n.map fun n => .int n.toNat else none := by
  cases n with
  | none => exact (ite_self _).symm
  | some n => exact Json.Value.lookup_cons_eq_ite name k _ []

/- What is found in a document. -/
theorem Outline.lookup_table
    (o : Outline)
    (k : String) :
    o.table.lookup k =
      (o.entries.table.lookup k).or
        ((o.sections.map fun s =>
          (s.1, Value.table (Entries.table s.2))).lookup k) :=
  List.lookup_append

/- What is found in entries after entries. -/
theorem Entries.lookup_append
    (es fs : Entries)
    (k : String) :
    (es ++ fs).table.lookup k =
      (es.table.lookup k).or (fs.table.lookup k) := by
  rw [table, List.map_append, List.lookup_append]
  rfl

/- Read a value, if one is found. -/
def readFound?
    {α : Type}
    (read? : Value → Option α) : Option Value → Option (Option α)
  | none => some none
  | some v => (read? v).map some

/- An entry that is found is read. -/
theorem Table.required?_of_lookup
    {α : Type}
    {read? : Value → Option α}
    {name : String}
    {t : Table}
    {v : Value}
    {a : α}
    (hFound : t.lookup name = some v)
    (hRead : read? v = some a) :
    t.required? read? name = some a := by
  rw [required?, hFound]
  exact hRead

/- One that may be left out is read if it is found. -/
theorem Table.optional?_eq_readFound?
    {α : Type}
    (read? : Value → Option α)
    (name : String)
    (t : Table) :
    t.optional? read? name = readFound? read? (t.lookup name) := by
  rw [optional?]
  cases t.lookup name <;> rfl

/- A text is read as it was written. -/
theorem readFound?_text (s : Option String) :
    readFound? Value.text? (s.map .text) = some s := by
  cases s <;> rfl

/- A number is read as it was written. -/
theorem Value.word?_toNat (n : UInt64) :
    (Value.int n.toNat).word? = some n := by
  rw [word?, int?]
  simp

/- So is a number that may be left out. -/
theorem readFound?_word (n : Option UInt64) :
    readFound? Value.word? (n.map fun n => .int n.toNat) =
      some n := by
  cases n with
  | none => rfl
  | some n =>
      exact congrArg (Option.map some) (Value.word?_toNat n)

/- Entries that can be read, and are read as what they store. -/
structure IsStored
    {α : Type}
    (read? : Value → Option α)
    (es : Entries)
    (a : α) : Prop where
  sound : es.IsSound
  reads : read? (.table es.table) = some a

/- A text of a document is read where it is found. -/
theorem Table.optional?_text
    {name : String}
    {t : Table}
    {s : Option String}
    (hFound : t.lookup name = s.map .text) :
    t.optional? Value.text? name = some s := by
  rw [optional?_eq_readFound?, hFound, readFound?_text]

/- So is a section, whatever its default. -/
theorem IsStored.orElse?_eq
    {α : Type}
    {read? : Value → Option α}
    {es : Entries}
    {default a : α}
    {name : String}
    {t : Table}
    (hStored : IsStored read? es a)
    (hFound : t.lookup name = some (.table es.table)) :
    t.orElse? read? default name = some a := by
  rw [Table.orElse?, hFound]
  exact hStored.reads

end Toml

namespace Settings

open Toml

------------------------------------------------------------
-- Sections
------------------------------------------------------------

/- A provider is read by its name. -/
theorem Source.ofToml?_name (s : Source) :
    ofToml? (.text s.name) = some s := by
  cases s <;> rfl

/- Whether the numbers of the section can be read again. -/
def FundingSettings.Fits (s : FundingSettings) : Prop :=
  s.reconnectSecs.toNat < integerLimit ∧
    s.relayCapacity.toNat < integerLimit

/- So can those that are written if nothing is set. -/
theorem FundingSettings.fits_default : default.Fits :=
  ⟨by decide, by decide⟩

/- Whether the number of the section can be read again. -/
def FakeSettings.Fits (s : FakeSettings) : Prop :=
  ∀ n ∈ s.autoSettleMs, n.toNat < integerLimit

/- The choice of a provider is stored. -/
theorem FundingSettings.isStored
    {s : FundingSettings}
    (hFits : s.Fits) :
    IsStored ofToml? s.entries s := by
  have hWithin :
      s.entries.IsWithin
        ["source", "user_agent", "stream_reconnect_secs",
         "relay_capacity"] :=
    (Entries.isWithin_text _ _).append
      ((Entries.isWithin_text _ _).append
        ((Entries.isWithin_int _ hFits.1).append
          (Entries.isWithin_int _ hFits.2)))
  refine ⟨hWithin.isSound (by decide) (by decide), ?_⟩
  have hSource :
      Table.required? Source.ofToml? "source" s.entries.table =
        some s.source :=
    Table.required?_of_lookup rfl (Source.ofToml?_name s.source)
  have hAgent :
      Table.required? Value.text? "user_agent" s.entries.table =
        some s.userAgent :=
    Table.required?_of_lookup rfl rfl
  have hSecs :
      Table.required? Value.word? "stream_reconnect_secs"
          s.entries.table = some s.reconnectSecs :=
    Table.required?_of_lookup rfl (Value.word?_toNat _)
  have hCapacity :
      Table.required? Value.word? "relay_capacity"
          s.entries.table = some s.relayCapacity :=
    Table.required?_of_lookup rfl (Value.word?_toNat _)
  simp only [ofToml?, hWithin.record?_table, hSource, hAgent,
    hSecs, hCapacity, Option.bind_eq_bind, Option.bind_some]

/- The section of LNbits is stored. -/
theorem LnbitsSettings.isStored (s : LnbitsSettings) :
    IsStored ofToml? s.entries s := by
  have hWithin :
      s.entries.IsWithin
        ["endpoint", "key", "admin_key", "invoice_key"] :=
    (((Entries.isWithin_ofText? _ _).append
      (Entries.isWithin_ofText? _ _)).append
        (Entries.isWithin_ofText? _ _)).append
          (Entries.isWithin_ofText? _ _)
  refine ⟨hWithin.isSound (by decide) (by decide), ?_⟩
  rw [ofToml?, hWithin.record?_table]
  simp [entries, Table.optional?_eq_readFound?,
    Entries.lookup_append, Entries.lookup_ofText?,
    readFound?_text]

/- The section of LNPay is stored. -/
theorem LnpaySettings.isStored (s : LnpaySettings) :
    IsStored ofToml? s.entries s := by
  have hWithin :
      s.entries.IsWithin
        ["api_endpoint", "api_key", "wallet_key", "admin_key"] :=
    (((Entries.isWithin_ofText? _ _).append
      (Entries.isWithin_ofText? _ _)).append
        (Entries.isWithin_ofText? _ _)).append
          (Entries.isWithin_ofText? _ _)
  refine ⟨hWithin.isSound (by decide) (by decide), ?_⟩
  rw [ofToml?, hWithin.record?_table]
  simp [entries, Table.optional?_eq_readFound?,
    Entries.lookup_append, Entries.lookup_ofText?,
    readFound?_text]

/- The section of ZBD is stored. -/
theorem ZbdSettings.isStored (s : ZbdSettings) :
    IsStored ofToml? s.entries s := by
  have hWithin :
      s.entries.IsWithin ["api_endpoint", "api_key"] :=
    (Entries.isWithin_ofText? _ _).append
      (Entries.isWithin_ofText? _ _)
  refine ⟨hWithin.isSound (by decide) (by decide), ?_⟩
  rw [ofToml?, hWithin.record?_table]
  simp [entries, Table.optional?_eq_readFound?,
    Entries.lookup_append, Entries.lookup_ofText?,
    readFound?_text]

/- The section of the wallet in memory is stored. -/
theorem FakeSettings.isStored
    {s : FakeSettings}
    (hFits : s.Fits) :
    IsStored ofToml? s.entries s := by
  have hWithin : s.entries.IsWithin ["auto_settle_ms"] :=
    Entries.isWithin_ofWord? _ hFits
  refine ⟨hWithin.isSound (by decide) (by decide), ?_⟩
  rw [ofToml?, hWithin.record?_table]
  simp [entries, Table.optional?_eq_readFound?,
    Entries.lookup_ofWord?, readFound?_word]

------------------------------------------------------------
-- All Settings
------------------------------------------------------------

/- Whether the numbers of the settings can be read again. -/
structure Fits (s : Settings) : Prop where
  funding : s.funding.Fits
  fake : s.fake.Fits

/- The default settings can be. -/
theorem fits_default : default.Fits where
  funding := FundingSettings.fits_default
  fake n hNone := absurd hNone (Option.not_mem_none n)

/- The document of settings can be read where it is written. -/
theorem isSound_outline
    {s : Settings}
    (hFits : s.Fits) :
    s.outline.IsSound := by
  have hWithin :
      Entries.IsWithin ["config", "level"] s.outline.entries :=
    (Entries.isWithin_ofText? _ _).append
      (Entries.isWithin_ofText? _ _)
  refine ⟨hWithin.isSound (by decide) (by decide), ?_, ?_, ?_⟩
  · simp only [outline, List.forall_mem_cons]
    exact ⟨by decide, by decide, by decide, by decide, by decide,
      List.forall_mem_nil _⟩
  · simp only [outline, List.forall_mem_cons]
    exact ⟨(FundingSettings.isStored hFits.funding).sound,
      s.lnbits.isStored.sound, s.lnpay.isStored.sound,
      s.zbd.isStored.sound,
      (FakeSettings.isStored hFits.fake).sound,
      List.forall_mem_nil _⟩
  · refine List.Nodup.sublist
      (hWithin.names.append (List.Sublist.refl _)) ?_
    simp [outline]

/- Its table is read as the settings. -/
theorem ofToml?_table
    {s : Settings}
    (hFits : s.Fits) :
    ofToml? s.outline.table = some s := by
  rw [ofToml?, Table.optional?_text (s := s.config),
    Table.optional?_text (s := s.level),
    (FundingSettings.isStored hFits.funding).orElse?_eq,
    s.lnbits.isStored.orElse?_eq, s.lnpay.isStored.orElse?_eq,
    s.zbd.isStored.orElse?_eq,
    (FakeSettings.isStored hFits.fake).orElse?_eq]
  · rfl
  -- Each name is found where it was written.
  all_goals
    simp [Outline.lookup_table, outline, Entries.lookup_append,
      Entries.lookup_ofText?, Json.Value.lookup_cons_eq_ite]

/- Settings are read as they were written. -/
theorem read?_scheme
    {s : Settings}
    (hFits : s.Fits) :
    scheme.read? (scheme.outline s).toText = some s := by
  rw [Scheme.read?, scheme,
    Outline.parse?_toText (isSound_outline hFits)]
  exact ofToml?_table hFits

------------------------------------------------------------
-- Settings of a Host
------------------------------------------------------------

namespace HostSettings

/- The document of these settings can be read, too. -/
theorem isSound_outline
    {s : HostSettings}
    (hFits : s.funding.Fits) :
    s.outline.IsSound := by
  have hWithin : Entries.IsWithin ["level"] s.outline.entries :=
    Entries.isWithin_ofText? _ _
  refine ⟨hWithin.isSound (by decide) (by decide),
    List.forall_mem_singleton.mpr ?_,
    List.forall_mem_singleton.mpr ?_, ?_⟩
  · show IsBare "funding_settings"
    decide
  · exact (FundingSettings.isStored hFits).sound
  · refine List.Nodup.sublist
      (hWithin.names.append (List.Sublist.refl _)) ?_
    simp [outline]

/- Its table is read as the settings. -/
theorem ofToml?_table
    {s : HostSettings}
    (hFits : s.funding.Fits) :
    ofToml? s.outline.table = some s := by
  rw [ofToml?, Table.optional?_text (s := s.level),
    (FundingSettings.isStored hFits).orElse?_eq]
  · rfl
  all_goals
    simp [Outline.lookup_table, outline, Entries.lookup_ofText?,
      Json.Value.lookup_cons_eq_ite]

end HostSettings

/- Settings of a host are read as they were written. -/
theorem read?_hostScheme
    {s : HostSettings}
    (hFits : s.funding.Fits) :
    hostScheme.read? (hostScheme.outline s).toText = some s := by
  rw [Scheme.read?, hostScheme,
    Outline.parse?_toText (HostSettings.isSound_outline hFits)]
  exact HostSettings.ofToml?_table hFits

end Settings

end LightningGateway
