import LightningGateway.Backend.Lnpay
import LightningGateway.Backend.Zbd
import LightningGateway.Proofs.Json.Schema
import LightningGateway.Proofs.Payment.Decimal

/-
  The bodies of replies, provider by provider.

  What a provider may answer is listed by its fields, and what a
  body gives in a field is told by its members.  The readers of
  the wallets are held against these lists: each reads exactly
  the bodies that its fields admit, and finds what they give.

  Key definitions include:
    * `Kind.integer`, `Zbd.written`
    * `Fields.GivesText`, `Fields.GivesNumber`
    * `Zbd.Writes`, `Zbd.GivesAmount`
    * `Lnbits.lookupFields`, `Lnpay.lookupFields`,
      `Zbd.lookupFields`

  Main results:
    * `Lnbits.lookup?_isSome_iff`, `Lnbits.lookup?_gives`
    * `Lnpay.lookup?_isSome_iff`, `Lnpay.lookup?_gives`
    * `Zbd.envelope?_isSome_iff`, `Zbd.lookup?_gives`
-/

namespace LightningGateway

open Json Payment

------------------------------------------------------------
-- Texts and Numbers
------------------------------------------------------------

namespace Json

/- An integer of 64 bits with a sign. -/
def Kind.integer : Kind :=
  fun u => ∃ m n, u = .number m ∧ m.Spells n ∧
    -Msat.bound ≤ n ∧ n < Msat.bound

namespace Fields

/- The text that a body gives in a field. -/
def GivesText
    (fields : Fields)
    (t : Tree)
    (name s : String) : Prop :=
  fields.Gives t name (.text (some s))

/- The number that a body gives in a field. -/
def GivesNumber
    (fields : Fields)
    (t : Tree)
    (name : String)
    (n : Int) : Prop :=
  ∃ m, fields.Gives t name (.number m) ∧ m.Spells n

end Fields

/- An amount is read of what is an integer of 64 bits. -/
theorem ofJson?_isSome_iff (u : Tree) :
    (Msat.ofJson? u).isSome = true ↔ Kind.integer u := by
  rw [Option.isSome_iff_exists]
  simp only [Msat.ofJson?_eq_some_iff]
  constructor
  · rintro ⟨a, m, rfl, hSpells⟩
    exact ⟨m, a.value, rfl, hSpells, a.lower, a.upper⟩
  · rintro ⟨m, n, rfl, hSpells, hLower, hUpper⟩
    exact ⟨⟨n, hLower, hUpper⟩, m, rfl, hSpells⟩

namespace Fields

variable {fields : Fields}
variable {t : Tree}
variable {r : Record}
variable {name : String}

/- A field for integers gives none that is out of range. -/
theorem GivesNumber.inRange
    {n : Int}
    (hGives : fields.GivesNumber t name n)
    (hField : (name, Kind.integer) ∈ fields) :
    -Msat.bound ≤ n ∧ n < Msat.bound := by
  rcases hGives with ⟨m, hNumber, hSpells⟩
  rcases hNumber.kind hField nofun with
    ⟨l, k, hSame, hOther, hRange⟩
  cases hSame
  rw [hSpells.value_eq, ← hOther.value_eq]
  exact hRange

/- An amount is read of a field that gives its number. -/
theorem exists_ofJson?_iff {a : Msat} :
    (∃ u, fields.Gives t name u ∧ Msat.ofJson? u = some a) ↔
      fields.GivesNumber t name a.value := by
  simp only [Msat.ofJson?_eq_some_iff]
  constructor
  · rintro ⟨_, hGives, m, rfl, hSpells⟩
    exact ⟨m, hGives, hSpells⟩
  · rintro ⟨m, hGives, hSpells⟩
    exact ⟨_, hGives, m, rfl, hSpells⟩

/- An amount is read if the body gives its number. -/
theorem eq_some_iff_givesNumber
    {o : Option Msat}
    {a : Msat}
    (hNames : fields.names.Nodup)
    (hAdmits : fields.Admits t)
    (hRecord : t.record? fields.names = some r)
    (hName : name ∈ fields.names)
    (hRead : r.optional? Msat.ofJson? name = some o) :
    o = some a ↔ fields.GivesNumber t name a.value := by
  rw [eq_some_iff_gives hNames hAdmits hRecord hName rfl hRead,
    exists_ofJson?_iff]

end Fields

end Json

namespace Backend

------------------------------------------------------------
-- LNbits
------------------------------------------------------------

namespace Lnbits

/- The fields of a balance. -/
def balanceFields : Fields :=
  [("balance", Kind.integer)]

/- The fields of a new invoice, with its id under some name. -/
def createdFields (idField : String) : Fields :=
  [(idField, Kind.text), ("payment_request", Kind.text)]

/- The fields of a payment that was sent. -/
def sentFields : Fields :=
  [("payment_hash", Kind.text)]

/- The fields of the details in a lookup. -/
def detailsFields : Fields :=
  [("pending", Kind.flag), ("fee", Kind.integer)]

/- The fields of a lookup. -/
def lookupFields : Fields :=
  [("paid", Kind.flag), ("preimage", Kind.text),
   ("details", detailsFields.record)]

/- A balance is read if it is the number that stands there. -/
theorem balance?_eq_some_some_iff
    {t : Tree}
    {a : Msat} :
    balance? t = some (some a) ↔
      balanceFields.GivesNumber t "balance" a.value :=
  (Fields.single_eq_some_some_iff ofJson?_isSome_iff rfl).trans
    Fields.exists_ofJson?_iff

section Created

variable {idField : String}
variable {t : Tree}
variable (hOther : idField ≠ "payment_request")

include hOther

/- The two fields of a new invoice have different names. -/
theorem nodup_createdFields :
    (createdFields idField).names.Nodup := by
  simp [Fields.names, createdFields, hOther]

/- A new invoice is read of the bodies of its fields. -/
theorem invoice?_isSome_iff :
    (invoice? idField t).isSome = true ↔
      (createdFields idField).Admits t :=
  Fields.record?_bind_isSome_iff (nodup_createdFields hOther)
    (fun r =>
      Fields.optional?_bind_isSome_iff Tree.text?_isSome_iff
        fun _ => Fields.optional?_bind_isSome_iff
          Tree.text?_isSome_iff
          fun _ => Fields.some_isSome_iff _ r) t

/- It has the two texts that stand there. -/
theorem invoice?_gives
    {i : Option String × Option String}
    (hRead : invoice? idField t = some i)
    (s : String) :
    (i.1 = some s ↔
      (createdFields idField).GivesText t idField s) ∧
    (i.2 = some s ↔
      (createdFields idField).GivesText t "payment_request" s) := by
  have hNames := nodup_createdFields hOther
  have hAdmits := (invoice?_isSome_iff hOther).mp
    (Option.isSome_of_eq_some hRead)
  simp only [invoice?, Option.bind_eq_bind,
    Option.bind_eq_some_iff, Option.some_inj] at hRead
  rcases hRead with
    ⟨r, hRecord, id, hId, request, hRequest, rfl⟩
  constructor
  · exact Fields.eq_some_iff_gives_text hNames hAdmits hRecord
      (by simp [Fields.names, createdFields]) hId
  · exact Fields.eq_some_iff_gives_text hNames hAdmits hRecord
      (by simp [Fields.names, createdFields]) hRequest

/- Both are there if a new invoice is read with both. -/
theorem invoice?_eq_some_some_iff
    {id request : String} :
    invoice? idField t = some (some id, some request) ↔
      (createdFields idField).GivesText t idField id ∧
        (createdFields idField).GivesText t "payment_request"
          request := by
  constructor
  · intro hRead
    exact ⟨(invoice?_gives hOther hRead id).1.mp rfl,
      (invoice?_gives hOther hRead request).2.mp rfl⟩
  · rintro ⟨hId, hRequest⟩
    rcases Option.isSome_iff_exists.mp
        ((invoice?_isSome_iff hOther).mpr hId.admits) with
      ⟨i, hRead⟩
    rw [hRead, Option.some_inj]
    exact Prod.ext ((invoice?_gives hOther hRead id).1.mpr hId)
      ((invoice?_gives hOther hRead request).2.mpr hRequest)

end Created

/- A payment was sent if there is a hash for it. -/
theorem sentHash?_eq_some_some_iff
    {t : Tree}
    {hash : String} :
    sentHash? t = some (some hash) ↔
      sentFields.GivesText t "payment_hash" hash :=
  Fields.single_text_iff

/- The details of a lookup are read of the bodies of them. -/
theorem details?_isSome_iff (t : Tree) :
    (details? t).isSome = true ↔ detailsFields.record t :=
  Fields.record?_bind_isSome_iff (by decide) (fun r =>
    Fields.optional?_bind_isSome_iff Tree.bool?_isSome_iff
      fun _ => Fields.optional?_bind_isSome_iff ofJson?_isSome_iff
        fun _ => Fields.some_isSome_iff _ r) t

/- They have the flag and the fee that stand there. -/
theorem details?_gives
    {t : Tree}
    {d : Option Bool × Option Msat}
    (hRead : details? t = some d) :
    (∀ b, d.1 = some b ↔
      detailsFields.Gives t "pending" (.bool b)) ∧
    ∀ a, d.2 = some a ↔
      detailsFields.GivesNumber t "fee" a.value := by
  have hAdmits := (details?_isSome_iff t).mp
    (Option.isSome_of_eq_some hRead)
  simp only [details?, Option.bind_eq_bind,
    Option.bind_eq_some_iff, Option.some_inj] at hRead
  rcases hRead with ⟨r, hRecord, pending, hPending, fee, hFee, rfl⟩
  constructor
  · intro b
    exact Fields.eq_some_iff_gives_flag (by decide) hAdmits hRecord
      (by decide) hPending
  · intro a
    exact Fields.eq_some_iff_givesNumber (by decide) hAdmits hRecord
      (by decide) hFee

/- A lookup is read of the bodies of its fields. -/
theorem lookup?_isSome_iff (t : Tree) :
    (lookup? t).isSome = true ↔ lookupFields.Admits t :=
  Fields.record?_bind_isSome_iff (by decide) (fun r =>
    Fields.optional?_bind_isSome_iff Tree.bool?_isSome_iff
      fun _ => Fields.optional?_bind_isSome_iff
        Tree.text?_isSome_iff
        fun _ => Fields.optional?_bind_isSome_iff
          details?_isSome_iff
          fun _ => Fields.some_isSome_iff _ r) t

/- It has the flag, the preimage and the details given there. -/
theorem lookup?_gives
    {t : Tree}
    {l : Lookup}
    (hRead : lookup? t = some l) :
    (∀ b, l.paid = some b ↔
      lookupFields.Gives t "paid" (.bool b)) ∧
    (∀ p, l.preimage = some p ↔
      lookupFields.GivesText t "preimage" p) ∧
    ∀ d, l.details = some d ↔
      ∃ u, lookupFields.Gives t "details" u ∧
        details? u = some d := by
  have hAdmits := (lookup?_isSome_iff t).mp
    (Option.isSome_of_eq_some hRead)
  simp only [lookup?, Option.bind_eq_bind,
    Option.bind_eq_some_iff, Option.some_inj] at hRead
  rcases hRead with
    ⟨r, hRecord, paid, hPaid, preimage, hPreimage, details,
      hDetails, rfl⟩
  refine ⟨fun b => ?_, fun p => ?_, fun d => ?_⟩
  · exact Fields.eq_some_iff_gives_flag (by decide) hAdmits hRecord
      (by decide) hPaid
  · exact Fields.eq_some_iff_gives_text (by decide) hAdmits hRecord
      (by decide) hPreimage
  · exact Fields.eq_some_iff_gives (by decide) hAdmits hRecord
      (by decide) rfl hDetails

/- A lookup is pending or not as its details say. -/
theorem lookup?_pending_iff
    {t : Tree}
    {l : Lookup}
    (hRead : lookup? t = some l)
    (b : Bool) :
    l.details.bind (·.1) = some b ↔
      ∃ u, lookupFields.Gives t "details" u ∧
        detailsFields.Gives u "pending" (.bool b) := by
  rw [Option.bind_eq_some_iff]
  exact Fields.exists_gives_iff details?_isSome_iff
    (lookup?_gives hRead).2.2 (fun _ hFlag => hFlag.admits)
    fun _ _ hDetails => (details?_gives hDetails).1 b

/- Its fee is the number that stands in its details. -/
theorem lookup?_fee_iff
    {t : Tree}
    {l : Lookup}
    (hRead : lookup? t = some l)
    (a : Msat) :
    l.details.bind (·.2) = some a ↔
      ∃ u, lookupFields.Gives t "details" u ∧
        detailsFields.GivesNumber u "fee" a.value := by
  rw [Option.bind_eq_some_iff]
  exact Fields.exists_gives_iff details?_isSome_iff
    (lookup?_gives hRead).2.2
    (fun _ ⟨_, hNumber, _⟩ => hNumber.admits)
    fun _ _ hDetails => (details?_gives hDetails).2 a

/- It has details if there are some that are not null. -/
theorem lookup?_details_isSome_iff
    {t : Tree}
    {l : Lookup}
    (hRead : lookup? t = some l) :
    l.details.isSome = true ↔
      ∃ u, lookupFields.Gives t "details" u ∧ u ≠ .null := by
  rw [Option.isSome_iff_exists]
  simp only [(lookup?_gives hRead).2.2]
  constructor
  · rintro ⟨d, u, hField, hDetails⟩
    refine ⟨u, hField, ?_⟩
    rintro rfl
    cases hDetails
  · rintro ⟨u, hField, hPresent⟩
    have hFits : detailsFields.record u :=
      hField.kind (by simp [lookupFields]) hPresent
    rcases Option.isSome_iff_exists.mp
        ((details?_isSome_iff u).mpr hFits) with ⟨d, hDetails⟩
    exact ⟨d, u, hField, hDetails⟩

end Lnbits

------------------------------------------------------------
-- LNPay
------------------------------------------------------------

namespace Lnpay

/- The field of the status of a wallet. -/
def statusFields : Fields :=
  [("name", Kind.text)]

/- The fields of a wallet. -/
def walletFields : Fields :=
  [("id", Kind.text), ("user_label", Kind.text),
   ("balance", Kind.integer),
   ("statusType", statusFields.record)]

/- The fields of the transaction of a payment. -/
def transactionFields : Fields :=
  [("id", Kind.text), ("payment_preimage", Kind.text)]

/- The field of a payment. -/
def withdrawalFields : Fields :=
  [("lnTx", transactionFields.record)]

/- The fields of a lookup. -/
def lookupFields : Fields :=
  [("settled", Kind.integer), ("payment_preimage", Kind.text),
   ("fee_msat", Kind.integer)]

/- An integer that LNPay tells is a number in range. -/
theorem integer?_eq_some_iff
    {u : Tree}
    {n : Int} :
    integer? u = some n ↔
      (∃ m, u = .number m ∧ m.Spells n) ∧
        -Msat.bound ≤ n ∧ n < Msat.bound := by
  rw [integer?, Option.map_eq_some_iff]
  simp only [Msat.ofJson?_eq_some_iff]
  constructor
  · rintro ⟨a, hNumber, rfl⟩
    exact ⟨hNumber, a.lower, a.upper⟩
  · rintro ⟨hNumber, hLower, hUpper⟩
    exact ⟨⟨n, hLower, hUpper⟩, hNumber, rfl⟩

/- An integer is read of what is one of 64 bits. -/
theorem integer?_isSome_iff (u : Tree) :
    (integer? u).isSome = true ↔ Kind.integer u := by
  rw [integer?, Option.isSome_map, ofJson?_isSome_iff]

/- It is read of a field that gives it, if it is in range. -/
theorem exists_integer?_iff
    {fields : Fields}
    {t : Tree}
    {name : String}
    {n : Int} :
    (∃ u, fields.Gives t name u ∧ integer? u = some n) ↔
      fields.GivesNumber t name n ∧
        -Msat.bound ≤ n ∧ n < Msat.bound := by
  simp only [integer?_eq_some_iff]
  constructor
  · rintro ⟨_, hGives, ⟨m, rfl, hSpells⟩, hRange⟩
    exact ⟨⟨m, hGives, hSpells⟩, hRange⟩
  · rintro ⟨⟨m, hGives, hSpells⟩, hRange⟩
    exact ⟨_, hGives, ⟨m, rfl, hSpells⟩, hRange⟩

/- The status of a wallet is read of the bodies of its field. -/
theorem statusName?_isSome_iff (t : Tree) :
    (statusName? t).isSome = true ↔ statusFields.record t :=
  Fields.single_isSome_iff Tree.text?_isSome_iff "name" t

/- A status has a name if it is a text that stands there. -/
theorem statusName?_eq_some_some_iff
    {t : Tree}
    {name : String} :
    statusName? t = some (some name) ↔
      statusFields.GivesText t "name" name :=
  Fields.single_text_iff

/- A wallet is read of the bodies of its fields. -/
theorem walletInfo?_isSome_iff (t : Tree) :
    (walletInfo? t).isSome = true ↔ walletFields.Admits t :=
  Fields.record?_bind_isSome_iff (by decide) (fun r =>
    Fields.optional?_bind_isSome_iff Tree.text?_isSome_iff
      fun _ => Fields.optional?_bind_isSome_iff
        Tree.text?_isSome_iff
        fun _ => Fields.optional?_bind_isSome_iff
          integer?_isSome_iff
          fun _ => Fields.optional?_bind_isSome_iff
            statusName?_isSome_iff
            fun _ => Fields.some_isSome_iff _ r) t

/- It has the balance and the status that stand there. -/
theorem walletInfo?_gives
    {t : Tree}
    {i : WalletInfo}
    (hRead : walletInfo? t = some i) :
    (∀ n, i.balance = some n ↔
      walletFields.GivesNumber t "balance" n ∧
        -Msat.bound ≤ n ∧ n < Msat.bound) ∧
    ∀ name, i.status = some (some name) ↔
      ∃ u, walletFields.Gives t "statusType" u ∧
        statusFields.GivesText u "name" name := by
  have hAdmits := (walletInfo?_isSome_iff t).mp
    (Option.isSome_of_eq_some hRead)
  simp only [walletInfo?, Option.bind_eq_bind,
    Option.bind_eq_some_iff, Option.some_inj] at hRead
  rcases hRead with
    ⟨r, hRecord, id, _, label, _, balance, hBalance, status,
      hStatus, rfl⟩
  constructor
  · intro n
    rw [← exists_integer?_iff]
    exact Fields.eq_some_iff_gives (by decide) hAdmits hRecord
      (by decide) rfl hBalance
  · intro name
    simp only [← statusName?_eq_some_some_iff]
    exact Fields.eq_some_iff_gives (by decide) hAdmits hRecord
      (by decide) rfl hStatus

/- A transaction is read of the bodies of its fields. -/
theorem transaction?_isSome_iff (t : Tree) :
    (transaction? t).isSome = true ↔
      transactionFields.record t :=
  Fields.record?_bind_isSome_iff (by decide) (fun r =>
    Fields.optional?_bind_isSome_iff Tree.text?_isSome_iff
      fun _ => Fields.optional?_bind_isSome_iff
        Tree.text?_isSome_iff
        fun _ => Fields.some_isSome_iff _ r) t

/- It has the id that stands there. -/
theorem exists_transaction?_iff
    {t : Tree}
    {id : String} :
    (∃ preimage, transaction? t = some (some id, preimage)) ↔
      transactionFields.GivesText t "id" id := by
  have hGives
      {x : Option String × Option String}
      (hRead : transaction? t = some x) :
      x.1 = some id ↔ transactionFields.GivesText t "id" id := by
    have hAdmits := (transaction?_isSome_iff t).mp
      (Option.isSome_of_eq_some hRead)
    simp only [transaction?, Option.bind_eq_bind,
      Option.bind_eq_some_iff, Option.some_inj] at hRead
    rcases hRead with ⟨r, hRecord, i, hId, preimage, _, rfl⟩
    exact Fields.eq_some_iff_gives_text (by decide) hAdmits hRecord
      (by decide) hId
  constructor
  · rintro ⟨preimage, hRead⟩
    exact (hGives hRead).mp rfl
  · intro hId
    rcases Option.isSome_iff_exists.mp
        ((transaction?_isSome_iff t).mpr hId.admits) with
      ⟨⟨i, preimage⟩, hRead⟩
    cases (hGives hRead).mpr hId
    exact ⟨preimage, hRead⟩

/- A payment was sent if its transaction has an id. -/
theorem exists_withdrawal?_iff
    {t : Tree}
    {id : String} :
    (∃ preimage,
        withdrawal? t = some (some (some id, preimage))) ↔
      ∃ u, withdrawalFields.Gives t "lnTx" u ∧
        transactionFields.GivesText u "id" id := by
  have hRead (x : Option String × Option String) :
      withdrawal? t = some (some x) ↔
        ∃ u, withdrawalFields.Gives t "lnTx" u ∧
          transaction? u = some x :=
    Fields.single_eq_some_some_iff transaction?_isSome_iff rfl
  simp only [hRead, ← exists_transaction?_iff]
  constructor
  · rintro ⟨preimage, u, hGives, hTransaction⟩
    exact ⟨u, hGives, preimage, hTransaction⟩
  · rintro ⟨u, hGives, preimage, hTransaction⟩
    exact ⟨preimage, u, hGives, hTransaction⟩

/- A lookup is read of the bodies of its fields. -/
theorem lookup?_isSome_iff (t : Tree) :
    (lookup? t).isSome = true ↔ lookupFields.Admits t :=
  Fields.record?_bind_isSome_iff (by decide) (fun r =>
    Fields.optional?_bind_isSome_iff integer?_isSome_iff
      fun _ => Fields.optional?_bind_isSome_iff
        Tree.text?_isSome_iff
        fun _ => Fields.optional?_bind_isSome_iff
          ofJson?_isSome_iff
          fun _ => Fields.some_isSome_iff _ r) t

/- It has the number, the preimage and the fee given there. -/
theorem lookup?_gives
    {t : Tree}
    {l : Lookup}
    (hRead : lookup? t = some l) :
    (∀ n, l.settled = some n ↔
      lookupFields.GivesNumber t "settled" n ∧
        -Msat.bound ≤ n ∧ n < Msat.bound) ∧
    (∀ p, l.preimage = some p ↔
      lookupFields.GivesText t "payment_preimage" p) ∧
    ∀ a, l.fee = some a ↔
      lookupFields.GivesNumber t "fee_msat" a.value := by
  have hAdmits := (lookup?_isSome_iff t).mp
    (Option.isSome_of_eq_some hRead)
  simp only [lookup?, Option.bind_eq_bind,
    Option.bind_eq_some_iff, Option.some_inj] at hRead
  rcases hRead with
    ⟨r, hRecord, settled, hSettled, preimage, hPreimage, fee,
      hFee, rfl⟩
  refine ⟨fun n => ?_, fun p => ?_, fun a => ?_⟩
  · rw [← exists_integer?_iff]
    exact Fields.eq_some_iff_gives (by decide) hAdmits hRecord
      (by decide) rfl hSettled
  · exact Fields.eq_some_iff_gives_text (by decide) hAdmits hRecord
      (by decide) hPreimage
  · exact Fields.eq_some_iff_givesNumber (by decide) hAdmits
      hRecord (by decide) hFee

end Lnpay

------------------------------------------------------------
-- ZBD
------------------------------------------------------------

namespace Zbd

/- A number, or any text. -/
def written : Kind :=
  fun u => Kind.text u ∨ Kind.integer u

/-
  The amount that ZBD writes: a number, or a text that spells
  one between blanks.
-/
inductive Writes : Tree → Int → Prop
  | number
      {m : Numeral}
      {n : Int}
      (hSpells : m.Spells n) :
      Writes (.number m) n
  | text
      {text : String}
      {n : Int}
      (hSpells : Spells (Text.trimBlank text.toList) n) :
      Writes (.text (some text)) n

/- The amount that a body writes in a field. -/
def GivesAmount
    (fields : Fields)
    (t : Tree)
    (name : String)
    (n : Int) : Prop :=
  ∃ u, fields.Gives t name u ∧ Writes u n

/- The field of an envelope with a body of some fields. -/
def envelopeFields (inner : Fields) : Fields :=
  [("data", inner.record)]

/- The field of a balance. -/
def balanceFields : Fields :=
  [("balance", written)]

/- The field of the invoice of a charge. -/
def requestFields : Fields :=
  [("request", Kind.text)]

/- The fields of a charge. -/
def chargeFields : Fields :=
  [("id", Kind.text), ("invoice", requestFields.record)]

/- The fields of a payment. -/
def paymentFields : Fields :=
  [("fee", written), ("preimage", Kind.text)]

/- The fields of a lookup. -/
def lookupFields : Fields :=
  [("status", Kind.text), ("preimage", Kind.text),
   ("fee", written)]

/- A written amount is read of a number or a text. -/
theorem ofJson?_isSome_iff (u : Tree) :
    (WrittenAmount.ofJson? u).isSome = true ↔ written u := by
  unfold WrittenAmount.ofJson? written
  split
  · rename_i s
    cases s <;> simp [Kind.text, Kind.integer]
  · rename_i hText
    have hNot : ¬Kind.text u := by
      rintro ⟨s, rfl⟩
      exact hText _ rfl
    rw [Option.isSome_map, Json.ofJson?_isSome_iff,
      or_iff_right hNot]

/- An amount that ZBD writes is the one that is read. -/
theorem exists_written_iff
    {u : Tree}
    {b : Msat} :
    (∃ a, WrittenAmount.ofJson? u = some a ∧
        a.value? = some b) ↔
      Writes u b.value := by
  constructor
  · rintro ⟨a, hRead, hValue⟩
    unfold WrittenAmount.ofJson? at hRead
    split at hRead
    · rcases Option.map_eq_some_iff.mp hRead with
        ⟨text, rfl, rfl⟩
      exact .text (Msat.ofDecimal?_eq_some_iff.mp hValue)
    · rcases Option.map_eq_some_iff.mp hRead with
        ⟨c, hNumber, rfl⟩
      cases hValue
      rcases Msat.ofJson?_eq_some_iff.mp hNumber with
        ⟨m, rfl, hSpells⟩
      exact .number hSpells
  · intro hWrites
    generalize hValue : b.value = n at hWrites
    cases hWrites with
    | number hSpells =>
        rw [← hValue] at hSpells
        have hNumber :=
          Msat.ofJson?_eq_some_iff.mpr ⟨_, rfl, hSpells⟩
        exact ⟨.number b,
          Option.map_eq_some_iff.mpr ⟨b, hNumber, rfl⟩, rfl⟩
    | @text text _ hSpells =>
        rw [← hValue] at hSpells
        exact ⟨.text text, rfl,
          Msat.ofDecimal?_eq_some_iff.mpr hSpells⟩

/- A written amount is read of a field that writes it. -/
theorem exists_value?_iff
    {fields : Fields}
    {t : Tree}
    {name : String}
    {b : Msat} :
    (∃ a, (∃ u, fields.Gives t name u ∧
        WrittenAmount.ofJson? u = some a) ∧ a.value? = some b) ↔
      GivesAmount fields t name b.value := by
  simp only [GivesAmount, ← exists_written_iff]
  constructor
  · rintro ⟨a, ⟨u, hGives, hRead⟩, hValue⟩
    exact ⟨u, hGives, a, hRead, hValue⟩
  · rintro ⟨u, hGives, a, hRead, hValue⟩
    exact ⟨a, ⟨u, hGives, hRead⟩, hValue⟩

/- An envelope is read if it holds nothing or what can be read. -/
theorem envelope?_isSome_iff
    {α : Type}
    {read? : Tree → Option α}
    {inner : Fields}
    (hReads : ∀ u, (read? u).isSome = true ↔ inner.Admits u)
    (t : Tree) :
    (envelope? read? t).isSome = true ↔
      (envelopeFields inner).Admits t :=
  Fields.single_isSome_iff hReads "data" t

/- What an envelope holds is read if it can be. -/
theorem envelope?_eq_some_some_iff
    {α : Type}
    {read? : Tree → Option α}
    {inner : Fields}
    {t : Tree}
    {a : α}
    (hReads : ∀ u, (read? u).isSome = true ↔ inner.Admits u) :
    envelope? read? t = some (some a) ↔
      ∃ u, (envelopeFields inner).Gives t "data" u ∧
        read? u = some a := by
  have hNull : read? .null = none := by
    rw [← Option.not_isSome_iff_eq_none, hReads]
    exact inner.not_admits_null
  exact Fields.single_eq_some_some_iff hReads hNull

/- A balance is read of the bodies of its field. -/
theorem balance?_isSome_iff (t : Tree) :
    (balance? t).isSome = true ↔ balanceFields.Admits t :=
  Fields.single_isSome_iff ofJson?_isSome_iff "balance" t

/- It is the amount that is written there. -/
theorem exists_balance?_iff
    {t : Tree}
    {b : Msat} :
    (∃ a, balance? t = some (some a) ∧ a.value? = some b) ↔
      GivesAmount balanceFields t "balance" b.value := by
  have hRead (a : WrittenAmount) :
      balance? t = some (some a) ↔
        ∃ u, balanceFields.Gives t "balance" u ∧
          WrittenAmount.ofJson? u = some a :=
    Fields.single_eq_some_some_iff ofJson?_isSome_iff rfl
  simp only [hRead, exists_value?_iff]

/- The invoice of a charge is read of the bodies of its field. -/
theorem request?_isSome_iff (t : Tree) :
    (request? t).isSome = true ↔ requestFields.record t :=
  Fields.single_isSome_iff Tree.text?_isSome_iff "request" t

/- A charge is read of the bodies of its fields. -/
theorem charge?_isSome_iff (t : Tree) :
    (charge? t).isSome = true ↔ chargeFields.Admits t :=
  Fields.record?_bind_isSome_iff (by decide) (fun r =>
    Fields.optional?_bind_isSome_iff Tree.text?_isSome_iff
      fun _ => Fields.optional?_bind_isSome_iff
        request?_isSome_iff
        fun _ => Fields.some_isSome_iff _ r) t

/- It is a whole one if its id and its request stand there. -/
theorem charge?_eq_some_iff
    {t : Tree}
    {id request : String} :
    charge? t = some (some id, some (some request)) ↔
      chargeFields.GivesText t "id" id ∧
        ∃ u, chargeFields.Gives t "invoice" u ∧
          requestFields.GivesText u "request" request := by
  have hGives
      {c : Option String × Option (Option String)}
      (hRead : charge? t = some c) :
      (c.1 = some id ↔ chargeFields.GivesText t "id" id) ∧
        (c.2 = some (some request) ↔
          ∃ u, chargeFields.Gives t "invoice" u ∧
            requestFields.GivesText u "request" request) := by
    have hAdmits := (charge?_isSome_iff t).mp
      (Option.isSome_of_eq_some hRead)
    simp only [charge?, Option.bind_eq_bind,
      Option.bind_eq_some_iff, Option.some_inj] at hRead
    rcases hRead with
      ⟨r, hRecord, i, hId, invoice, hInvoice, rfl⟩
    have hRequest (u : Tree) :
        request? u = some (some request) ↔
          requestFields.GivesText u "request" request :=
      Fields.single_text_iff
    constructor
    · exact Fields.eq_some_iff_gives_text (by decide) hAdmits
        hRecord (by decide) hId
    · simp only [← hRequest]
      exact Fields.eq_some_iff_gives (by decide) hAdmits hRecord
        (by decide) rfl hInvoice
  constructor
  · intro hRead
    exact ⟨(hGives hRead).1.mp rfl, (hGives hRead).2.mp rfl⟩
  · rintro ⟨hId, hInvoice⟩
    rcases Option.isSome_iff_exists.mp
        ((charge?_isSome_iff t).mpr hId.admits) with ⟨c, hRead⟩
    rw [hRead, Option.some_inj]
    exact Prod.ext ((hGives hRead).1.mpr hId)
      ((hGives hRead).2.mpr hInvoice)

/- A payment is read of the bodies of its fields. -/
theorem payment?_isSome_iff (t : Tree) :
    (payment? t).isSome = true ↔ paymentFields.Admits t :=
  Fields.record?_bind_isSome_iff (by decide) (fun r =>
    Fields.optional?_bind_isSome_iff ofJson?_isSome_iff
      fun _ => Fields.optional?_bind_isSome_iff
        Tree.text?_isSome_iff
        fun _ => Fields.some_isSome_iff _ r) t

/- Its fee is the amount that is written there. -/
theorem payment?_gives
    {t : Tree}
    {p : Option WrittenAmount × Option String}
    (hRead : payment? t = some p)
    (b : Msat) :
    p.1.bind WrittenAmount.value? = some b ↔
      GivesAmount paymentFields t "fee" b.value := by
  have hAdmits := (payment?_isSome_iff t).mp
    (Option.isSome_of_eq_some hRead)
  simp only [payment?, Option.bind_eq_bind,
    Option.bind_eq_some_iff, Option.some_inj] at hRead
  rcases hRead with ⟨r, hRecord, fee, hFee, preimage, _, rfl⟩
  rw [Option.bind_eq_some_iff, ← exists_value?_iff]
  refine exists_congr fun a => and_congr_left fun _ => ?_
  exact Fields.eq_some_iff_gives (by decide) hAdmits hRecord
    (by decide) rfl hFee

/- A lookup is read of the bodies of its fields. -/
theorem lookup?_isSome_iff (t : Tree) :
    (lookup? t).isSome = true ↔ lookupFields.Admits t :=
  Fields.record?_bind_isSome_iff (by decide) (fun r =>
    Fields.optional?_bind_isSome_iff Tree.text?_isSome_iff
      fun _ => Fields.optional?_bind_isSome_iff
        Tree.text?_isSome_iff
        fun _ => Fields.optional?_bind_isSome_iff
          ofJson?_isSome_iff
          fun _ => Fields.some_isSome_iff _ r) t

/- It has the word, the preimage and the fee given there. -/
theorem lookup?_gives
    {t : Tree}
    {l : Lookup}
    (hRead : lookup? t = some l) :
    (∀ word, l.status = some word ↔
      lookupFields.GivesText t "status" word) ∧
    (∀ p, l.preimage = some p ↔
      lookupFields.GivesText t "preimage" p) ∧
    ∀ b : Msat, l.fee.bind WrittenAmount.value? = some b ↔
      GivesAmount lookupFields t "fee" b.value := by
  have hAdmits := (lookup?_isSome_iff t).mp
    (Option.isSome_of_eq_some hRead)
  simp only [lookup?, Option.bind_eq_bind,
    Option.bind_eq_some_iff, Option.some_inj] at hRead
  rcases hRead with
    ⟨r, hRecord, status, hStatus, preimage, hPreimage, fee, hFee,
      rfl⟩
  refine ⟨fun word => ?_, fun p => ?_, fun b => ?_⟩
  · exact Fields.eq_some_iff_gives_text (by decide) hAdmits hRecord
      (by decide) hStatus
  · exact Fields.eq_some_iff_gives_text (by decide) hAdmits hRecord
      (by decide) hPreimage
  · rw [Option.bind_eq_some_iff, ← exists_value?_iff]
    refine exists_congr fun a => and_congr_left fun _ => ?_
    exact Fields.eq_some_iff_gives (by decide) hAdmits hRecord
      (by decide) rfl hFee

section Data

variable {t : Tree}
variable {data : Option Lookup}
variable (hRead : envelope? lookup? t = some data)

include hRead

/- What is read of a lookup is read of what an envelope holds. -/
theorem exists_data_iff
    {P : Tree → Prop}
    {Q : Lookup → Prop}
    (hAdmits : ∀ u, P u → lookupFields.Admits u)
    (hPart : ∀ u l, lookup? u = some l → (Q l ↔ P u)) :
    (∃ l, data = some l ∧ Q l) ↔
      ∃ u, (envelopeFields lookupFields).Gives t "data" u ∧
        P u := by
  refine Fields.exists_gives_iff lookup?_isSome_iff ?_ hAdmits
    hPart
  intro l
  rw [← envelope?_eq_some_some_iff lookup?_isSome_iff, hRead,
    Option.some_inj]

/- A lookup has the word that stands in the envelope. -/
theorem status_iff (word : String) :
    data.bind Lookup.status = some word ↔
      ∃ u, (envelopeFields lookupFields).Gives t "data" u ∧
        lookupFields.GivesText u "status" word := by
  rw [Option.bind_eq_some_iff]
  exact exists_data_iff hRead (fun _ hText => hText.admits)
    fun _ _ hLookup => (lookup?_gives hLookup).1 word

/- It has the preimage that stands there. -/
theorem preimage_iff (p : String) :
    data.bind Lookup.preimage = some p ↔
      ∃ u, (envelopeFields lookupFields).Gives t "data" u ∧
        lookupFields.GivesText u "preimage" p := by
  rw [Option.bind_eq_some_iff]
  exact exists_data_iff hRead (fun _ hText => hText.admits)
    fun _ _ hLookup => (lookup?_gives hLookup).2.1 p

/- It has the fee that is written there. -/
theorem fee_iff (b : Msat) :
    (data.bind Lookup.fee).bind WrittenAmount.value? = some b ↔
      ∃ u, (envelopeFields lookupFields).Gives t "data" u ∧
        GivesAmount lookupFields u "fee" b.value := by
  rw [Option.bind_assoc, Option.bind_eq_some_iff]
  exact exists_data_iff hRead
    (fun _ ⟨_, hField, _⟩ => hField.admits)
    fun _ _ hLookup => (lookup?_gives hLookup).2.2 b

end Data

end Zbd

end Backend

end LightningGateway
