import LightningGateway.Proofs.Backend.Bodies
import LightningGateway.Proofs.Payment.Status
import LightningGateway.Proofs.Provider.Outcome
import LightningGateway.Wallet

/-
  What a lookup may report.

  A wallet with a provider reports that an invoice or a payment
  has succeeded or failed only if the provider's reply says so,
  in the words of that provider.  Whatever else happens, it
  reports that the state is not known yet.

  What a reply says is told by the members of its body and by
  the provider's words, without the readers and the tables of
  the wallets.

  Key definitions include:
    * `Wallet.lookUp`
    * `Wallet.Says`
    * `Wallet.GivesFee`, `Wallet.GivesPreimage`
    * `Wallet.Tells`
    * `Wallet.Shows`

  Main results:
    * `Wallet.tells_iff`
    * `Wallet.lookUp_reports`
-/

namespace LightningGateway

open Backend Payment Provider

------------------------------------------------------------
-- Fees
------------------------------------------------------------

namespace Backend.Zbd

/- The fee that a wallet reports, if it can report it at all. -/
def reportedFee?
    (d : Direction)
    (fee : Option WrittenAmount) : Option (Option Msat) :=
  match d, fee.bind WrittenAmount.value? with
  | .incoming, v => some v
  | .outgoing, none => some none
  | .outgoing, some a => a.neg?.map some

/- A reply is only named in the error of its fee. -/
theorem toOption_feeOf
    (d : Direction)
    (r : Reply)
    (fee : Option WrittenAmount) :
    (feeOf d r fee).toOption = reportedFee? d fee := by
  cases d with
  | incoming => rfl
  | outgoing =>
      unfold feeOf outgoingFee reportedFee?
      cases fee.bind WrittenAmount.value? with
      | none => rfl
      | some a =>
          cases hNeg : a.neg? <;> simp [hNeg, Except.toOption]

/- The fee of a charge is reported if it can be read. -/
theorem reportedFee?_incoming (fee : Option WrittenAmount) :
    reportedFee? .incoming fee =
      some (fee.bind WrittenAmount.value?) := by
  unfold reportedFee?
  cases fee.bind WrittenAmount.value? <;> rfl

/- The fee of a payment is reported with its sign changed. -/
theorem reportedFee?_outgoing_iff
    {fee : Option WrittenAmount}
    {f : Option Msat} :
    reportedFee? .outgoing fee = some f ↔
      f.map Msat.value =
        (fee.bind WrittenAmount.value?).map (-·.value) := by
  unfold reportedFee?
  cases fee.bind WrittenAmount.value? with
  | none => cases f <;> simp
  | some a =>
      cases f with
      | none => simp
      | some b => simp [Msat.neg?, Msat.ofInt?_eq_some_iff]

end Backend.Zbd

------------------------------------------------------------
-- Reports
------------------------------------------------------------

namespace Wallet

/- What is looked up. -/
inductive Subject where
  | invoice
  | payment
  deriving DecidableEq, Repr

/- Look an invoice or a payment up. -/
def lookUp
    (w : Wallet)
    (subject : Subject)
    (id : String) : Dialogue SettlementStatus :=
  match subject with
  | .invoice => w.invoiceStatus id
  | .payment => w.paymentStatus id

/-
  Whether a body says that an invoice or a payment has succeeded
  or has failed:

    * at LNbits an invoice is paid or not by the flag `paid`,
      unless its details say that it is pending;
    * at LNbits a payment is paid by the same flag if there are
      details, and no flag makes it a failure;
    * at LNPay the number `settled` is one or minus one;
    * at ZBD the `status` is one of two words for either.
-/
inductive Says : Wallet → Subject → Json.Tree → Bool → Prop
  | lnbitsInvoice
      {w : Lnbits}
      {t : Json.Tree}
      {paid : Bool}
      (hPaid : Lnbits.lookupFields.Gives t "paid" (.bool paid))
      (hPending : ∀ u, Lnbits.lookupFields.Gives t "details" u →
        ¬Lnbits.detailsFields.Gives u "pending" (.bool true)) :
      Says (.lnbits w) .invoice t paid
  | lnbitsPayment
      {w : Lnbits}
      {t u : Json.Tree}
      (hPaid : Lnbits.lookupFields.Gives t "paid" (.bool true))
      (hDetails : Lnbits.lookupFields.Gives t "details" u)
      (hPresent : u ≠ .null) :
      Says (.lnbits w) .payment t true
  | lnpaySettled
      {w : Lnpay}
      {subject : Subject}
      {t : Json.Tree}
      (hSettled : Lnpay.lookupFields.GivesNumber t "settled" 1) :
      Says (.lnpay w) subject t true
  | lnpayFailed
      {w : Lnpay}
      {subject : Subject}
      {t : Json.Tree}
      (hSettled :
        Lnpay.lookupFields.GivesNumber t "settled" (-1)) :
      Says (.lnpay w) subject t false
  | zbdPaid
      {w : Zbd}
      {subject : Subject}
      {t u : Json.Tree}
      {word : String}
      (hData :
        (Zbd.envelopeFields Zbd.lookupFields).Gives t "data" u)
      (hWord : Zbd.lookupFields.GivesText u "status" word)
      (hPaid : word = "completed" ∨ word = "paid") :
      Says (.zbd w) subject t true
  | zbdFailed
      {w : Zbd}
      {subject : Subject}
      {t u : Json.Tree}
      {word : String}
      (hData :
        (Zbd.envelopeFields Zbd.lookupFields).Gives t "data" u)
      (hWord : Zbd.lookupFields.GivesText u "status" word)
      (hFailed : word = "failed" ∨ word = "expired") :
      Says (.zbd w) subject t false

/-
  The fee that a body gives, as the wallet counts it: what a ZBD
  payment has cost is counted with the other sign, and that of
  an LNbits invoice is not looked at.
-/
inductive GivesFee : Wallet → Subject → Json.Tree → Int → Prop
  | lnbits
      {w : Lnbits}
      {t u : Json.Tree}
      {n : Int}
      (hDetails : Lnbits.lookupFields.Gives t "details" u)
      (hFee : Lnbits.detailsFields.GivesNumber u "fee" n) :
      GivesFee (.lnbits w) .payment t n
  | lnpay
      {w : Lnpay}
      {subject : Subject}
      {t : Json.Tree}
      {n : Int}
      (hFee : Lnpay.lookupFields.GivesNumber t "fee_msat" n) :
      GivesFee (.lnpay w) subject t n
  | zbdInvoice
      {w : Zbd}
      {t u : Json.Tree}
      {n : Int}
      (hData :
        (Zbd.envelopeFields Zbd.lookupFields).Gives t "data" u)
      (hFee : Zbd.GivesAmount Zbd.lookupFields u "fee" n)
      (hLower : -Msat.bound ≤ n)
      (hUpper : n < Msat.bound) :
      GivesFee (.zbd w) .invoice t n
  | zbdPayment
      {w : Zbd}
      {t u : Json.Tree}
      {n : Int}
      (hData :
        (Zbd.envelopeFields Zbd.lookupFields).Gives t "data" u)
      (hFee : Zbd.GivesAmount Zbd.lookupFields u "fee" n)
      (hLower : -Msat.bound ≤ n)
      (hUpper : n < Msat.bound) :
      GivesFee (.zbd w) .payment t (-n)

/- The preimage that a body gives; none of an LNbits invoice. -/
inductive GivesPreimage :
    Wallet → Subject → Json.Tree → String → Prop
  | lnbits
      {w : Lnbits}
      {t : Json.Tree}
      {p : String}
      (hPreimage : Lnbits.lookupFields.GivesText t "preimage" p) :
      GivesPreimage (.lnbits w) .payment t p
  | lnpay
      {w : Lnpay}
      {subject : Subject}
      {t : Json.Tree}
      {p : String}
      (hPreimage :
        Lnpay.lookupFields.GivesText t "payment_preimage" p) :
      GivesPreimage (.lnpay w) subject t p
  | zbd
      {w : Zbd}
      {subject : Subject}
      {t u : Json.Tree}
      {p : String}
      (hData :
        (Zbd.envelopeFields Zbd.lookupFields).Gives t "data" u)
      (hPreimage : Zbd.lookupFields.GivesText u "preimage" p) :
      GivesPreimage (.zbd w) subject t p

/-
  The success or the failure that the body of a reply tells: it
  says so, the fee that it gives is in range, and a success has
  the fee and the preimage that it gives, if it gives any.  The
  only fee out of range is that of a ZBD payment whose cost is
  the smallest amount.
-/
inductive Tells
    (w : Wallet)
    (subject : Subject)
    (t : Json.Tree) : SettlementStatus → Prop
  | success
      {fee : Option Msat}
      {preimage : Option String}
      (hSays : w.Says subject t true)
      (hRange : ∀ n, w.GivesFee subject t n → n < Msat.bound)
      (hFee : ∀ a : Msat,
        fee = some a ↔ w.GivesFee subject t a.value)
      (hPreimage : ∀ p,
        preimage = some p ↔ w.GivesPreimage subject t p) :
      Tells w subject t (.success fee preimage)
  | failed
      (hSays : w.Says subject t false)
      (hRange : ∀ n, w.GivesFee subject t n → n < Msat.bound) :
      Tells w subject t .failed

/-
  A reply shows a success or a failure if its status is no error
  and its body tells that.
-/
def Shows
    (w : Wallet)
    (subject : Subject)
    (o : Outcome)
    (s : SettlementStatus) : Prop :=
  ∃ r t, o = .reply r ∧
    ¬(400 ≤ r.status ∧ r.status < 600) ∧
    Json.Tree.parse? r.body = some t ∧
    w.Tells subject t s

/- The side of a ZBD wallet's money that a lookup is about. -/
def Subject.direction : Subject → Zbd.Direction
  | .invoice => .incoming
  | .payment => .outgoing

/- What a ZBD wallet makes of a lookup, if its fee allows. -/
def zbdReport?
    (d : Zbd.Direction) :
    Option Zbd.Lookup → Option SettlementStatus
  | some ⟨some token, preimage, fee⟩ =>
      (Zbd.reportedFee? d fee).map fun f =>
        Zbd.statusTable.resolveWith token f preimage
  | _ => some .pending

/- The state that the body of a reply gives, if it can be read. -/
def report?
    (w : Wallet)
    (subject : Subject)
    (t : Json.Tree) : Option SettlementStatus :=
  match w, subject with
  | .lnbits _, .invoice =>
      (Lnbits.lookup? t).map Lnbits.Lookup.invoiceStatus
  | .lnbits _, .payment =>
      (Lnbits.lookup? t).map Lnbits.Lookup.paymentStatus
  | .lnpay _, _ => (Lnpay.lookup? t).map Lnpay.Lookup.status
  | .zbd _, subject =>
      (Zbd.envelope? Zbd.lookup? t).bind
        (zbdReport? subject.direction)
  | .memory _, _ => none

------------------------------------------------------------
-- What Wallets Make of Outcomes
------------------------------------------------------------

/- An LNbits wallet reads a body or reports a pending state. -/
theorem lnbits_statusOf
    (w : Lnbits)
    (read : Lnbits.Lookup → SettlementStatus)
    (o : Outcome) :
    w.statusOf read o =
      ((o.tree?.bind Lnbits.lookup?).map read).getD
        .pending := by
  cases o with
  | reply r =>
      rw [Outcome.bind_tree?]
      simp only [Lnbits.statusOf, Client.receive,
        Except.toOption, Option.bind_some, Lnbits.readLookup?]
      split <;> simp_all
  | _ => rfl

/- An LNPay wallet reads a body or reports a pending state. -/
theorem lnpay_statusOf
    (w : Lnpay)
    (o : Outcome) :
    w.statusOf o =
      ((o.tree?.bind Lnpay.lookup?).map
        Lnpay.Lookup.status).getD .pending := by
  cases o with
  | reply r =>
      rw [Outcome.bind_tree?]
      simp only [Lnpay.statusOf, Client.receive, Except.bind,
        Lnpay.readStatus]
      by_cases hError : r.isError = true
      · simp only [if_pos hError]
        rfl
      · simp only [if_neg hError]
        cases r.read Lnpay.lookup? <;> rfl
  | _ => rfl

/- A ZBD wallet reads a body or reports a pending state. -/
theorem zbd_statusOf
    (w : Zbd)
    (d : Zbd.Direction)
    (o : Outcome) :
    w.statusOf d o =
      ((o.tree?.bind (Zbd.envelope? Zbd.lookup?)).bind
        (zbdReport? d)).getD .pending := by
  cases o with
  | reply r =>
      rw [Outcome.bind_tree?]
      simp only [Zbd.statusOf, Client.receive, Except.bind,
        Zbd.readStatus]
      by_cases hError : r.isError = true
      · simp only [if_pos hError]
        rfl
      · simp only [if_neg hError]
        rcases r.read (Zbd.envelope? Zbd.lookup?) with
          e | _ | ⟨_ | token, preimage, fee⟩
        · rfl
        · rfl
        · rfl
        · simp only [Except.toOption, Option.bind_some,
            zbdReport?, ← Zbd.toOption_feeOf d r]
          cases Zbd.feeOf d r fee <;> rfl
  | _ => rfl

/- A lookup makes one call and gives what its outcome reports. -/
theorem resultOf?_lookUp
    {w : Wallet}
    (hProvider : w.client?.isSome = true)
    (subject : Subject)
    (id : String)
    (o : Outcome)
    (rest : List Outcome) :
    (w.lookUp subject id).resultOf? (o :: rest) =
      some ((o.tree?.bind (w.report? subject)).getD
        .pending) := by
  cases w with
  | lnbits v =>
      cases subject with
      | invoice =>
          refine congrArg some
            ((lnbits_statusOf v _ o).trans ?_)
          cases o.tree? <;> rfl
      | payment =>
          refine congrArg some
            ((lnbits_statusOf v _ o).trans ?_)
          cases o.tree? <;> rfl
  | lnpay v =>
      have hStatus :
          v.statusOf o =
            (o.tree?.bind ((lnpay v).report? subject)).getD
              .pending := by
        rw [lnpay_statusOf]
        cases o.tree? <;> rfl
      cases subject <;> exact congrArg some hStatus
  | zbd v =>
      cases subject with
      | invoice =>
          refine congrArg some ((zbd_statusOf v _ o).trans ?_)
          cases o.tree? <;> rfl
      | payment =>
          refine congrArg some ((zbd_statusOf v _ o).trans ?_)
          cases o.tree? <;> rfl
  | memory l => cases hProvider

------------------------------------------------------------
-- What Bodies Tell
------------------------------------------------------------

/- The state of an LNbits invoice, by whether it is pending. -/
theorem lnbits_invoiceStatus (l : Lnbits.Lookup) :
    l.invoiceStatus =
      if l.details.bind (·.1) = some true then .pending
      else Lnbits.statusTable.resolveWith l.paid none none := by
  rw [← StatusTable.resolve_eq_resolveWith]
  unfold Lnbits.Lookup.invoiceStatus
  rcases l.details.bind (·.1) with _ | _ | _ <;> rfl

/-
  What a body tells, given the terms that it gives: a success on
  these terms, or a failure, as it says.
-/
theorem tells_iff_readings
    {w : Wallet}
    {subject : Subject}
    {t : Json.Tree}
    {s : SettlementStatus}
    (fee : Option Msat)
    (preimage : Option String)
    (hRange : ∀ n, w.GivesFee subject t n → n < Msat.bound)
    (hFee : ∀ a : Msat,
      fee = some a ↔ w.GivesFee subject t a.value)
    (hPreimage : ∀ p,
      preimage = some p ↔ w.GivesPreimage subject t p) :
    w.Tells subject t s ↔
      (w.Says subject t true ∧ s = .success fee preimage) ∨
        (w.Says subject t false ∧ s = .failed) := by
  constructor
  · intro hTells
    cases hTells with
    | @success fee' preimage' hSays _ hFee' hPreimage' =>
        have hSameFee : fee' = fee := by
          refine Option.ext fun a => ?_
          rw [hFee', hFee]
        have hSamePreimage : preimage' = preimage := by
          refine Option.ext fun p => ?_
          rw [hPreimage', hPreimage]
        rw [hSameFee, hSamePreimage]
        exact .inl ⟨hSays, rfl⟩
    | failed hSays _ => exact .inr ⟨hSays, rfl⟩
  · rintro (⟨hSays, rfl⟩ | ⟨hSays, rfl⟩)
    · exact .success hSays hRange hFee hPreimage
    · exact .failed hSays hRange

/-
  A body tells what it makes a wallet report, if no body that
  cannot be read says anything and each that can be read tells
  its report.
-/
theorem tells_iff_of_read
    {α : Type}
    {w : Wallet}
    {subject : Subject}
    {t : Json.Tree}
    {s : SettlementStatus}
    {read : Option α}
    {state? : α → Option SettlementStatus}
    (hSays : ∀ b, w.Says subject t b → read.isSome = true)
    (hRead : ∀ l, read = some l →
      (w.Tells subject t s ↔ state? l = some s ∧ s ≠ .pending)) :
    w.Tells subject t s ↔
      read.bind state? = some s ∧ s ≠ .pending := by
  cases read with
  | none =>
      constructor
      · intro hTells
        cases hTells with
        | success hSuccess => cases hSays true hSuccess
        | failed hFailure => cases hSays false hFailure
      · rintro ⟨hReport, _⟩
        cases hReport
  | some l => exact hRead l rfl

section Lnbits

variable {w : Lnbits}
variable {t : Json.Tree}
variable {l : Lnbits.Lookup}

/- What a body says of an LNbits invoice, by what is read. -/
theorem says_lnbits_invoice_iff
    (hRead : Lnbits.lookup? t = some l)
    (b : Bool) :
    (lnbits w).Says .invoice t b ↔
      l.paid = some b ∧ l.details.bind (·.1) ≠ some true := by
  rw [(Lnbits.lookup?_gives hRead).1, Ne,
    Lnbits.lookup?_pending_iff hRead]
  constructor
  · rintro (⟨hPaid, hPending⟩ | _)
    exact ⟨hPaid, fun ⟨u, hField, hTrue⟩ =>
      hPending u hField hTrue⟩
  · rintro ⟨hPaid, hPending⟩
    exact .lnbitsInvoice hPaid fun u hField hTrue =>
      hPending ⟨u, hField, hTrue⟩

/- What a body says of an LNbits payment, by what is read. -/
theorem says_lnbits_payment_iff
    (hRead : Lnbits.lookup? t = some l)
    (b : Bool) :
    (lnbits w).Says .payment t b ↔
      b = true ∧ l.paid = some true ∧ l.details.isSome = true := by
  rw [(Lnbits.lookup?_gives hRead).1,
    Lnbits.lookup?_details_isSome_iff hRead]
  constructor
  · rintro (_ | ⟨hPaid, hDetails, hPresent⟩)
    exact ⟨rfl, hPaid, _, hDetails, hPresent⟩
  · rintro ⟨rfl, hPaid, u, hDetails, hPresent⟩
    exact .lnbitsPayment hPaid hDetails hPresent

/- A body that says anything at LNbits can be read. -/
theorem Says.lnbits_isSome
    {subject : Subject}
    {b : Bool}
    (hSays : (lnbits w).Says subject t b) :
    (Lnbits.lookup? t).isSome = true := by
  rw [Lnbits.lookup?_isSome_iff]
  cases hSays with
  | lnbitsInvoice hPaid => exact hPaid.admits
  | lnbitsPayment hPaid => exact hPaid.admits

/- A payment is reported if it is paid and there are details. -/
theorem lnbits_paymentStatus_iff
    (l : Lnbits.Lookup)
    (s : SettlementStatus) :
    l.paymentStatus = s ∧ s ≠ .pending ↔
      (l.paid = some true ∧ l.details.isSome = true) ∧
        s = .success (l.details.bind (·.2)) l.preimage := by
  have hPending :
      .pending = s ∧ s ≠ .pending ↔ False :=
    iff_false_intro fun ⟨hState, hKnown⟩ => hKnown hState.symm
  rcases l with ⟨_ | _ | _, preimage, _ | details⟩
  case some.true.some =>
    have hPaid :
        Lnbits.statusTable.resolveWith (some true) details.2
          preimage = .success details.2 preimage := rfl
    simp only [Lnbits.Lookup.paymentStatus, hPaid,
      Option.isSome_some, Option.bind_some, and_self, true_and]
    constructor
    · rintro ⟨rfl, _⟩
      rfl
    · rintro rfl
      exact ⟨rfl, nofun⟩
  all_goals
    simp [Lnbits.Lookup.paymentStatus, hPending]

/- An LNbits invoice, by its flag unless it is pending. -/
theorem tells_lnbits_invoice_iff
    {s : SettlementStatus} :
    (lnbits w).Tells .invoice t s ↔
      (lnbits w).report? .invoice t = some s ∧
        s ≠ .pending := by
  rw [report?, Option.map_eq_bind]
  refine tells_iff_of_read (fun _ => Says.lnbits_isSome) ?_
  intro l hRead
  have hRange (n : Int)
      (hFee : (lnbits w).GivesFee .invoice t n) :
      n < Msat.bound := by
    cases hFee
  have hFee (a : Msat) :
      none = some a ↔ (lnbits w).GivesFee .invoice t a.value :=
    iff_of_false nofun fun hFee => by cases hFee
  have hPreimage (p : String) :
      none = some p ↔ (lnbits w).GivesPreimage .invoice t p :=
    iff_of_false nofun fun hPreimage => by cases hPreimage
  rw [tells_iff_readings none none hRange hFee hPreimage,
    says_lnbits_invoice_iff hRead, says_lnbits_invoice_iff hRead,
    Function.comp_apply, Option.some_inj, lnbits_invoiceStatus]
  by_cases hPending : l.details.bind (·.1) = some true
  · rw [if_pos hPending]
    constructor
    · rintro (⟨⟨_, hNot⟩, _⟩ | ⟨⟨_, hNot⟩, _⟩)
      · exact absurd hPending hNot
      · exact absurd hPending hNot
    · rintro ⟨hState, hKnown⟩
      exact absurd hState.symm hKnown
  · rw [if_neg hPending, StatusTable.resolveWith_iff rfl]
    simp [Lnbits.statusTable, hPending]

/- An LNbits payment, by its flag and its details. -/
theorem tells_lnbits_payment_iff
    {s : SettlementStatus} :
    (lnbits w).Tells .payment t s ↔
      (lnbits w).report? .payment t = some s ∧
        s ≠ .pending := by
  rw [report?, Option.map_eq_bind]
  refine tells_iff_of_read (fun _ => Says.lnbits_isSome) ?_
  intro l hRead
  have hRange (n : Int)
      (hGives : (lnbits w).GivesFee .payment t n) :
      n < Msat.bound := by
    cases hGives with
    | lnbits hDetails hFee =>
        exact (hFee.inRange (by simp [Lnbits.detailsFields])).2
  have hFee (a : Msat) :
      l.details.bind (·.2) = some a ↔
        (lnbits w).GivesFee .payment t a.value := by
    rw [Lnbits.lookup?_fee_iff hRead]
    constructor
    · rintro ⟨u, hDetails, hFee⟩
      exact .lnbits hDetails hFee
    · rintro (⟨hDetails, hFee⟩ | _)
      exact ⟨_, hDetails, hFee⟩
  have hPreimage (p : String) :
      l.preimage = some p ↔
        (lnbits w).GivesPreimage .payment t p := by
    rw [(Lnbits.lookup?_gives hRead).2.1]
    constructor
    · exact .lnbits
    · rintro (hPreimage | _)
      exact hPreimage
  rw [tells_iff_readings _ _ hRange hFee hPreimage,
    says_lnbits_payment_iff hRead, says_lnbits_payment_iff hRead,
    Function.comp_apply, Option.some_inj,
    lnbits_paymentStatus_iff]
  simp only [Bool.false_eq_true, false_and, or_false, true_and]

end Lnbits

section Lnpay

variable {w : Lnpay}
variable {subject : Subject}
variable {t : Json.Tree}

/- A body that says anything at LNPay can be read. -/
theorem Says.lnpay_isSome
    {b : Bool}
    (hSays : (lnpay w).Says subject t b) :
    (Lnpay.lookup? t).isSome = true := by
  rw [Lnpay.lookup?_isSome_iff]
  rcases hSays with _ | _ | ⟨_, hSettled, _⟩ | ⟨_, hSettled, _⟩
  · exact hSettled.admits
  · exact hSettled.admits

/- What a body says at LNPay, by what is read. -/
theorem says_lnpay_iff
    {l : Lnpay.Lookup}
    (hRead : Lnpay.lookup? t = some l)
    (b : Bool) :
    (lnpay w).Says subject t b ↔
      l.settled = some (if b then 1 else -1) := by
  rw [(Lnpay.lookup?_gives hRead).1]
  have hRange : -Msat.bound ≤ -1 ∧ 1 < Msat.bound := by decide
  constructor
  · rintro (_ | _ | hSettled | hSettled)
    · exact ⟨hSettled, by decide⟩
    · exact ⟨hSettled, by decide⟩
  · rintro ⟨hSettled, _⟩
    cases b with
    | true => exact .lnpaySettled hSettled
    | false => exact .lnpayFailed hSettled

/- An LNPay transaction, by its number. -/
theorem tells_lnpay_iff
    {s : SettlementStatus} :
    (lnpay w).Tells subject t s ↔
      (lnpay w).report? subject t = some s ∧
        s ≠ .pending := by
  have hReport :
      (lnpay w).report? subject t =
        (Lnpay.lookup? t).map Lnpay.Lookup.status := by
    cases subject <;> rfl
  rw [hReport, Option.map_eq_bind]
  refine tells_iff_of_read (fun _ => Says.lnpay_isSome) ?_
  intro l hRead
  rcases Lnpay.lookup?_gives hRead with
    ⟨_, hPreimageRead, hFeeRead⟩
  have hRange (n : Int)
      (hGives : (lnpay w).GivesFee subject t n) :
      n < Msat.bound := by
    cases hGives with
    | lnpay hFee =>
        exact (hFee.inRange (by simp [Lnpay.lookupFields])).2
  have hFee (a : Msat) :
      l.fee = some a ↔
        (lnpay w).GivesFee subject t a.value := by
    rw [hFeeRead]
    constructor
    · exact .lnpay
    · rintro (_ | hFee)
      exact hFee
  have hPreimage (p : String) :
      l.preimage = some p ↔
        (lnpay w).GivesPreimage subject t p := by
    rw [hPreimageRead]
    constructor
    · exact .lnpay
    · rintro (_ | hPreimage)
      exact hPreimage
  rw [tells_iff_readings _ _ hRange hFee hPreimage,
    says_lnpay_iff hRead, says_lnpay_iff hRead,
    Function.comp_apply, Option.some_inj, Lnpay.Lookup.status]
  cases l.settled with
  | none =>
      simp only [reduceCtorEq, false_and, or_self, false_iff,
        not_and, not_not]
      exact Eq.symm
  | some token =>
      dsimp only
      rw [StatusTable.resolveWith_iff rfl]
      simp [Lnpay.statusTable]

end Lnpay

section Zbd

variable {w : Zbd}
variable {subject : Subject}
variable {t : Json.Tree}

/- A body that says anything at ZBD can be read. -/
theorem Says.zbd_isSome
    {b : Bool}
    (hSays : (zbd w).Says subject t b) :
    (Zbd.envelope? Zbd.lookup? t).isSome = true := by
  rw [Zbd.envelope?_isSome_iff Zbd.lookup?_isSome_iff]
  cases hSays with
  | zbdPaid hData => exact hData.admits
  | zbdFailed hData => exact hData.admits

/- What a body says at ZBD, by the word that is read. -/
theorem says_zbd_iff
    {data : Option Zbd.Lookup}
    (hRead : Zbd.envelope? Zbd.lookup? t = some data)
    (b : Bool) :
    (zbd w).Says subject t b ↔
      ∃ word, data.bind Zbd.Lookup.status = some word ∧
        word ∈ (if b then Zbd.statusTable.success
          else Zbd.statusTable.failed) := by
  simp only [Zbd.status_iff hRead]
  constructor
  · intro hSays
    cases hSays with
    | zbdPaid hData hWord hPaid =>
        exact ⟨_, ⟨_, hData, hWord⟩, by
          simpa [Zbd.statusTable] using hPaid⟩
    | zbdFailed hData hWord hFailed =>
        exact ⟨_, ⟨_, hData, hWord⟩, by
          simpa [Zbd.statusTable] using hFailed⟩
  · rintro ⟨word, ⟨u, hData, hWord⟩, hListed⟩
    cases b with
    | true =>
        exact .zbdPaid hData hWord (by
          simpa [Zbd.statusTable] using hListed)
    | false =>
        exact .zbdFailed hData hWord (by
          simpa [Zbd.statusTable] using hListed)

section Read

variable {data : Option Zbd.Lookup}
variable (hRead : Zbd.envelope? Zbd.lookup? t = some data)

include hRead

/- The fee that a body gives for a ZBD charge is the one read. -/
theorem givesFee_zbd_invoice_iff (n : Int) :
    (zbd w).GivesFee .invoice t n ↔
      ∃ b : Msat,
        (data.bind Zbd.Lookup.fee).bind
          Zbd.WrittenAmount.value? = some b ∧ b.value = n := by
  simp only [Zbd.fee_iff hRead]
  constructor
  · rintro (_ | _ | ⟨hData, hFee, hLower, hUpper⟩ | _)
    exact ⟨⟨n, hLower, hUpper⟩, ⟨_, hData, hFee⟩, rfl⟩
  · rintro ⟨b, ⟨u, hData, hFee⟩, rfl⟩
    exact .zbdInvoice hData hFee b.lower b.upper

/- That for a ZBD payment has the other sign. -/
theorem givesFee_zbd_payment_iff (n : Int) :
    (zbd w).GivesFee .payment t n ↔
      ∃ b : Msat,
        (data.bind Zbd.Lookup.fee).bind
          Zbd.WrittenAmount.value? = some b ∧ -b.value = n := by
  simp only [Zbd.fee_iff hRead]
  constructor
  · rintro (_ | _ | _ | ⟨hData, hFee, hLower, hUpper⟩)
    exact ⟨⟨_, hLower, hUpper⟩, ⟨_, hData, hFee⟩, rfl⟩
  · rintro ⟨b, ⟨u, hData, hFee⟩, rfl⟩
    exact .zbdPayment hData hFee b.lower b.upper

/- A fee that is reported is in range and the one that is given. -/
theorem givesFee_zbd_iff_of_reported
    {fee : Option Msat}
    (hReported :
      Zbd.reportedFee? subject.direction
        (data.bind Zbd.Lookup.fee) = some fee) :
    (∀ n, (zbd w).GivesFee subject t n → n < Msat.bound) ∧
      ∀ a : Msat,
        fee = some a ↔ (zbd w).GivesFee subject t a.value := by
  cases subject with
  | invoice =>
      rw [Subject.direction, Zbd.reportedFee?_incoming] at hReported
      cases hReported
      simp only [givesFee_zbd_invoice_iff hRead]
      constructor
      · rintro _ ⟨b, _, rfl⟩
        exact b.upper
      · intro a
        constructor
        · intro hSome
          exact ⟨a, hSome, rfl⟩
        · rintro ⟨b, hSome, hValue⟩
          rw [hSome, Msat.ext_value hValue]
  | payment =>
      rw [Subject.direction, Zbd.reportedFee?_outgoing_iff]
        at hReported
      simp only [givesFee_zbd_payment_iff hRead]
      constructor
      · rintro _ ⟨b, hSome, rfl⟩
        rw [hSome, Option.map_some, Option.map_eq_some_iff]
          at hReported
        rcases hReported with ⟨a, _, hValue⟩
        rw [← hValue]
        exact a.upper
      · intro a
        constructor
        · rintro rfl
          rw [Option.map_some, eq_comm, Option.map_eq_some_iff]
            at hReported
          exact hReported
        · rintro ⟨b, hSome, hValue⟩
          rw [hSome, Option.map_some, Option.map_eq_some_iff]
            at hReported
          rcases hReported with ⟨c, rfl, hOther⟩
          rw [Msat.ext_value (hOther.trans hValue)]

/- Only a fee that is out of range cannot be reported. -/
theorem exists_givesFee_of_unreported
    (hReported :
      Zbd.reportedFee? subject.direction
        (data.bind Zbd.Lookup.fee) = none) :
    ∃ n, (zbd w).GivesFee subject t n ∧ ¬n < Msat.bound := by
  cases subject with
  | invoice =>
      rw [Subject.direction, Zbd.reportedFee?_incoming] at hReported
      cases hReported
  | payment =>
      simp only [givesFee_zbd_payment_iff hRead]
      cases hTold : (data.bind Zbd.Lookup.fee).bind
          Zbd.WrittenAmount.value? with
      | none =>
          simp only [Subject.direction, Zbd.reportedFee?, hTold]
            at hReported
          cases hReported
      | some b =>
          simp only [Subject.direction, Zbd.reportedFee?, hTold,
            Option.map_eq_none_iff, Msat.neg?] at hReported
          have hOut := mt (Msat.ofInt?_isSome_iff _).mpr
            (Option.not_isSome_iff_eq_none.mpr hReported)
          have hUpper := b.upper
          refine ⟨-b.value, ⟨b, rfl, rfl⟩, ?_⟩
          omega

end Read

/- A ZBD wallet reports a word with the terms that are read. -/
theorem zbdReport?_eq
    (d : Zbd.Direction)
    (data : Option Zbd.Lookup) :
    zbdReport? d data =
      match data.bind Zbd.Lookup.status with
      | some word =>
          (Zbd.reportedFee? d (data.bind Zbd.Lookup.fee)).map
            fun fee => Zbd.statusTable.resolveWith word fee
              (data.bind Zbd.Lookup.preimage)
      | none => some .pending := by
  rcases data with _ | ⟨_ | word, preimage, fee⟩ <;> rfl

/- A ZBD charge or payment, by its word. -/
theorem tells_zbd_iff
    {s : SettlementStatus} :
    (zbd w).Tells subject t s ↔
      (zbd w).report? subject t = some s ∧
        s ≠ .pending := by
  have hReport :
      (zbd w).report? subject t =
        (Zbd.envelope? Zbd.lookup? t).bind
          (zbdReport? subject.direction) := by
    cases subject <;> rfl
  rw [hReport]
  refine tells_iff_of_read (fun _ => Says.zbd_isSome) ?_
  intro data hRead
  have hPreimage (p : String) :
      data.bind Zbd.Lookup.preimage = some p ↔
        (zbd w).GivesPreimage subject t p := by
    rw [Zbd.preimage_iff hRead]
    constructor
    · rintro ⟨u, hData, hPreimage⟩
      exact .zbd hData hPreimage
    · rintro (_ | _ | ⟨hData, hPreimage⟩)
      exact ⟨_, hData, hPreimage⟩
  rw [zbdReport?_eq]
  cases hReported : Zbd.reportedFee? subject.direction
      (data.bind Zbd.Lookup.fee) with
  | none =>
      rcases exists_givesFee_of_unreported (w := w) hRead hReported
        with ⟨n, hGives, hOut⟩
      constructor
      · intro hTells
        cases hTells with
        | success _ hRange => exact absurd (hRange n hGives) hOut
        | failed _ hRange => exact absurd (hRange n hGives) hOut
      · rintro ⟨hState, hKnown⟩
        cases hWord : data.bind Zbd.Lookup.status with
        | none =>
            rw [hWord] at hState
            exact absurd (Option.some.inj hState).symm hKnown
        | some word =>
            rw [hWord] at hState
            cases hState
  | some fee =>
      rcases givesFee_zbd_iff_of_reported (w := w) hRead hReported
        with ⟨hRange, hFee⟩
      rw [tells_iff_readings _ _ hRange hFee hPreimage,
        says_zbd_iff hRead, says_zbd_iff hRead]
      cases data.bind Zbd.Lookup.status with
      | none =>
          simp only [reduceCtorEq, false_and, exists_false,
            or_self, Option.some_inj, false_iff, not_and, not_not]
          exact Eq.symm
      | some word =>
          simp only [Option.map_some, Option.some_inj,
            exists_eq_left', if_true, Bool.false_eq_true, if_false]
          exact (StatusTable.resolveWith_iff rfl).symm

end Zbd

/- A body tells what it makes a wallet report, if not pending. -/
theorem tells_iff
    {w : Wallet}
    {subject : Subject}
    {t : Json.Tree}
    {s : SettlementStatus} :
    w.Tells subject t s ↔
      w.report? subject t = some s ∧ s ≠ .pending := by
  cases w with
  | lnbits v =>
      cases subject with
      | invoice => exact tells_lnbits_invoice_iff
      | payment => exact tells_lnbits_payment_iff
  | lnpay v => exact tells_lnpay_iff
  | zbd v => exact tells_zbd_iff
  | memory l =>
      constructor
      · intro hTells
        rcases hTells with ⟨⟨⟩⟩ | ⟨⟨⟩⟩
      · rintro ⟨hReport, _⟩
        cases hReport

------------------------------------------------------------
-- Whole Lookups
------------------------------------------------------------

/- An outcome shows what its body tells. -/
theorem shows_iff
    {w : Wallet}
    {subject : Subject}
    {o : Outcome}
    {s : SettlementStatus} :
    w.Shows subject o s ↔
      o.tree?.bind (w.report? subject) = some s ∧
        s ≠ .pending := by
  rw [Option.bind_eq_some_iff]
  constructor
  · rintro ⟨r, t, hReply, hUsable, hTree, hTells⟩
    rcases tells_iff.mp hTells with ⟨hReport, hKnown⟩
    have hBody : o.tree? = some t :=
      Outcome.tree?_eq_some_iff.mpr ⟨r, hReply, hUsable, hTree⟩
    exact ⟨⟨t, hBody, hReport⟩, hKnown⟩
  · rintro ⟨⟨t, hBody, hReport⟩, hKnown⟩
    rcases Outcome.tree?_eq_some_iff.mp hBody with
      ⟨r, hReply, hUsable, hTree⟩
    exact ⟨r, t, hReply, hUsable, hTree,
      tells_iff.mpr ⟨hReport, hKnown⟩⟩

/- A report that defaults to a pending state. -/
theorem getD_pending_iff
    {report : Option SettlementStatus}
    {s : SettlementStatus} :
    report.getD .pending = s ↔
      (report = some s ∧ s ≠ .pending) ∨
        (s = .pending ∧
          ∀ t, ¬(report = some t ∧ t ≠ .pending)) := by
  cases report with
  | none =>
      constructor
      · intro hState
        refine .inr ⟨hState.symm, ?_⟩
        rintro t ⟨hNone, _⟩
        cases hNone
      · rintro (⟨hNone, _⟩ | ⟨hPending, _⟩)
        · cases hNone
        · exact hPending.symm
  | some u =>
      rw [Option.getD_some, Option.some_inj]
      by_cases hKnown : u = .pending
      · subst hKnown
        constructor
        · intro hState
          refine .inr ⟨hState.symm, ?_⟩
          rintro t ⟨hSame, hOther⟩
          exact hOther (Option.some.inj hSame).symm
        · rintro (⟨hState, _⟩ | ⟨hPending, _⟩)
          · exact hState
          · exact hPending.symm
      · constructor
        · rintro rfl
          exact .inl ⟨rfl, hKnown⟩
        · rintro (⟨hState, _⟩ | ⟨_, hNone⟩)
          · exact hState
          · exact absurd ⟨rfl, hKnown⟩ (hNone u)

/- A lookup is one call that may not take forever. -/
theorem lookUp_eq_once
    {w : Wallet}
    (hProvider : w.client?.isSome = true)
    (subject : Subject)
    (id : String) :
    ∃ call read, call.limit.isSome = true ∧
      w.lookUp subject id = .once call read := by
  cases w with
  | lnbits v => cases subject <;> exact ⟨_, _, rfl, rfl⟩
  | lnpay v => cases subject <;> exact ⟨_, _, rfl, rfl⟩
  | zbd v => cases subject <;> exact ⟨_, _, rfl, rfl⟩
  | memory l => cases hProvider

/-
  For every wallet with a provider, every id and every way in
  which the call may end: a lookup reports the success or the
  failure that the reply shows, with the terms that stand there,
  and a pending state if it shows none.  Whatever the provider
  does, the call ends in one of these ways.
-/
theorem lookUp_reports
    (w : Wallet)
    (subject : Subject)
    (id : String)
    (hProvider : w.client?.isSome = true) :
    (∀ o s,
      (w.lookUp subject id).resultOf? [o] = some s ↔
        w.Shows subject o s ∨
          (s = .pending ∧ ∀ t, ¬w.Shows subject o t)) ∧
    ∀ script, ∃ o s,
      (w.run (w.lookUp subject id) script).result = some s ∧
        (w.lookUp subject id).resultOf? [o] = some s := by
  constructor
  · intro o s
    rw [resultOf?_lookUp hProvider, Option.some_inj]
    simp only [shows_iff]
    exact getD_pending_iff
  · intro script
    rcases lookUp_eq_once hProvider subject id with
      ⟨call, read, hLimit, hOnce⟩
    rcases Option.isSome_iff_exists.mp hProvider with
      ⟨c, hClient⟩
    rcases Dialogue.exists_outcome c call read hLimit script with
      ⟨o, hResult⟩
    refine ⟨o, read o, ?_, ?_⟩
    · rw [run, hClient, hOnce]
      exact hResult
    · rw [hOnce]
      rfl

/- A wallet at LNbits. -/
def watching : Wallet :=
  .lnbits ⟨⟨"https://lnbits.example", "x-api-key", "key", "agent",
    false⟩, 5, 8⟩

/- A wallet at LNPay. -/
def counting : Wallet :=
  .lnpay ⟨⟨"https://lnpay.example", "x-api-key", "key", "agent",
    false⟩, "waka", .ofCapacity 1⟩

/- A wallet at ZBD. -/
def charging : Wallet :=
  .zbd ⟨⟨"https://zbd.example", "apikey", "key", "agent", false⟩,
    .ofCapacity 1⟩

/- LNbits says that something is paid, and what it has cost. -/
def paidFlag : Outcome :=
  .reply ⟨200, "\x7b\"paid\":true,\"preimage\":\"00ff\"," ++
    "\"details\":\x7b\"fee\":-1500\x7d\x7d"⟩

/- LNPay says that something is settled, and what it has cost. -/
def settledNumber : Outcome :=
  .reply ⟨200, "\x7b\"settled\":1,\"fee_msat\":2000," ++
    "\"payment_preimage\":\"00ff\"\x7d"⟩

/- ZBD says that something is completed, and what it has cost. -/
def completedWord : Outcome :=
  .reply ⟨200, "\x7b\"data\":\x7b\"status\":\"completed\"," ++
    "\"fee\":\"1500\",\"preimage\":\"00ff\"\x7d\x7d"⟩

/- LNPay says that something has failed. -/
def failedNumber : Outcome :=
  .reply ⟨200, "\x7b\"settled\":-1\x7d"⟩

/- Lookups at all providers, and what they report. -/
def toldLookups :
    List (Wallet × Subject × Outcome × SettlementStatus) :=
  [(watching, .invoice, paidFlag, .settled),
   (watching, .payment, paidFlag,
     .success (some (.clamp (-1500))) (some "00ff")),
   (counting, .invoice, settledNumber,
     .success (some (.clamp 2000)) (some "00ff")),
   (counting, .payment, failedNumber, .failed),
   (charging, .invoice, completedWord,
     .success (some (.clamp 1500)) (some "00ff")),
   (charging, .payment, completedWord,
     .success (some (.clamp (-1500))) (some "00ff"))]

/- A reply about a payment whose fee has no opposite. -/
def hugeFee : Outcome :=
  .reply ⟨200, "\x7b\"data\":\x7b\"status\":\"completed\"," ++
    "\"fee\":\"-9223372036854775808\"\x7d\x7d"⟩

/-
  The bodies tell what is reported.  A payment whose fee has no
  opposite is not reported, though its word is a success.
-/
theorem lookUp_reports_of_toldLookups :
    (∀ l ∈ toldLookups,
      l.1.client?.isSome = true ∧
        (l.1.lookUp l.2.1 "aa").resultOf? [l.2.2.1] =
          some l.2.2.2 ∧
        l.1.Shows l.2.1 l.2.2.1 l.2.2.2) ∧
      (charging.lookUp .payment "aa").resultOf? [hugeFee] =
        some .pending ∧
      ∀ t, ¬charging.Shows .payment hugeFee t := by
  constructor
  · have hTold :
        ∀ l ∈ toldLookups,
          l.1.client?.isSome = true ∧
            (l.1.lookUp l.2.1 "aa").resultOf? [l.2.2.1] =
              some l.2.2.2 ∧
            l.2.2.2 ≠ .pending := by
      decide +kernel
    rintro ⟨w, subject, o, s⟩ hMem
    rcases hTold _ hMem with ⟨hProvider, hResult, hKnown⟩
    refine ⟨hProvider, hResult, ?_⟩
    rcases ((lookUp_reports w subject "aa" hProvider).1 o s).mp
        hResult with
      hShown | ⟨hPending, _⟩
    · exact hShown
    · exact absurd hPending hKnown
  · have hPending :
        (charging.lookUp .payment "aa").resultOf? [hugeFee] =
          some .pending := by
      decide +kernel
    refine ⟨hPending, ?_⟩
    rcases ((lookUp_reports charging .payment "aa" rfl).1 hugeFee
        .pending).mp hPending with
      hShown | ⟨_, hNone⟩
    · exact absurd rfl (shows_iff.mp hShown).2
    · exact hNone

end Wallet

end LightningGateway
