import LightningGateway.Proofs.Backend.Lookup
import LightningGateway.Proofs.Provider.Exchange

/-
  When an invoice was issued, and when a payment was sent.

  A wallet with a provider reports a new invoice exactly if the
  provider's reply holds one, and a payment exactly if the reply
  says that it was sent.  What a reply holds is told by the
  members of its body.  Everything else is reported as a
  failure.

  Key definitions include:
    * `Wallet.Issues`
    * `Wallet.Sends`

  Main results:
    * `Wallet.createInvoice_reports`
    * `Wallet.payInvoice_reports`
    * `Wallet.submissions_exact`
-/

namespace LightningGateway

open Backend Payment Provider

------------------------------------------------------------
-- Reading Replies
------------------------------------------------------------

namespace Provider

/- What is read in a reply stands in its body. -/
theorem Reply.read_eq_ok_iff
    {α : Type}
    {r : Reply}
    {read? : Json.Tree → Option α}
    {a : α} :
    r.read read? = .ok a ↔
      ∃ t, Json.Tree.parse? r.body = some t ∧
        read? t = some a := by
  rw [← Option.bind_eq_some_iff, read]
  cases (Json.Tree.parse? r.body).bind read? with
  | none => simp
  | some b => simp

/- What a client makes of an outcome, it reads in a reply. -/
theorem Client.receive_bind_eq_ok_iff
    {α : Type}
    {c : Client}
    {o : Outcome}
    {read : Reply → Except GatewayError α}
    {a : α} :
    (c.receive o).bind read = .ok a ↔
      ∃ r, o = .reply r ∧ read r = .ok a := by
  cases o with
  | reply r => simp [receive, Except.bind]
  | failed f => simp [receive, Except.bind]
  | closed => simp [receive, Except.bind]

end Provider

namespace Payment

/- A submission that has failed gives no invoice. -/
theorem InvoiceAnswer.ofExcept_eq_success_iff
    {x : Except GatewayError InvoiceAnswer}
    {id request : String} :
    ofExcept x = .success id request ↔
      x = .ok (.success id request) := by
  cases x <;> simp [ofExcept, ofError]

/- A submission that has failed sends no payment. -/
theorem PaymentAnswer.ofExcept_eq_success_iff
    {x : Except GatewayError PaymentAnswer}
    {id : String}
    {fee : Msat}
    {preimage : Option String} :
    ofExcept x = .success id fee preimage ↔
      x = .ok (.success id fee preimage) := by
  cases x <;> simp [ofExcept, ofError]

/- An answer without an invoice is a failure. -/
theorem InvoiceAnswer.forall_ne_success_iff
    {a : InvoiceAnswer} :
    (∀ id request, a ≠ .success id request) ↔
      ∃ message, a = .failed message := by
  cases a <;> simp

/- An answer without a payment is a failure. -/
theorem PaymentAnswer.forall_ne_success_iff
    {a : PaymentAnswer} :
    (∀ id fee preimage, a ≠ .success id fee preimage) ↔
      ∃ message, a = .failed message := by
  cases a <;> simp

end Payment

namespace Backend

/- An invoice is whole if both of its parts are there. -/
theorem Lnbits.wholeInvoice_eq_ok_iff
    {r : Reply}
    {parts : Option String × Option String}
    {id request : String} :
    wholeInvoice r parts = .ok (.success id request) ↔
      parts = (some id, some request) := by
  rcases parts with ⟨_ | a, _ | b⟩ <;> simp [wholeInvoice]

/- A reply holds a whole invoice if its body does. -/
theorem Lnbits.read_invoice_eq_ok_iff
    {r : Reply}
    {field id request : String} :
    (r.read (invoice? field)).bind (wholeInvoice r) =
        .ok (.success id request) ↔
      ∃ t, Json.Tree.parse? r.body = some t ∧
        invoice? field t = some (some id, some request) := by
  rw [← Reply.read_eq_ok_iff]
  cases r.read (invoice? field) with
  | error e => simp [Except.bind]
  | ok parts => simp [Except.bind, wholeInvoice_eq_ok_iff]

end Backend

------------------------------------------------------------
-- What Replies Say
------------------------------------------------------------

namespace Wallet

/-
  The invoice that an outcome gives to a wallet that asked for
  one: its id and its payment request, both of which are texts
  that stand in the body of the reply.  The reply's status is no
  error, at LNPay it is the one of something created; and ZBD is
  asked only for an amount in range and without a commitment.
-/
inductive Issues :
    Wallet → InvoiceRequest → Outcome → String → String → Prop
  | lnbits
      {w : Lnbits}
      {q : InvoiceRequest}
      {r : Reply}
      {t : Json.Tree}
      {id request : String}
      (hUsable : ¬(400 ≤ r.status ∧ r.status < 600))
      (hTree : Json.Tree.parse? r.body = some t)
      (hId :
        (Lnbits.createdFields "checking_id").GivesText t
          "checking_id" id)
      (hRequest :
        (Lnbits.createdFields "checking_id").GivesText t
          "payment_request" request) :
      Issues (.lnbits w) q (.reply r) id request
  | lnpay
      {w : Lnpay}
      {q : InvoiceRequest}
      {r : Reply}
      {t : Json.Tree}
      {id request : String}
      (hCreated : r.status = 201)
      (hTree : Json.Tree.parse? r.body = some t)
      (hId : (Lnbits.createdFields "id").GivesText t "id" id)
      (hRequest :
        (Lnbits.createdFields "id").GivesText t
          "payment_request" request) :
      Issues (.lnpay w) q (.reply r) id request
  | zbd
      {w : Zbd}
      {q : InvoiceRequest}
      {r : Reply}
      {t u v : Json.Tree}
      {id request : String}
      (hUncommitted : q.commitment = none)
      (hRange : (q.amountSat.toNat : Int) * 1000 < Msat.bound)
      (hUsable : ¬(400 ≤ r.status ∧ r.status < 600))
      (hTree : Json.Tree.parse? r.body = some t)
      (hData :
        (Zbd.envelopeFields Zbd.chargeFields).Gives t "data" u)
      (hId : Zbd.chargeFields.GivesText u "id" id)
      (hInvoice : Zbd.chargeFields.Gives u "invoice" v)
      (hRequest :
        Zbd.requestFields.GivesText v "request" request) :
      Issues (.zbd w) q (.reply r) id request

/-
  The id of the payment that an outcome reports to a wallet that
  was to pay a payment request.  The reply's status is no error,
  and its body has the id as a text; at ZBD the id is the hash
  of the invoice, which has to be readable, the envelope is not
  empty, and the fee in it is not the smallest amount, which has
  no opposite.
-/
inductive Sends :
    Wallet → String → Outcome → String → Prop
  | lnbits
      {w : Lnbits}
      {request : String}
      {r : Reply}
      {t : Json.Tree}
      {id : String}
      (hUsable : ¬(400 ≤ r.status ∧ r.status < 600))
      (hTree : Json.Tree.parse? r.body = some t)
      (hHash : Lnbits.sentFields.GivesText t "payment_hash" id) :
      Sends (.lnbits w) request (.reply r) id
  | lnpay
      {w : Lnpay}
      {request : String}
      {r : Reply}
      {t u : Json.Tree}
      {id : String}
      (hUsable : ¬(400 ≤ r.status ∧ r.status < 600))
      (hTree : Json.Tree.parse? r.body = some t)
      (hTransaction : Lnpay.withdrawalFields.Gives t "lnTx" u)
      (hId : Lnpay.transactionFields.GivesText u "id" id) :
      Sends (.lnpay w) request (.reply r) id
  | zbd
      {w : Zbd}
      {request : String}
      {r : Reply}
      {t u : Json.Tree}
      {id : String}
      (hInvoice : Bolt11.Invoice.paymentHashOf request = .ok id)
      (hUsable : ¬(400 ≤ r.status ∧ r.status < 600))
      (hTree : Json.Tree.parse? r.body = some t)
      (hData :
        (Zbd.envelopeFields Zbd.paymentFields).Gives t "data" u)
      (hPresent : u ≠ .null)
      (hFee :
        ¬Zbd.GivesAmount Zbd.paymentFields u "fee"
          (-Msat.bound)) :
      Sends (.zbd w) request (.reply r) id

end Wallet

------------------------------------------------------------
-- New Invoices
------------------------------------------------------------

namespace Backend

/- An LNbits reply with a new invoice. -/
theorem Lnbits.readInvoice_eq_ok_iff
    {r : Reply}
    {id request : String} :
    readInvoice r = .ok (.success id request) ↔
      ¬(400 ≤ r.status ∧ r.status < 600) ∧
        ∃ t, Json.Tree.parse? r.body = some t ∧
          invoice? "checking_id" t =
            some (some id, some request) := by
  rw [← r.isError_iff, ← read_invoice_eq_ok_iff, readInvoice]
  by_cases hError : r.isError = true
  · simp [hError]
  · simp [hError]

/- An LNPay reply with a new invoice. -/
theorem Lnpay.readInvoice_eq_ok_iff
    {r : Reply}
    {id request : String} :
    readInvoice r = .ok (.success id request) ↔
      r.status = 201 ∧
        ∃ t, Json.Tree.parse? r.body = some t ∧
          Lnbits.invoice? "id" t =
            some (some id, some request) := by
  rw [← Lnbits.read_invoice_eq_ok_iff, readInvoice, created]
  by_cases hCreated : r.status = 201
  · simp [hCreated]
  · simp [hCreated]

/- A ZBD reply with a new invoice. -/
theorem Zbd.readInvoice_eq_ok_iff
    {r : Reply}
    {id request : String} :
    readInvoice r = .ok (.success id request) ↔
      ¬(400 ≤ r.status ∧ r.status < 600) ∧
        ∃ t, Json.Tree.parse? r.body = some t ∧
          envelope? charge? t =
            some (some (some id, some (some request))) := by
  rw [← r.isError_iff, ← Reply.read_eq_ok_iff, readInvoice]
  by_cases hError : r.isError = true
  · simp [hError]
  · rcases r.read (envelope? charge?) with
      e | _ | ⟨_ | a, _ | _ | b⟩ <;> simp [hError]

end Backend

/- The amount of a request is one if it is in range. -/
theorem Payment.InvoiceRequest.exists_amount_iff
    (q : InvoiceRequest) :
    (∃ a, q.amount = .ok a) ↔
      (q.amountSat.toNat : Int) * 1000 < Msat.bound := by
  have hNonneg : 0 ≤ (q.amountSat.toNat : Int) * 1000 :=
    Int.mul_nonneg (Int.natCast_nonneg _)
      (Int.natCast_nonneg 1000)
  have hLower :
      -Msat.bound ≤ (q.amountSat.toNat : Int) * 1000 :=
    Int.le_trans (by decide) hNonneg
  have hSome :=
    Msat.ofInt?_isSome_iff ((q.amountSat.toNat : Int) * 1000)
  rw [and_iff_right hLower] at hSome
  rw [← hSome, InvoiceRequest.amount, Msat.ofSat?, Msat.perSat]
  cases Msat.ofInt? ((q.amountSat.toNat : Int) * 1000) with
  | none => simp
  | some a => simp

namespace Wallet

/- The invoices of an LNbits wallet, by what it reads. -/
theorem lnbits_issues_iff
    {v : Lnbits}
    {q : InvoiceRequest}
    {o : Outcome}
    {id request : String} :
    Issues (.lnbits v) q o id request ↔
      (v.client.receive o).bind Lnbits.readInvoice =
        .ok (.success id request) := by
  rw [Client.receive_bind_eq_ok_iff]
  constructor
  · intro hIssues
    cases hIssues with
    | lnbits hUsable hTree hId hRequest =>
        exact ⟨_, rfl, Lnbits.readInvoice_eq_ok_iff.mpr
          ⟨hUsable, _, hTree,
            (Lnbits.invoice?_eq_some_some_iff (by decide)).mpr
              ⟨hId, hRequest⟩⟩⟩
  · rintro ⟨r, rfl, hRead⟩
    rcases Lnbits.readInvoice_eq_ok_iff.mp hRead with
      ⟨hUsable, t, hTree, hInvoice⟩
    rcases (Lnbits.invoice?_eq_some_some_iff (by decide)).mp
        hInvoice with ⟨hId, hRequest⟩
    exact .lnbits hUsable hTree hId hRequest

/- The invoices of an LNPay wallet, by what it reads. -/
theorem lnpay_issues_iff
    {v : Lnpay}
    {q : InvoiceRequest}
    {o : Outcome}
    {id request : String} :
    Issues (.lnpay v) q o id request ↔
      (v.client.receive o).bind Lnpay.readInvoice =
        .ok (.success id request) := by
  rw [Client.receive_bind_eq_ok_iff]
  constructor
  · intro hIssues
    cases hIssues with
    | lnpay hCreated hTree hId hRequest =>
        exact ⟨_, rfl, Lnpay.readInvoice_eq_ok_iff.mpr
          ⟨hCreated, _, hTree,
            (Lnbits.invoice?_eq_some_some_iff (by decide)).mpr
              ⟨hId, hRequest⟩⟩⟩
  · rintro ⟨r, rfl, hRead⟩
    rcases Lnpay.readInvoice_eq_ok_iff.mp hRead with
      ⟨hCreated, t, hTree, hInvoice⟩
    rcases (Lnbits.invoice?_eq_some_some_iff (by decide)).mp
        hInvoice with ⟨hId, hRequest⟩
    exact .lnpay hCreated hTree hId hRequest

/- The invoices of a ZBD wallet, by what it asks and reads. -/
theorem zbd_issues_iff
    {v : Zbd}
    {q : InvoiceRequest}
    {o : Outcome}
    {id request : String} :
    Issues (.zbd v) q o id request ↔
      q.commitment = none ∧ (∃ a, q.amount = .ok a) ∧
        (v.client.receive o).bind Zbd.readInvoice =
          .ok (.success id request) := by
  rw [Client.receive_bind_eq_ok_iff, q.exists_amount_iff]
  constructor
  · intro hIssues
    cases hIssues with
    | zbd hUncommitted hRange hUsable hTree hData hId hInvoice
        hRequest =>
        have hCharge :=
          Zbd.charge?_eq_some_iff.mpr ⟨hId, _, hInvoice, hRequest⟩
        exact ⟨hUncommitted, hRange, _, rfl,
          Zbd.readInvoice_eq_ok_iff.mpr
            ⟨hUsable, _, hTree,
              (Zbd.envelope?_eq_some_some_iff
                Zbd.charge?_isSome_iff).mpr ⟨_, hData, hCharge⟩⟩⟩
  · rintro ⟨hUncommitted, hRange, r, rfl, hRead⟩
    rcases Zbd.readInvoice_eq_ok_iff.mp hRead with
      ⟨hUsable, t, hTree, hEnvelope⟩
    rcases (Zbd.envelope?_eq_some_some_iff
        Zbd.charge?_isSome_iff).mp hEnvelope with
      ⟨u, hData, hCharge⟩
    rcases Zbd.charge?_eq_some_iff.mp hCharge with
      ⟨hId, v, hInvoice, hRequest⟩
    exact .zbd hUncommitted hRange hUsable hTree hData hId
      hInvoice hRequest

/- A ZBD wallet refuses a request or makes one call for it. -/
theorem zbd_createInvoice_cases
    (v : Zbd)
    (q : InvoiceRequest) :
    ((∃ message, v.createInvoice q = .done (.failed message)) ∧
        ¬(q.commitment = none ∧ ∃ a, q.amount = .ok a)) ∨
      (∃ call, call.limit.isSome = true ∧
        v.createInvoice q = .once call fun o =>
          .ofExcept ((v.client.receive o).bind
            Zbd.readInvoice)) ∧
        q.commitment = none ∧ ∃ a, q.amount = .ok a := by
  unfold Zbd.createInvoice
  cases hCommitment : q.commitment with
  | some commitment =>
      refine .inl ⟨⟨_, rfl⟩, ?_⟩
      rintro ⟨hUncommitted, _⟩
      cases hUncommitted
  | none =>
      cases hAmount : q.amount with
      | error e =>
          refine .inl ⟨⟨_, rfl⟩, ?_⟩
          rintro ⟨_, a, hOk⟩
          cases hOk
      | ok amount =>
          exact .inr ⟨⟨_, rfl, rfl⟩, rfl, amount, rfl⟩

/- A ZBD wallet reports exactly the invoices that were issued. -/
theorem zbd_createInvoice_reports
    (v : Zbd)
    (q : InvoiceRequest)
    (o : Outcome)
    (rest : List Outcome) :
    ∃ a, (v.createInvoice q).resultOf? (o :: rest) = some a ∧
      ∀ id request, a = .success id request ↔
        Issues (.zbd v) q o id request := by
  rcases zbd_createInvoice_cases v q with
    ⟨⟨message, hRefused⟩, hBad⟩ |
      ⟨⟨call, _, hAsked⟩, hUncommitted, hAmount⟩
  · refine ⟨.failed message, by rw [hRefused]; rfl, ?_⟩
    intro id request
    rw [zbd_issues_iff, ← and_assoc]
    constructor
    · intro hSuccess
      cases hSuccess
    · rintro ⟨hGood, _⟩
      exact absurd hGood hBad
  · refine ⟨_, by rw [hAsked]; rfl, ?_⟩
    intro id request
    rw [zbd_issues_iff, InvoiceAnswer.ofExcept_eq_success_iff]
    constructor
    · intro hRead
      exact ⟨hUncommitted, hAmount, hRead⟩
    · rintro ⟨_, _, hRead⟩
      exact hRead

/- A wallet reports exactly the invoices that were issued. -/
theorem createInvoice_reports
    {w : Wallet}
    (hProvider : w.client?.isSome = true)
    (random : List UInt8)
    (q : InvoiceRequest)
    (o : Outcome)
    (rest : List Outcome) :
    ∃ a, (w.createInvoice random q).resultOf? (o :: rest) =
        some (a, w) ∧
      ∀ id request, a = .success id request ↔
        w.Issues q o id request := by
  cases w with
  | lnbits v =>
      refine ⟨_, rfl, fun id request => ?_⟩
      rw [lnbits_issues_iff,
        InvoiceAnswer.ofExcept_eq_success_iff]
  | lnpay v =>
      refine ⟨_, rfl, fun id request => ?_⟩
      rw [lnpay_issues_iff,
        InvoiceAnswer.ofExcept_eq_success_iff]
  | zbd v =>
      rcases zbd_createInvoice_reports v q o rest with
        ⟨a, hResult, hReports⟩
      refine ⟨a, ?_, hReports⟩
      rw [createInvoice, Dialogue.resultOf?_map, hResult]
      rfl
  | memory l => cases hProvider

/- A request for an invoice ends, whatever the provider does. -/
theorem createInvoice_ends
    {w : Wallet}
    (hProvider : w.client?.isSome = true)
    (random : List UInt8)
    (q : InvoiceRequest)
    (script : Script) :
    ∃ r, (w.run (w.createInvoice random q) script).result =
      some r := by
  rcases Option.isSome_iff_exists.mp hProvider with
    ⟨c, hClient⟩
  have hOnce :
      (∃ r, w.createInvoice random q = .done r) ∨
        ∃ call read, call.limit.isSome = true ∧
          w.createInvoice random q = .once call read := by
    cases w with
    | lnbits v => exact .inr ⟨_, _, rfl, rfl⟩
    | lnpay v => exact .inr ⟨_, _, rfl, rfl⟩
    | zbd v =>
        rcases zbd_createInvoice_cases v q with
          ⟨⟨message, hRefused⟩, _⟩ | ⟨⟨call, hLimit, hAsked⟩, _⟩
        · refine .inl ⟨(.failed message, zbd v), ?_⟩
          rw [createInvoice, hRefused]
          rfl
        · have hMapped :
              (zbd v).createInvoice random q =
                (v.createInvoice q).map fun a => (a, zbd v) := rfl
          rw [hMapped, hAsked]
          exact .inr ⟨call, _, hLimit, rfl⟩
    | memory l => cases hProvider
  rw [run, hClient]
  rcases hOnce with ⟨r, hDone⟩ | ⟨call, read, hLimit, hOnce⟩
  · exact ⟨r, by rw [hDone]; rfl⟩
  · rcases Dialogue.exists_outcome c call read hLimit script with
      ⟨o, hResult⟩
    exact ⟨read o, by rw [hOnce]; exact hResult⟩

end Wallet

------------------------------------------------------------
-- Payments
------------------------------------------------------------

/- An amount has an opposite unless it is the smallest one. -/
theorem Payment.Msat.exists_neg_iff (a : Msat) :
    (∃ b, a.neg? = some b) ↔ a.value ≠ -Msat.bound := by
  have hLower := a.lower
  have hUpper := a.upper
  rw [← Option.isSome_iff_exists, Msat.neg?,
    Msat.ofInt?_isSome_iff]
  omega

namespace Backend

/- An LNbits reply that says that a payment was sent. -/
theorem Lnbits.readSent_eq_ok_iff
    {r : Reply}
    {hash : String} :
    readSent r = .ok (.accepted hash) ↔
      ¬(400 ≤ r.status ∧ r.status < 600) ∧
        ∃ t, Json.Tree.parse? r.body = some t ∧
          sentHash? t = some (some hash) := by
  rw [← r.isError_iff, ← Reply.read_eq_ok_iff, readSent]
  by_cases hError : r.isError = true
  · simp [hError]
  · rcases r.read sentHash? with e | _ | sent <;> simp [hError]

/- An LNPay reply that says that a payment was sent. -/
theorem Lnpay.readPayment_eq_ok_iff
    {r : Reply}
    {id : String}
    {fee : Msat}
    {preimage : Option String} :
    readPayment r = .ok (.success id fee preimage) ↔
      fee = .zero ∧ ¬(400 ≤ r.status ∧ r.status < 600) ∧
        ∃ t, Json.Tree.parse? r.body = some t ∧
          withdrawal? t = some (some (some id, preimage)) := by
  rw [← r.isError_iff, ← Reply.read_eq_ok_iff, readPayment]
  rcases r.read withdrawal? with
    e | _ | ⟨_ | sent, shown⟩ <;>
      by_cases hError : r.isError = true <;>
        simp [hError, and_left_comm, and_comm, eq_comm]

/- The fee of a payment can be reported if it has an opposite. -/
theorem Zbd.exists_outgoingFee_iff
    (r : Reply)
    (fee : Option WrittenAmount) :
    (∃ f, outgoingFee r fee = .ok f) ↔
      ∀ a, fee.bind WrittenAmount.value? = some a →
        a.value ≠ -Msat.bound := by
  unfold outgoingFee
  cases fee.bind WrittenAmount.value? with
  | none => simp
  | some a =>
      have hOnly :
          (∀ b, some a = some b → b.value ≠ -Msat.bound) ↔
            a.value ≠ -Msat.bound := by
        simp
      rw [hOnly, ← a.exists_neg_iff]
      cases hNeg : a.neg? <;> simp [hNeg]

/- An envelope with a payment whose fee has an opposite. -/
theorem Zbd.exists_payment?_iff (t : Json.Tree) :
    (∃ fee preimage,
        envelope? payment? t = some (some (fee, preimage)) ∧
        ∀ a, fee.bind WrittenAmount.value? = some a →
          a.value ≠ -Msat.bound) ↔
      ∃ u, (envelopeFields paymentFields).Gives t "data" u ∧
        u ≠ .null ∧
        ¬GivesAmount paymentFields u "fee" (-Msat.bound) := by
  have hLeast
      {u : Json.Tree}
      {p : Option WrittenAmount × Option String}
      (hRead : payment? u = some p) :
      (∀ a, p.1.bind WrittenAmount.value? = some a →
          a.value ≠ -Msat.bound) ↔
        ¬GivesAmount paymentFields u "fee" (-Msat.bound) := by
    simp only [payment?_gives hRead]
    constructor
    · intro hOther hGives
      exact hOther .smallest hGives rfl
    · intro hNone a hGives hValue
      rw [hValue] at hGives
      exact hNone hGives
  simp only [envelope?_eq_some_some_iff payment?_isSome_iff]
  constructor
  · rintro ⟨fee, preimage, ⟨u, hData, hRead⟩, hFee⟩
    refine ⟨u, hData, ?_, (hLeast hRead).mp hFee⟩
    rintro rfl
    cases hRead
  · rintro ⟨u, hData, hPresent, hFee⟩
    have hFits : paymentFields.record u :=
      hData.kind (List.mem_singleton.mpr rfl) hPresent
    rcases Option.isSome_iff_exists.mp
        ((payment?_isSome_iff u).mpr hFits) with
      ⟨⟨fee, preimage⟩, hRead⟩
    exact ⟨fee, preimage, ⟨u, hData, hRead⟩,
      (hLeast hRead).mpr hFee⟩

/- A ZBD reply that says that a payment was sent. -/
theorem Zbd.exists_readPayment_iff
    {r : Reply}
    {hash id : String} :
    (∃ fee preimage,
        readPayment hash r = .ok (.success id fee preimage)) ↔
      id = hash ∧ ¬(400 ≤ r.status ∧ r.status < 600) ∧
        ∃ t fee preimage, Json.Tree.parse? r.body = some t ∧
          envelope? payment? t = some (some (fee, preimage)) ∧
          ∀ a, fee.bind WrittenAmount.value? = some a →
            a.value ≠ -Msat.bound := by
  rw [← r.isError_iff]
  constructor
  · rintro ⟨fee, preimage, hRead⟩
    unfold readPayment at hRead
    by_cases hError : r.isError = true
    · rw [if_pos hError] at hRead
      cases hRead
    · rw [if_neg hError] at hRead
      rcases hBody : r.read (envelope? payment?) with
        e | _ | ⟨written, shown⟩
      · rw [hBody] at hRead
        cases hRead
      · rw [hBody] at hRead
        cases hRead
      · rcases Reply.read_eq_ok_iff.mp hBody with
          ⟨t, hTree, hData⟩
        simp only [hBody] at hRead
        cases hFee : outgoingFee r written with
        | error e =>
            rw [hFee] at hRead
            cases hRead
        | ok f =>
            rw [hFee] at hRead
            cases hRead
            exact ⟨rfl, hError, t, written, _, hTree, hData,
              (exists_outgoingFee_iff r written).mp ⟨f, hFee⟩⟩
  · rintro ⟨rfl, hUsable, t, written, shown, hTree, hData, hFee⟩
    have hBody : r.read (envelope? payment?) =
        .ok (some (written, shown)) :=
      Reply.read_eq_ok_iff.mpr ⟨t, hTree, hData⟩
    rcases (exists_outgoingFee_iff r written).mpr hFee with
      ⟨f, hReported⟩
    refine ⟨f.getD .zero, shown, ?_⟩
    simp only [readPayment, if_neg hUsable, hBody, hReported]
    rfl

end Backend

namespace Wallet

/- The payments of an LNbits wallet, by what it reads. -/
theorem lnbits_sends_iff
    {v : Lnbits}
    {request : String}
    {o : Outcome}
    {id : String} :
    Sends (.lnbits v) request o id ↔
      (v.client.receive o).bind Lnbits.readSent =
        .ok (.accepted id) := by
  rw [Client.receive_bind_eq_ok_iff]
  constructor
  · intro hSends
    cases hSends with
    | lnbits hUsable hTree hHash =>
        exact ⟨_, rfl, Lnbits.readSent_eq_ok_iff.mpr
          ⟨hUsable, _, hTree,
            Lnbits.sentHash?_eq_some_some_iff.mpr hHash⟩⟩
  · rintro ⟨r, rfl, hRead⟩
    rcases Lnbits.readSent_eq_ok_iff.mp hRead with
      ⟨hUsable, t, hTree, hHash⟩
    exact .lnbits hUsable hTree
      (Lnbits.sentHash?_eq_some_some_iff.mp hHash)

/- The payments of an LNPay wallet, by what it reads. -/
theorem lnpay_sends_iff
    {v : Lnpay}
    {request : String}
    {o : Outcome}
    {id : String} :
    Sends (.lnpay v) request o id ↔
      ∃ fee preimage,
        (v.client.receive o).bind Lnpay.readPayment =
          .ok (.success id fee preimage) := by
  simp only [Client.receive_bind_eq_ok_iff]
  constructor
  · intro hSends
    cases hSends with
    | lnpay hUsable hTree hTransaction hId =>
        rcases Lnpay.exists_withdrawal?_iff.mpr
            ⟨_, hTransaction, hId⟩ with ⟨preimage, hWithdrawal⟩
        exact ⟨.zero, _, _, rfl, Lnpay.readPayment_eq_ok_iff.mpr
          ⟨rfl, hUsable, _, hTree, hWithdrawal⟩⟩
  · rintro ⟨fee, preimage, r, rfl, hRead⟩
    rcases Lnpay.readPayment_eq_ok_iff.mp hRead with
      ⟨_, hUsable, t, hTree, hWithdrawal⟩
    rcases Lnpay.exists_withdrawal?_iff.mp ⟨_, hWithdrawal⟩ with
      ⟨u, hTransaction, hId⟩
    exact .lnpay hUsable hTree hTransaction hId

/- The payments of a ZBD wallet, by its invoice and its reply. -/
theorem zbd_sends_iff
    {v : Zbd}
    {request : String}
    {o : Outcome}
    {id : String} :
    Sends (.zbd v) request o id ↔
      ∃ hash fee preimage,
        Bolt11.Invoice.paymentHashOf request = .ok hash ∧
          (v.client.receive o).bind (Zbd.readPayment hash) =
            .ok (.success id fee preimage) := by
  simp only [Client.receive_bind_eq_ok_iff]
  constructor
  · intro hSends
    cases hSends with
    | @zbd _ _ r t _ _ hInvoice hUsable hTree hData hPresent
        hFee =>
        rcases (Zbd.exists_payment?_iff t).mpr
            ⟨_, hData, hPresent, hFee⟩ with
          ⟨written, shown, hPayment, hOther⟩
        rcases Zbd.exists_readPayment_iff.mpr
            ⟨rfl, hUsable, t, _, _, hTree, hPayment, hOther⟩ with
          ⟨fee, preimage, hRead⟩
        exact ⟨id, fee, preimage, hInvoice, r, rfl, hRead⟩
  · rintro ⟨hash, fee, preimage, hInvoice, r, rfl, hRead⟩
    rcases Zbd.exists_readPayment_iff.mp ⟨fee, preimage, hRead⟩
      with
      ⟨rfl, hUsable, t, written, shown, hTree, hPayment, hOther⟩
    rcases (Zbd.exists_payment?_iff t).mp
        ⟨written, shown, hPayment, hOther⟩ with
      ⟨u, hData, hPresent, hFee⟩
    exact .zbd hInvoice hUsable hTree hData hPresent hFee

/- Whatever the lookup of a payment gives, it has been sent. -/
theorem lnbits_payInvoice_reports
    (v : Lnbits)
    (request : String)
    (o next : Outcome)
    (rest : List Outcome) :
    ∃ a, (v.payInvoice request).resultOf? (o :: next :: rest) =
        some a ∧
      ∀ id, (∃ fee preimage, a = .success id fee preimage) ↔
        Sends (.lnbits v) request o id := by
  have hAfter :
      (v.payInvoice request).resultOf? (o :: next :: rest) =
        (v.afterSent ((v.client.receive o).bind
          Lnbits.readSent)).resultOf? (next :: rest) := rfl
  simp only [lnbits_sends_iff, hAfter]
  rcases (v.client.receive o).bind Lnbits.readSent with
    e | message | hash
  · exact ⟨_, rfl, fun id => by simp [PaymentAnswer.ofError]⟩
  · exact ⟨_, rfl, fun id => by simp⟩
  · exact ⟨_, rfl, fun id => by simp [Lnbits.sentOn]⟩

/- A ZBD wallet reads an invoice before it pays it. -/
theorem zbd_payInvoice_reports
    (v : Zbd)
    (request : String)
    (o : Outcome)
    (rest : List Outcome) :
    ∃ a, (v.payInvoice request).resultOf? (o :: rest) =
        some a ∧
      ∀ id, (∃ fee preimage, a = .success id fee preimage) ↔
        Sends (.zbd v) request o id := by
  simp only [zbd_sends_iff, Zbd.payInvoice]
  cases hInvoice : Bolt11.Invoice.paymentHashOf request with
  | error e =>
      exact ⟨_, rfl, fun id => by simp [PaymentAnswer.ofError]⟩
  | ok hash =>
      refine ⟨_, rfl, fun id => ?_⟩
      simp only [PaymentAnswer.ofExcept_eq_success_iff,
        Except.ok.injEq, exists_and_left, exists_eq_left']

/- A wallet reports exactly the payments that were sent. -/
theorem payInvoice_reports
    {w : Wallet}
    (hProvider : w.client?.isSome = true)
    (random : List UInt8)
    (request : String)
    (o next : Outcome)
    (rest : List Outcome) :
    ∃ a, (w.payInvoice random request).resultOf?
        (o :: next :: rest) = some (a, w) ∧
      ∀ id, (∃ fee preimage, a = .success id fee preimage) ↔
        w.Sends request o id := by
  cases w with
  | lnbits v =>
      rcases lnbits_payInvoice_reports v request o next rest with
        ⟨a, hResult, hReports⟩
      refine ⟨a, ?_, hReports⟩
      rw [payInvoice, Dialogue.resultOf?_map, hResult]
      rfl
  | lnpay v =>
      refine ⟨_, rfl, fun id => ?_⟩
      simp only [lnpay_sends_iff,
        PaymentAnswer.ofExcept_eq_success_iff]
  | zbd v =>
      rcases zbd_payInvoice_reports v request o (next :: rest)
        with ⟨a, hResult, hReports⟩
      refine ⟨a, ?_, hReports⟩
      rw [payInvoice, Dialogue.resultOf?_map, hResult]
      rfl
  | memory l => cases hProvider

------------------------------------------------------------
-- Whole Submissions
------------------------------------------------------------

/-
  For every wallet with a provider, every request and every way
  in which the calls may end: a new invoice is reported exactly
  if the reply has it, with the id and the payment request that
  stand there; a payment is reported exactly if the reply to it
  says that it was sent, under the id that stands there or that
  the invoice has, whatever a later lookup gives.  Everything
  else is reported as a failure.  A request for an invoice ends
  whatever the provider does, a payment unless the provider
  stays silent; and what they end in is given by the outcomes of
  their calls.
-/
theorem submissions_exact
    (w : Wallet)
    (hProvider : w.client?.isSome = true)
    (random : List UInt8) :
    (∀ q o rest, ∃ a,
      (w.createInvoice random q).resultOf? (o :: rest) =
          some (a, w) ∧
        (∀ id request, a = .success id request ↔
          w.Issues q o id request) ∧
        ((∃ message, a = .failed message) ↔
          ∀ id request, ¬w.Issues q o id request)) ∧
    (∀ request o next rest, ∃ a,
      (w.payInvoice random request).resultOf?
          (o :: next :: rest) = some (a, w) ∧
        (∀ id, (∃ fee preimage, a = .success id fee preimage) ↔
          w.Sends request o id) ∧
        ((∃ message, a = .failed message) ↔
          ∀ id, ¬w.Sends request o id)) ∧
    (∀ q script,
      (∃ r, (w.run (w.createInvoice random q) script).result =
        some r) ∧
      ∀ r, (w.run (w.createInvoice random q) script).result =
          some r →
        ∃ o, (w.createInvoice random q).resultOf? [o] =
          some r) ∧
    ∀ request script,
      (.staysSilent ∉ script.behaviours →
        ∃ r, (w.run (w.payInvoice random request)
          script).result = some r) ∧
      ∀ r, (w.run (w.payInvoice random request) script).result =
          some r →
        ∃ o next, (w.payInvoice random request).resultOf?
          [o, next] = some r := by
  rcases Option.isSome_iff_exists.mp hProvider with
    ⟨c, hClient⟩
  refine ⟨?_, ?_, ?_, ?_⟩
  · intro q o rest
    rcases createInvoice_reports hProvider random q o rest with
      ⟨a, hResult, hReports⟩
    refine ⟨a, hResult, hReports, ?_⟩
    simp only [← hReports]
    exact InvoiceAnswer.forall_ne_success_iff.symm
  · intro request o next rest
    rcases payInvoice_reports hProvider random request o next rest
      with ⟨a, hResult, hReports⟩
    refine ⟨a, hResult, hReports, ?_⟩
    simp only [← hReports]
    rw [← PaymentAnswer.forall_ne_success_iff]
    simp only [not_exists]
  · intro q script
    refine ⟨createInvoice_ends hProvider random q script, ?_⟩
    intro r hRun
    rw [run, hClient] at hRun
    rcases Dialogue.exists_ends_of_run hRun with
      ⟨outcomes, hEnds⟩
    have hResult := hEnds.resultOf?_eq
    cases outcomes with
    | nil =>
        exact ⟨.closed, Dialogue.resultOf?_append hResult _⟩
    | cons o rest =>
        rcases createInvoice_reports hProvider random q o [] with
          ⟨a, hFirst, _⟩
        exact ⟨o, Dialogue.resultOf?_of_append hFirst hResult⟩
  · intro request script
    constructor
    · intro hPrompt
      rw [run, hClient]
      exact Dialogue.exists_result_of_prompt hPrompt
    · intro r hRun
      rw [run, hClient] at hRun
      rcases Dialogue.exists_ends_of_run hRun with
        ⟨outcomes, hEnds⟩
      have hResult := hEnds.resultOf?_eq
      rcases outcomes with _ | ⟨o, _ | ⟨next, rest⟩⟩
      · exact ⟨.closed, .closed,
          Dialogue.resultOf?_append hResult _⟩
      · exact ⟨o, .closed, Dialogue.resultOf?_append hResult _⟩
      · rcases payInvoice_reports hProvider random request o next
          [] with ⟨a, hBoth, _⟩
        exact ⟨o, next,
          Dialogue.resultOf?_of_append hBoth hResult⟩

/- Invoices that the providers issue, by what they answer. -/
def issuedInvoices : List (Wallet × Reply) :=
  [(watching, ⟨201, "\x7b\"checking_id\":\"aa\"," ++
      "\"payment_request\":\"lnbc1\"\x7d"⟩),
   (counting, ⟨201, "\x7b\"id\":\"aa\"," ++
      "\"payment_request\":\"lnbc1\"\x7d"⟩),
   (charging, ⟨200, "\x7b\"data\":\x7b\"id\":\"aa\"," ++
      "\"invoice\":\x7b\"request\":\"lnbc1\"\x7d\x7d\x7d"⟩)]

/- An invoice over ten satoshis. -/
def tenSats : String :=
  "lnbc100n1pj48ugqpp54w46h2at4w46h2at4w46h2at4w46h2at4w46h2at4w46h" ++
    "2at4w4sdq5ve6kuerfdenjqar9wd6qsp59g4z52329g4z52329g4z52329g4z5" ++
    "2329g4z52329g4z52329g4q9qrsgq4ztgdzsnlf2e4wsyw7kqu44mgm9fkx72j" ++
    "k3as3a3nyd9cu2887x4j73w83hn2g6wnjhhlcnrey4lmleqgf3hexd0h00yuzj" ++
    "azkc6nuqp6ndz6v"

/- The hash of its payment. -/
def tenSatsHash : String :=
  "abababababababababababababababab" ++
    "abababababababababababababababab"

/- The invoice can be read, and its payee has signed it. -/
theorem paymentHashOf_tenSats :
    Bolt11.Invoice.paymentHashOf tenSats = .ok tenSatsHash := by
  rw [Bolt11.Invoice.paymentHashOf, Bolt11.Invoice.read,
    Bolt11.Invoice.parse]
  unfold tenSats
  -- Most of an evaluation would be spent on finding characters.
  simp only [String.toList_append, String.reduceToList]
  decide +kernel

/- Payments of it that the providers send: their ids and fees. -/
def sentPayments : List (Wallet × Reply × String × Msat) :=
  [(watching, ⟨200, "\x7b\"payment_hash\":\"bb\"\x7d"⟩, "bb",
     .zero),
   (counting, ⟨200, "\x7b\"lnTx\":\x7b\"id\":\"cc\"\x7d\x7d"⟩,
     "cc", .zero),
   (charging, ⟨200, "\x7b\"data\":\x7b\"fee\":5\x7d\x7d"⟩,
     tenSatsHash, .clamp (-5))]

/- A reply with a whole invoice that was not created. -/
def uncreated : Reply :=
  ⟨200, "\x7b\"id\":\"aa\"," ++
    "\"payment_request\":\"lnbc1\"\x7d"⟩

/-
  Invoices and payments are reported that the bodies name.  An
  invoice at LNPay is reported under the status of a created one
  only.
-/
theorem submissions_exact_of_replies :
    (∀ i ∈ issuedInvoices,
      i.1.client?.isSome = true ∧
        (i.1.createInvoice [] (.ofSat 1)).resultOf?
            [.reply i.2] =
          some (.success "aa" "lnbc1", i.1) ∧
        i.1.Issues (.ofSat 1) (.reply i.2) "aa" "lnbc1") ∧
    (∀ p ∈ sentPayments,
      p.1.client?.isSome = true ∧
        (p.1.payInvoice [] tenSats).resultOf?
            [.reply p.2.1, .closed] =
          some (.success p.2.2.1 p.2.2.2 none, p.1) ∧
        p.1.Sends tenSats (.reply p.2.1) p.2.2.1) ∧
    ∃ message,
      (counting.createInvoice [] (.ofSat 1)).resultOf?
          [.reply uncreated] =
        some (.failed message, counting) := by
  refine ⟨?_, ?_, ?_⟩
  · have hTold :
        ∀ i ∈ issuedInvoices,
          i.1.client?.isSome = true ∧
            (i.1.createInvoice [] (.ofSat 1)).resultOf?
                [.reply i.2] =
              some (.success "aa" "lnbc1", i.1) := by
      decide +kernel
    rintro ⟨w, r⟩ hMem
    rcases hTold _ hMem with ⟨hProvider, hResult⟩
    refine ⟨hProvider, hResult, ?_⟩
    rcases (submissions_exact w hProvider []).1 (.ofSat 1)
        (.reply r) [] with ⟨a, hAnswer, hReports, _⟩
    rw [hResult] at hAnswer
    cases hAnswer
    exact (hReports _ _).mp rfl
  · have hTold :
        ∀ p ∈ sentPayments,
          p.1.client?.isSome = true ∧
            (p.1.payInvoice [] tenSats).resultOf?
                [.reply p.2.1, .closed] =
              some (.success p.2.2.1 p.2.2.2 none, p.1) := by
      rw [sentPayments, List.forall_mem_cons, List.forall_mem_cons,
        List.forall_mem_singleton]
      refine ⟨by decide +kernel, by decide +kernel, rfl, ?_⟩
      rw [charging, payInvoice, Zbd.payInvoice,
        paymentHashOf_tenSats]
      decide +kernel
    rintro ⟨w, r, id, fee⟩ hMem
    rcases hTold _ hMem with ⟨hProvider, hResult⟩
    refine ⟨hProvider, hResult, ?_⟩
    rcases (submissions_exact w hProvider []).2.1 tenSats
        (.reply r) .closed [] with ⟨a, hAnswer, hReports, _⟩
    rw [hResult] at hAnswer
    cases hAnswer
    exact (hReports id).mp ⟨_, _, rfl⟩
  · rcases (submissions_exact counting rfl []).1 (.ofSat 1)
        (.reply uncreated) [] with ⟨a, hResult, _, hFailed⟩
    have hNone :
        ∀ id request,
          ¬counting.Issues (.ofSat 1) (.reply uncreated) id
            request := by
      intro id request hIssues
      cases hIssues with
      | lnpay hCreated => exact absurd hCreated (by decide)
    rcases hFailed.mpr hNone with ⟨message, rfl⟩
    exact ⟨message, hResult⟩

end Wallet

end LightningGateway
