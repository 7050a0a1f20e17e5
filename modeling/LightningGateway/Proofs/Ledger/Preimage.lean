import LightningGateway.Proofs.Ledger.Settlement

/-
  The preimages that a wallet in memory shows.

  Invoices are issued, settled and paid, timers run out and the
  wallet is closed, in whatever order.  An invoice keeps the
  preimage with which it was issued, and shows it as soon as it
  is settled; a payment keeps and shows the one with which it
  was sent.  The id of either is the hash of its preimage.

  Key definitions include:
    * `Ledger.IsPreimage`
    * `Ledger.Shared.Settled`
    * `Ledger.Shared.Touches`
    * `Ledger.Shared.Recorded`

  Main results:
    * `Ledger.Shared.touches_of_step?`
    * `Ledger.Shared.recorded_of_run`
    * `Ledger.Shared.keeps_of_run`
    * `Ledger.Shared.preimages_shown`
-/

namespace LightningGateway

open Payment Relay Settings

namespace Ledger

------------------------------------------------------------
-- Entries by Id
------------------------------------------------------------

/- An entry is found under its id, and all others as before. -/
theorem lookup_record
    {α : Type}
    (id : String)
    (entry : α)
    (entries : List (String × α))
    (k : String) :
    (record id entry entries).lookup k =
      if k = id then some entry else entries.lookup k := by
  have hCons :
      ∀ (l : String) (e : α) (rest : List (String × α)),
        ((l, e) :: rest).lookup k =
          if k = l then some e else rest.lookup k := by
    intro l e rest
    rw [List.lookup_cons]
    by_cases hSame : k = l
    · rw [if_pos hSame, beq_iff_eq.mpr hSame]
    · rw [if_neg hSame, beq_eq_false_iff_ne.mpr hSame]
  induction entries with
  | nil => exact hCons id entry []
  | cons first rest ih =>
      rcases first with ⟨l, old⟩
      rw [record]
      by_cases hTaken : l = id
      · rw [if_pos hTaken, hCons, hCons, hTaken]
        split <;> rfl
      · rw [if_neg hTaken, hCons, hCons, ih]
        by_cases hFirst : k = l
        · rw [if_pos hFirst, if_pos hFirst, if_neg]
          rw [hFirst]
          exact hTaken
        · rw [if_neg hFirst, if_neg hFirst]

/- A preimage, in hexadecimal, and the id that its hash is. -/
def IsPreimage (id preimage : String) : Prop :=
  ∃ bytes, Text.Hex.decode? preimage = some bytes ∧
    Text.Hex.encode (Crypto.Sha256.hash bytes) = id

/- The text of some bytes is a preimage for their id. -/
theorem isPreimage_encode (bytes : List UInt8) :
    IsPreimage (idOf bytes) (Text.Hex.encode bytes) :=
  ⟨bytes, Text.Hex.decode?_encode bytes, rfl⟩

/- The id that an act settles, if an invoice has it. -/
def Act.settles? : Act → Option String
  | .mark id => some id
  | .wake t => some t.id
  | _ => none

namespace Shared

/- The id of the payment that an act sends. -/
def paidOf
    (s : Shared) : Act → List String
  | .payInvoice random request =>
      (s.ledger.payInvoice random request).1.checkingId?.toList
  | _ => []

/- The ids of the payments that are sent. -/
def paid
    (s : Shared)
    (acts : List Act) : List String :=
  Run.outputs step? paidOf s acts

/-
  An invoice has been settled: by one of the acts that came
  after the one that issued it.
-/
def Settled
    (s : Shared)
    (acts : List Act)
    (id : String) : Prop :=
  ∃ past a later, acts = past ++ a :: later ∧
    id ∈ s.issued past ∧ a.settles? = some id

------------------------------------------------------------
-- What Acts Do to Entries
------------------------------------------------------------

/-
  What an act does to the entries of a wallet: it issues an
  invoice, sends a payment, settles an invoice that is recorded,
  or leaves all entries as they are.
-/
inductive Touches
    (s t : Shared)
    (a : Act) : Prop
  | issue
      {id : String}
      {e : InvoiceEntry}
      (hIssued : s.issuedOf a = [id])
      (hPaid : s.paidOf a = [])
      (hSettles : a.settles? = none)
      (hOpen : e.settled = false)
      (hPreimage : IsPreimage id e.preimage)
      (hInvoices :
        ∀ k, t.ledger.invoices.lookup k =
          if k = id then some e
          else s.ledger.invoices.lookup k)
      (hPayments : t.ledger.payments = s.ledger.payments)
  | pay
      {id : String}
      {e : PaymentEntry}
      (hIssued : s.issuedOf a = [])
      (hPaid : s.paidOf a = [id])
      (hSettles : a.settles? = none)
      (hPreimage : IsPreimage id e.preimage)
      (hInvoices : t.ledger.invoices = s.ledger.invoices)
      (hPayments :
        ∀ k, t.ledger.payments.lookup k =
          if k = id then some e
          else s.ledger.payments.lookup k)
  | settle
      {id : String}
      {e : InvoiceEntry}
      (hIssued : s.issuedOf a = [])
      (hPaid : s.paidOf a = [])
      (hSettles : a.settles? = some id)
      (hFound : s.ledger.invoices.lookup id = some e)
      (hInvoices :
        ∀ k, t.ledger.invoices.lookup k =
          if k = id then some { e with settled := true }
          else s.ledger.invoices.lookup k)
      (hPayments : t.ledger.payments = s.ledger.payments)
  | idle
      (hIssued : s.issuedOf a = [])
      (hPaid : s.paidOf a = [])
      (hSettles :
        ∀ id, a.settles? = some id →
          s.ledger.invoices.lookup id = none)
      (hInvoices : t.ledger.invoices = s.ledger.invoices)
      (hPayments : t.ledger.payments = s.ledger.payments)

/- To mark an invoice settles it, if it is recorded. -/
theorem touches_mark
    {s t : Shared}
    {a : Act}
    {id : String}
    (hIssued : s.issuedOf a = [])
    (hPaid : s.paidOf a = [])
    (hSettles : a.settles? = some id)
    (hInvoices : t.ledger.invoices = s.ledger.invoices)
    (hPayments : t.ledger.payments = s.ledger.payments) :
    Touches s (t.mark id) a := by
  unfold mark
  cases hFound : t.ledger.invoices.lookup id with
  | none =>
      refine .idle hIssued hPaid ?_ hInvoices hPayments
      intro k hSame
      rw [hSettles, Option.some_inj] at hSame
      rw [← hSame, ← hInvoices]
      exact hFound
  | some e =>
      rw [hInvoices] at hFound
      by_cases hSettled : e.settled = true
      · simp only [if_pos hSettled]
        refine .settle hIssued hPaid hSettles hFound ?_ hPayments
        intro k
        rw [hInvoices]
        by_cases hSame : k = id
        · rw [if_pos hSame, hSame, hFound, ← hSettled]
        · rw [if_neg hSame]
      · simp only [if_neg hSettled]
        refine .settle hIssued hPaid hSettles hFound ?_ hPayments
        intro k
        simp only [Ledger.mark, hInvoices]
        exact lookup_record id _ _ k

/- The use of the queue leaves all entries as they are. -/
theorem touches_use?
    {s t : Shared}
    {a : Act}
    {o : RelayQueue.Operation}
    (hIssued : s.issuedOf a = [])
    (hPaid : s.paidOf a = [])
    (hSettles : a.settles? = none)
    (hUse : s.use? o = some t) :
    Touches s t a := by
  rcases Option.map_eq_some_iff.mp hUse with ⟨q, _, rfl⟩
  refine .idle hIssued hPaid ?_ rfl rfl
  intro id hSome
  rw [hSettles] at hSome
  cases hSome

/- What a new invoice does to the entries. -/
theorem touches_createInvoice
    (s : Shared)
    (random : List UInt8)
    (r : InvoiceRequest) :
    Touches s
      { s with ledger := (s.ledger.createInvoice random r).2 }
      (.createInvoice random r) := by
  have hIssuedOf :
      s.issuedOf (.createInvoice random r) =
        (s.ledger.createInvoice random r).1.checkingId?.toList :=
    rfl
  unfold Ledger.createInvoice at *
  cases hAmount : r.amount with
  | error e =>
      simp only [hAmount] at hIssuedOf ⊢
      exact .idle hIssuedOf rfl nofun rfl rfl
  | ok amount =>
      simp only [hAmount] at hIssuedOf ⊢
      have hPreimage :=
        isPreimage_encode (Crypto.Sha256.hash random)
      -- Whoever compares hashes computes them.
      generalize Crypto.Sha256.hash random = bytes at *
      generalize idOf bytes = id, Text.Hex.encode bytes = text
        at *
      exact .issue hIssuedOf rfl rfl rfl hPreimage
        (lookup_record _ _ _) rfl

/- What a payment does to the entries. -/
theorem touches_payInvoice
    (s : Shared)
    (random : List UInt8)
    (request : String) :
    Touches s
      { s with ledger := (s.ledger.payInvoice random request).2 }
      (.payInvoice random request) := by
  have hPaidOf :
      s.paidOf (.payInvoice random request) =
        (s.ledger.payInvoice random request).1.checkingId?.toList :=
    rfl
  unfold Ledger.payInvoice at *
  cases hAmount : s.ledger.amountToPay request with
  | error e =>
      simp only [hAmount] at hPaidOf ⊢
      exact .idle rfl hPaidOf nofun rfl rfl
  | ok amount =>
      simp only [hAmount] at hPaidOf ⊢
      have hPreimage :=
        isPreimage_encode (Crypto.Sha256.hash
          (Text.Utf8.encode (request ++ ":") ++ random))
      generalize Crypto.Sha256.hash _ = bytes at *
      generalize idOf bytes = id, Text.Hex.encode bytes = text
        at *
      exact .pay rfl hPaidOf rfl hPreimage rfl
        (lookup_record _ _ _)

/- Every act does one of these things. -/
theorem touches_of_step?
    {s t : Shared}
    {a : Act}
    (hStep : s.step? a = some t) :
    Touches s t a := by
  cases a with
  | createInvoice random r =>
      cases hStep
      exact s.touches_createInvoice random r
  | payInvoice random request =>
      cases hStep
      exact s.touches_payInvoice random request
  | mark id =>
      cases hStep
      exact touches_mark rfl rfl rfl rfl rfl
  | wake timer =>
      rcases Option.ite_none_right_eq_some.mp hStep with
        ⟨_, hSome⟩
      cases hSome
      exact touches_mark rfl rfl rfl rfl rfl
  | offer id =>
      rcases Option.ite_none_right_eq_some.mp hStep with
        ⟨_, hSome⟩
      cases hSome
      refine .idle rfl rfl (fun _ hId => by cases hId) ?_ ?_
      all_goals
        simp only [Ledger.offer]
        split <;> rfl
  | takeStream => exact touches_use? rfl rfl rfl hStep
  | receive => exact touches_use? rfl rfl rfl hStep
  | dropStream => exact touches_use? rfl rfl rfl hStep
  | close =>
      cases hStep
      exact .idle rfl rfl (fun _ hId => by cases hId) rfl rfl
  | pass ms =>
      cases hStep
      exact .idle rfl rfl (fun _ hId => by cases hId) rfl rfl

------------------------------------------------------------
-- Recorded Entries
------------------------------------------------------------

/- Whose invoice is settled after one act more. -/
theorem settled_snoc_iff
    {o : Shared}
    {past : List Act}
    {a : Act}
    {id : String} :
    o.Settled (past ++ [a]) id ↔
      o.Settled past id ∨
        (id ∈ o.issued past ∧ a.settles? = some id) := by
  constructor
  · rintro ⟨before, b, later, hSplit, hIssued, hSettles⟩
    rcases List.eq_nil_or_concat later with
      rfl | ⟨rest, c, rfl⟩
    · rcases List.append_inj' hSplit rfl with ⟨rfl, hSame⟩
      cases hSame
      exact .inr ⟨hIssued, hSettles⟩
    · rw [List.concat_eq_append, ← List.cons_append,
        ← List.append_assoc] at hSplit
      rcases List.append_inj' hSplit rfl with ⟨rfl, _⟩
      exact .inl ⟨before, b, rest, rfl, hIssued, hSettles⟩
  · rintro (⟨before, b, later, rfl, hIssued, hSettles⟩ |
      ⟨hIssued, hSettles⟩)
    · exact ⟨before, b, later ++ [a], by simp, hIssued, hSettles⟩
    · exact ⟨past, a, [], rfl, hIssued, hSettles⟩

/- An invoice that was settled was issued. -/
theorem mem_issued_of_settled
    {o m : Shared}
    {past : List Act}
    {id : String}
    (hPast : o.run? past = some m)
    (hSettled : o.Settled past id) :
    id ∈ o.issued past := by
  rcases hSettled with ⟨before, a, later, rfl, hIssued, _⟩
  rcases Run.run_append_eq_some_iff.mp hPast with
    ⟨u, hBefore, _⟩
  rw [issued, Run.outputs_append hBefore]
  exact List.mem_append_left _ hIssued

/-
  How the invoices of a wallet agree with what has happened:
  those that were issued are recorded under the hashes of their
  preimages, and those that were settled are marked.
-/
structure Invoiced
    (o : Shared)
    (past : List Act)
    (m : Shared) : Prop where
  issued_iff :
    ∀ id, id ∈ o.issued past ↔
      ∃ e, m.ledger.invoices.lookup id = some e
  settled_iff :
    ∀ {id e}, m.ledger.invoices.lookup id = some e →
      (e.settled = true ↔ o.Settled past id)
  isPreimage :
    ∀ {id e}, m.ledger.invoices.lookup id = some e →
      IsPreimage id e.preimage

/-
  How the payments of a wallet agree with what has happened:
  those that were sent are recorded under the hashes of their
  preimages.
-/
structure Sent
    (o : Shared)
    (past : List Act)
    (m : Shared) : Prop where
  paid_iff :
    ∀ id, id ∈ o.paid past ↔
      ∃ e, m.ledger.payments.lookup id = some e
  isPreimage :
    ∀ {id e}, m.ledger.payments.lookup id = some e →
      IsPreimage id e.preimage

section Steps

variable {o m t : Shared}
variable {past : List Act}
variable {a : Act}

/- An act that settles nothing recorded leaves invoices alone. -/
theorem Invoiced.snoc_same
    (hInvoiced : Invoiced o past m)
    (hPast : o.run? past = some m)
    (hStep : m.step? a = some t)
    (hIssued : m.issuedOf a = [])
    (hSettles :
      ∀ id, a.settles? = some id →
        m.ledger.invoices.lookup id = none)
    (hInvoices : t.ledger.invoices = m.ledger.invoices) :
    Invoiced o (past ++ [a]) t := by
  constructor
  · rw [issued, Run.outputs_snoc hPast hStep, hIssued,
      List.append_nil, hInvoices]
    exact hInvoiced.issued_iff
  · intro id e hFound
    rw [hInvoices] at hFound
    rw [settled_snoc_iff, hInvoiced.settled_iff hFound]
    refine ⟨.inl, ?_⟩
    rintro (hSettled | ⟨_, hNow⟩)
    · exact hSettled
    · rw [hSettles id hNow] at hFound
      cases hFound
  · intro id e hFound
    rw [hInvoices] at hFound
    exact hInvoiced.isPreimage hFound

/- A new invoice is recorded, and is not settled. -/
theorem Invoiced.snoc_issue
    {id : String}
    {e : InvoiceEntry}
    (hInvoiced : Invoiced o past m)
    (hPast : o.run? past = some m)
    (hStep : m.step? a = some t)
    (hNew : id ∉ o.issued past)
    (hIssued : m.issuedOf a = [id])
    (hSettles : a.settles? = none)
    (hOpen : e.settled = false)
    (hPreimage : IsPreimage id e.preimage)
    (hInvoices :
      ∀ k, t.ledger.invoices.lookup k =
        if k = id then some e
        else m.ledger.invoices.lookup k) :
    Invoiced o (past ++ [a]) t := by
  have hSettled :
      ∀ k, o.Settled (past ++ [a]) k ↔ o.Settled past k := by
    simp [settled_snoc_iff, hSettles]
  constructor
  · intro k
    rw [issued, Run.outputs_snoc hPast hStep, hIssued,
      List.mem_append, List.mem_singleton, hInvoices]
    by_cases hSame : k = id
    · simp [hSame]
    · rw [if_neg hSame, or_iff_left hSame]
      exact hInvoiced.issued_iff k
  · intro k f hFound
    rw [hInvoices] at hFound
    rw [hSettled]
    by_cases hSame : k = id
    · rw [if_pos hSame] at hFound
      cases hFound
      have hNever := mt (mem_issued_of_settled hPast) hNew
      rw [hSame, hOpen]
      exact iff_of_false Bool.false_ne_true hNever
    · rw [if_neg hSame] at hFound
      exact hInvoiced.settled_iff hFound
  · intro k f hFound
    rw [hInvoices] at hFound
    by_cases hSame : k = id
    · rw [if_pos hSame] at hFound
      cases hFound
      rw [hSame]
      exact hPreimage
    · rw [if_neg hSame] at hFound
      exact hInvoiced.isPreimage hFound

/- An invoice that is settled is marked, and nothing else. -/
theorem Invoiced.snoc_settle
    {id : String}
    {e : InvoiceEntry}
    (hInvoiced : Invoiced o past m)
    (hPast : o.run? past = some m)
    (hStep : m.step? a = some t)
    (hIssued : m.issuedOf a = [])
    (hSettles : a.settles? = some id)
    (hFound : m.ledger.invoices.lookup id = some e)
    (hInvoices :
      ∀ k, t.ledger.invoices.lookup k =
        if k = id then some { e with settled := true }
        else m.ledger.invoices.lookup k) :
    Invoiced o (past ++ [a]) t := by
  have hKnown : id ∈ o.issued past :=
    (hInvoiced.issued_iff id).mpr ⟨e, hFound⟩
  constructor
  · intro k
    rw [issued, Run.outputs_snoc hPast hStep, hIssued,
      List.append_nil, hInvoices]
    by_cases hSame : k = id
    · rw [if_pos hSame, hSame]
      exact ⟨fun _ => ⟨_, rfl⟩, fun _ => hKnown⟩
    · rw [if_neg hSame]
      exact hInvoiced.issued_iff k
  · intro k f hAfter
    rw [hInvoices] at hAfter
    rw [settled_snoc_iff, hSettles, Option.some_inj]
    by_cases hSame : k = id
    · rw [if_pos hSame] at hAfter
      cases hAfter
      rw [hSame]
      exact ⟨fun _ => .inr ⟨hKnown, rfl⟩, fun _ => rfl⟩
    · rw [if_neg hSame] at hAfter
      rw [hInvoiced.settled_iff hAfter]
      refine ⟨.inl, ?_⟩
      rintro (hSettled | ⟨_, hOther⟩)
      · exact hSettled
      · exact absurd hOther.symm hSame
  · intro k f hAfter
    rw [hInvoices] at hAfter
    by_cases hSame : k = id
    · rw [if_pos hSame] at hAfter
      cases hAfter
      rw [hSame]
      have hPreimage := hInvoiced.isPreimage hFound
      exact hPreimage
    · rw [if_neg hSame] at hAfter
      exact hInvoiced.isPreimage hAfter

/- Every act leaves the invoices in agreement. -/
theorem Invoiced.snoc
    (hInvoiced : Invoiced o past m)
    (hPast : o.run? past = some m)
    (hStep : m.step? a = some t)
    (hFresh : ∀ id ∈ m.issuedOf a, id ∉ o.issued past) :
    Invoiced o (past ++ [a]) t := by
  cases touches_of_step? hStep with
  | @issue id e hIssued _ hSettles hOpen hPreimage hInvoices _ =>
      rw [hIssued, List.forall_mem_singleton] at hFresh
      exact hInvoiced.snoc_issue hPast hStep hFresh hIssued
        hSettles hOpen hPreimage hInvoices
  | pay hIssued _ hSettles _ hInvoices _ =>
      refine hInvoiced.snoc_same hPast hStep hIssued ?_ hInvoices
      simp [hSettles]
  | settle hIssued _ hSettles hFound hInvoices _ =>
      exact hInvoiced.snoc_settle hPast hStep hIssued hSettles
        hFound hInvoices
  | idle hIssued _ hSettles hInvoices _ =>
      exact hInvoiced.snoc_same hPast hStep hIssued hSettles
        hInvoices

/- An act that sends nothing leaves the payments alone. -/
theorem Sent.snoc_same
    (hSent : Sent o past m)
    (hPast : o.run? past = some m)
    (hStep : m.step? a = some t)
    (hPaid : m.paidOf a = [])
    (hPayments : t.ledger.payments = m.ledger.payments) :
    Sent o (past ++ [a]) t := by
  constructor
  · rw [paid, Run.outputs_snoc hPast hStep, hPaid,
      List.append_nil, hPayments]
    exact hSent.paid_iff
  · intro id e hFound
    rw [hPayments] at hFound
    exact hSent.isPreimage hFound

/- Every act leaves the payments in agreement. -/
theorem Sent.snoc
    (hSent : Sent o past m)
    (hPast : o.run? past = some m)
    (hStep : m.step? a = some t) :
    Sent o (past ++ [a]) t := by
  cases touches_of_step? hStep with
  | issue _ hPaid _ _ _ _ hPayments =>
      exact hSent.snoc_same hPast hStep hPaid hPayments
  | @pay id e _ hPaid _ hPreimage _ hPayments =>
      constructor
      · intro k
        rw [paid, Run.outputs_snoc hPast hStep, hPaid,
          List.mem_append, List.mem_singleton, hPayments]
        by_cases hSame : k = id
        · simp [hSame]
        · rw [if_neg hSame, or_iff_left hSame]
          exact hSent.paid_iff k
      · intro k f hFound
        rw [hPayments] at hFound
        by_cases hSame : k = id
        · rw [if_pos hSame] at hFound
          cases hFound
          rw [hSame]
          exact hPreimage
        · rw [if_neg hSame] at hFound
          exact hSent.isPreimage hFound
  | settle _ hPaid _ _ _ hPayments =>
      exact hSent.snoc_same hPast hStep hPaid hPayments
  | idle _ hPaid _ _ hPayments =>
      exact hSent.snoc_same hPast hStep hPaid hPayments

end Steps

------------------------------------------------------------
-- Whole Runs
------------------------------------------------------------

variable {s : FakeSettings}
variable {f : FundingSettings}
variable {t : Shared}

/- What one act more issues was not issued before. -/
theorem fresh_of_nodup
    {o m t : Shared}
    {past : List Act}
    {a : Act}
    (hPast : o.run? past = some m)
    (hStep : m.step? a = some t)
    (hFresh : (o.issued (past ++ [a])).Nodup) :
    (o.issued past).Nodup ∧
      ∀ id ∈ m.issuedOf a, id ∉ o.issued past := by
  rw [issued, Run.outputs_snoc hPast hStep] at hFresh
  rcases List.nodup_append.mp hFresh with ⟨hOld, _, hApart⟩
  exact ⟨hOld, fun id hNew hKnown => hApart id hKnown id hNew rfl⟩

/- In every run, the invoices agree with what has happened. -/
theorem invoiced_of_run
    {acts : List Act}
    (hFresh : ((start s f).issued acts).Nodup)
    (hRun : (start s f).run? acts = some t) :
    Invoiced (start s f) acts t := by
  refine Run.history_of_run
    (P := fun past m =>
      ((start s f).issued past).Nodup →
        Invoiced (start s f) past m)
    ?_ ?_ hRun hFresh
  · intro past m next a hPast hInvoiced hStep hMore
    rcases fresh_of_nodup hPast hStep hMore with ⟨hOld, hNew⟩
    exact (hInvoiced hOld).snoc hPast hStep hNew
  · intro _
    exact ⟨by simp [issued, Run.outputs, start, build],
      nofun, nofun⟩

/- In every run, the payments agree with what has happened. -/
theorem sent_of_run
    {acts : List Act}
    (hRun : (start s f).run? acts = some t) :
    Sent (start s f) acts t := by
  refine Run.history_of_run
    (P := fun past m => Sent (start s f) past m) ?_ ?_ hRun
  · intro past m next a hPast hSent hStep
    exact hSent.snoc hPast hStep
  · exact ⟨by simp [paid, Run.outputs, start, build], nofun⟩

/-
  What stays of the entries of a wallet: an invoice keeps its
  preimage, and a payment stays as it is.
-/
structure Keeps (m t : Shared) : Prop where
  invoice :
    ∀ {id e}, m.ledger.invoices.lookup id = some e →
      ∃ f, t.ledger.invoices.lookup id = some f ∧
        f.preimage = e.preimage
  payment :
    ∀ {id e}, m.ledger.payments.lookup id = some e →
      t.ledger.payments.lookup id = some e

/- What was kept twice was kept. -/
theorem Keeps.trans
    {m u t : Shared}
    (hFirst : Keeps m u)
    (hSecond : Keeps u t) :
    Keeps m t where
  invoice := by
    intro id e hFound
    rcases hFirst.invoice hFound with ⟨f, hThen, hPreimage⟩
    rcases hSecond.invoice hThen with ⟨g, hNow, hSame⟩
    exact ⟨g, hNow, hSame.trans hPreimage⟩
  payment := fun hFound =>
    hSecond.payment (hFirst.payment hFound)

/- A new entry takes the place of no other. -/
theorem lookup_of_fresh
    {α : Type}
    {old new : String → Option α}
    {id k : String}
    {x e : α}
    (hFresh : old id = none)
    (hNew : ∀ k, new k = if k = id then some x else old k)
    (hFound : old k = some e) :
    new k = some e := by
  have hOther : k ≠ id := by
    rintro rfl
    rw [hFresh] at hFound
    cases hFound
  rw [hNew, if_neg hOther]
  exact hFound

/- No act takes anything away, if its ids are new. -/
theorem keeps_of_step?
    {u t : Shared}
    {a : Act}
    (hStep : u.step? a = some t)
    (hIssued :
      ∀ id ∈ u.issuedOf a, u.ledger.invoices.lookup id = none)
    (hPaid :
      ∀ id ∈ u.paidOf a, u.ledger.payments.lookup id = none) :
    Keeps u t := by
  cases touches_of_step? hStep with
  | issue hIssue _ _ _ _ hInvoices hPayments =>
      rw [hIssue, List.forall_mem_singleton] at hIssued
      constructor
      · intro k e hFound
        exact ⟨e, lookup_of_fresh hIssued hInvoices hFound, rfl⟩
      · intro k e hFound
        rw [hPayments]
        exact hFound
  | pay _ hPay _ _ hInvoices hPayments =>
      rw [hPay, List.forall_mem_singleton] at hPaid
      constructor
      · intro k e hFound
        rw [hInvoices]
        exact ⟨e, hFound, rfl⟩
      · intro k e hFound
        exact lookup_of_fresh hPaid hPayments hFound
  | @settle id e _ _ _ hOpen hInvoices hPayments =>
      constructor
      · intro k g hFound
        rw [hInvoices]
        by_cases hSame : k = id
        · rw [hSame, hOpen] at hFound
          cases hFound
          rw [if_pos hSame]
          exact ⟨_, rfl, rfl⟩
        · rw [if_neg hSame]
          exact ⟨g, hFound, rfl⟩
      · intro k g hFound
        rw [hPayments]
        exact hFound
  | idle _ _ _ hInvoices hPayments =>
      constructor
      · intro k e hFound
        rw [hInvoices]
        exact ⟨e, hFound, rfl⟩
      · intro k e hFound
        rw [hPayments]
        exact hFound

/- An id that has no entry is not found. -/
theorem lookup_eq_none_of_not
    {α : Type}
    {ids : List String}
    {entries : List (String × α)}
    (hIds : ∀ id, id ∈ ids ↔ ∃ e, entries.lookup id = some e)
    {id : String}
    (hNever : id ∉ ids) :
    entries.lookup id = none := by
  cases hFound : entries.lookup id with
  | none => rfl
  | some e => exact absurd ((hIds id).mpr ⟨e, hFound⟩) hNever

/- What is left of a run after its beginning. -/
theorem run_of_append
    {o m t : Shared}
    {past later : List Act}
    (hPast : o.run? past = some m)
    (hRun : o.run? (past ++ later) = some t) :
    m.run? later = some t := by
  rcases Run.run_append_eq_some_iff.mp hRun with
    ⟨u, hSame, hLater⟩
  cases hPast.symm.trans hSame
  exact hLater

/- No run takes anything away, if all ids are different. -/
theorem keeps_of_run
    {past later : List Act}
    {m : Shared}
    (hIssued : ((start s f).issued (past ++ later)).Nodup)
    (hPaid : ((start s f).paid (past ++ later)).Nodup)
    (hPast : (start s f).run? past = some m)
    (hLater : m.run? later = some t) :
    Keeps m t := by
  refine Run.history_of_run
    (P := fun later u =>
      ((start s f).issued (past ++ later)).Nodup →
      ((start s f).paid (past ++ later)).Nodup →
        Keeps m u)
    ?_ ?_ hLater hIssued hPaid
  · intro middle u next a hMiddle hKeeps hStep hIssued hPaid
    have hThen : (start s f).run? (past ++ middle) = some u :=
      Run.run_append hPast hMiddle
    rw [← List.append_assoc, issued,
      Run.outputs_snoc hThen hStep] at hIssued
    rw [← List.append_assoc, paid,
      Run.outputs_snoc hThen hStep] at hPaid
    rcases List.nodup_append.mp hIssued with
      ⟨hIssuedOld, _, hIssuedNew⟩
    rcases List.nodup_append.mp hPaid with
      ⟨hPaidOld, _, hPaidNew⟩
    refine (hKeeps hIssuedOld hPaidOld).trans
      (keeps_of_step? hStep ?_ ?_)
    · intro id hNew
      refine lookup_eq_none_of_not
        (invoiced_of_run hIssuedOld hThen).issued_iff ?_
      exact fun hKnown => hIssuedNew id hKnown id hNew rfl
    · intro id hNew
      refine lookup_eq_none_of_not (sent_of_run hThen).paid_iff ?_
      exact fun hKnown => hPaidNew id hKnown id hNew rfl
  · intro _ _
    exact ⟨fun hFound => ⟨_, hFound, rfl⟩, id⟩

------------------------------------------------------------
-- What Lookups Show
------------------------------------------------------------

/- The state of a recorded invoice, by whether it is settled. -/
theorem Invoiced.invoiceStatus_eq
    {o m : Shared}
    {past : List Act}
    {id : String}
    {e : InvoiceEntry}
    (hInvoiced : Invoiced o past m)
    (hFound : m.ledger.invoices.lookup id = some e) :
    (¬o.Settled past id →
      m.ledger.invoiceStatus id = .pending) ∧
    (o.Settled past id →
      m.ledger.invoiceStatus id =
        .success none (some e.preimage)) := by
  rw [← hInvoiced.settled_iff hFound, invoiceStatus, hFound]
  exact ⟨fun hOpen => if_neg hOpen, fun hPaid => if_pos hPaid⟩

/- A payment that is sent is recorded as it is answered. -/
theorem lookup_payInvoice
    {l : Ledger}
    {random : List UInt8}
    {request id : String}
    {fee : Msat}
    {preimage : Option String}
    (hAnswer :
      (l.payInvoice random request).1 =
        .success id fee preimage) :
    ∃ e, (l.payInvoice random request).2.payments.lookup id =
        some e ∧
      fee = .zero ∧ preimage = some e.preimage := by
  unfold Ledger.payInvoice at *
  cases hAmount : l.amountToPay request with
  | error e =>
      simp only [hAmount] at hAnswer
      cases hAnswer
  | ok amount =>
      simp only [hAmount] at hAnswer ⊢
      cases hAnswer
      refine ⟨⟨amount, _⟩, ?_, rfl, rfl⟩
      exact (lookup_record _ _ _ _).trans (if_pos rfl)

/-
  For all settings and all orders in which a wallet is used by
  many, with different ids for different invoices and for
  different payments: every invoice that was issued is recorded,
  and every recorded invoice and payment has a preimage whose
  hash is its id.

  An invoice is pending until it is settled, and ever after it
  is a success with the preimage with which it was recorded, and
  without a fee.  A payment that was sent is ever after a
  success with no fee and with the preimage that was answered.
  Nothing is shown as failed, and an id under which nothing was
  issued or sent is pending.
-/
theorem preimages_shown
    (s : FakeSettings)
    (f : FundingSettings)
    (acts : List Act)
    (t : Shared)
    (hIssued : ((start s f).issued acts).Nodup)
    (hPaid : ((start s f).paid acts).Nodup)
    (hRun : (start s f).run? acts = some t) :
    (∀ id ∈ (start s f).issued acts,
      ∃ e, t.ledger.invoices.lookup id = some e) ∧
    (∀ id e, t.ledger.invoices.lookup id = some e →
      IsPreimage id e.preimage) ∧
    (∀ id e, t.ledger.payments.lookup id = some e →
      IsPreimage id e.preimage) ∧
    (∀ past later m id e, acts = past ++ later →
      (start s f).run? past = some m →
      m.ledger.invoices.lookup id = some e →
      (¬(start s f).Settled acts id →
        t.ledger.invoiceStatus id = .pending) ∧
      ((start s f).Settled acts id →
        t.ledger.invoiceStatus id =
          .success none (some e.preimage))) ∧
    (∀ past random request later m id fee preimage,
      acts = past ++ .payInvoice random request :: later →
      (start s f).run? past = some m →
      (m.ledger.payInvoice random request).1 =
        .success id fee preimage →
      fee = .zero ∧
        t.ledger.paymentStatus id =
          .success (some .zero) preimage ∧
        ∃ text, preimage = some text ∧ IsPreimage id text) ∧
    (∀ id, t.ledger.invoiceStatus id ≠ .failed ∧
      t.ledger.paymentStatus id ≠ .failed) ∧
    (∀ id, id ∉ (start s f).issued acts →
      t.ledger.invoiceStatus id = .pending) ∧
    (∀ id, id ∉ (start s f).paid acts →
      t.ledger.paymentStatus id = .pending) := by
  have hInvoiced := invoiced_of_run hIssued hRun
  have hSent := sent_of_run hRun
  refine ⟨fun id => (hInvoiced.issued_iff id).mp,
    fun id e => hInvoiced.isPreimage,
    fun id e => hSent.isPreimage, ?_, ?_, ?_, ?_, ?_⟩
  · rintro past later m id e rfl hPast hFound
    have hLater := run_of_append hPast hRun
    rcases (keeps_of_run hIssued hPaid hPast hLater).invoice
        hFound with
      ⟨g, hNow, hPreimage⟩
    rw [← hPreimage]
    exact hInvoiced.invoiceStatus_eq hNow
  · rintro past random request later m id fee preimage rfl
      hPast hAnswer
    rw [List.append_cons] at hIssued hPaid hRun
    have hSend :
        (start s f).run? (past ++ [.payInvoice random request]) =
          some { m with
            ledger := (m.ledger.payInvoice random request).2 } :=
      Run.run_append hPast rfl
    have hLater := run_of_append hSend hRun
    rcases lookup_payInvoice hAnswer with
      ⟨e, hFound, rfl, rfl⟩
    have hNow :=
      (keeps_of_run hIssued hPaid hSend hLater).payment hFound
    refine ⟨rfl, ?_, _, rfl, hSent.isPreimage hNow⟩
    rw [paymentStatus, hNow]
  · intro id
    rw [invoiceStatus, paymentStatus]
    constructor
    · split
      · split <;> simp
      · simp
    · split <;> simp
  · intro id hNever
    rw [invoiceStatus,
      lookup_eq_none_of_not hInvoiced.issued_iff hNever]
  · intro id hNever
    rw [paymentStatus,
      lookup_eq_none_of_not hSent.paid_iff hNever]

/- A wallet whose invoices are settled after a while. -/
def stall : Shared :=
  .start ⟨some 50⟩ ⟨.fake, "agent", 5, 1⟩

/- What the wallet has to wait for. -/
def alarm : Timer :=
  ⟨Pause.length 50, firstId⟩

/- An invoice is issued. -/
def issuing : List Act :=
  [.createInvoice [1] (.ofSat 1)]

/- The wallet after that. -/
def stocked : Shared :=
  (stall.run? issuing).getD stall

/- It is paid for, by the wallet itself, and its timer runs out. -/
def trading : List Act :=
  issuing ++ .payInvoice [3] (paymentRequestOf 1 firstId) ::
    [.pass (Pause.length 50), .wake alarm, .offer firstId,
     .close]

/- The wallet after that. -/
def traded : Shared :=
  (stall.run? trading).getD stall

/- The invoice and the payment show their preimages. -/
theorem preimages_shown_of_trading :
    (stall.issued trading).Nodup ∧
      (stall.paid trading).Nodup ∧
      stall.run? trading = some traded ∧
      (∃ text,
        traded.ledger.invoiceStatus firstId =
            .success none (some text) ∧
          IsPreimage firstId text) ∧
      (∃ id text,
        traded.ledger.paymentStatus id =
            .success (some .zero) (some text) ∧
          IsPreimage id text) ∧
      traded.ledger.invoiceStatus "none" = .pending := by
  have hRun :
      (stall.issued trading).Nodup ∧
        (stall.paid trading).Nodup ∧
        stall.run? trading = some traded ∧
        firstId ∈ stall.issued issuing ∧
        firstId ∈ stall.issued trading ∧
        "none" ∉ stall.issued trading := by
    decide +kernel
  have hStocked :
      stall.run? issuing = some stocked ∧
        (stocked.ledger.payInvoice [3]
          (paymentRequestOf 1 firstId)).1.isSuccess = true := by
    decide +kernel
  rcases hRun with
    ⟨hIssued, hPaid, hRun, hFirst, hLast, hNever⟩
  rcases hStocked with ⟨hStock, hSuccess⟩
  have hSettled : stall.Settled trading firstId := by
    refine ⟨issuing ++ [.payInvoice [3] _,
      .pass (Pause.length 50)], .wake alarm, _, rfl, ?_, rfl⟩
    rw [issued, Run.outputs_append hStock]
    exact List.mem_append_left _ hFirst
  rcases preimages_shown _ _ trading traded hIssued hPaid hRun
    with ⟨hRecorded, hHash, _, hInvoice, hPayment, _, hPending, _⟩
  refine ⟨hIssued, hPaid, hRun, ?_, ?_, hPending "none" hNever⟩
  · rcases hRecorded firstId hLast with ⟨e, hFound⟩
    exact ⟨e.preimage,
      (hInvoice trading [] traded firstId e
        (List.append_nil _).symm hRun hFound).2 hSettled,
      hHash firstId e hFound⟩
  · cases hAnswer :
      (stocked.ledger.payInvoice [3]
        (paymentRequestOf 1 firstId)).1 with
    | failed message =>
        rw [hAnswer] at hSuccess
        cases hSuccess
    | success id fee preimage =>
        rcases hPayment issuing [3] _ _ stocked id fee preimage
            rfl hStock hAnswer with
          ⟨_, hStatus, text, rfl, hText⟩
        exact ⟨id, text, hStatus, hText⟩

end Shared

end Ledger

end LightningGateway
