import LightningGateway.Proofs.Ledger.Record

/-
  Invoices of a wallet in memory that are found by their payment
  requests.

  The text of a payment request holds the amount and only the
  beginning of the id, so several invoices may have one text.
  They have one amount then, and it does not matter which of
  them is found first, in whatever order the entries are kept.

  Key definitions include:
    * `Ledger.Tag`
    * `Ledger.tags`
    * `Ledger.IsPriced`

  Main results:
    * `Ledger.IsPriced.ownAmount?_eq_of_perm`
    * `Ledger.Shared.tags_of_step?`
    * `Ledger.Shared.Course.perm_tags`
    * `Ledger.Shared.own_invoices_found`
-/

namespace LightningGateway

open Payment Settings

namespace Ledger

------------------------------------------------------------
-- Tags
------------------------------------------------------------

/- By what an invoice is known, and what it costs. -/
structure Tag where
  id : String
  request : String
  amount : Int

/- The tag of an entry. -/
def Tag.ofEntry (p : String × InvoiceEntry) : Tag :=
  ⟨p.1, p.2.paymentRequest, p.2.amount.value⟩

/- The tag of an invoice, as it is issued. -/
def Issue.tag (i : Issue) : Tag :=
  ⟨i.id, i.request, i.amount⟩

/- The tags of all invoices on record. -/
def tags (l : Ledger) : List Tag :=
  l.invoices.map Tag.ofEntry

/- To settle an invoice leaves its tag as it is. -/
theorem tags_mark
    {l : Ledger}
    {id : String}
    {e : InvoiceEntry}
    (hFound : l.invoices.lookup id = some e) :
    (l.mark id e).tags = l.tags := by
  rcases exists_split_of_lookup hFound with
    ⟨before, after, hSplit, hFirst⟩
  simp only [tags, mark, hSplit, record_append_cons hFirst,
    List.map_append, List.map_cons]
  rfl

/- A recorded entry is new or was there before. -/
theorem mem_of_mem_record
    {α : Type}
    {id : String}
    {entry : α}
    {entries : List (String × α)}
    {p : String × α}
    (hMem : p ∈ record id entry entries) :
    p = (id, entry) ∨ p ∈ entries := by
  induction entries with
  | nil => exact .inl (List.mem_singleton.mp hMem)
  | cons first rest ih =>
      unfold record at hMem
      split at hMem
      · rcases List.mem_cons.mp hMem with hNew | hOld
        · exact .inl hNew
        · exact .inr (.tail first hOld)
      · rcases List.mem_cons.mp hMem with rfl | hLater
        · exact .inr (.head rest)
        · exact (ih hLater).imp_right (.tail first)

------------------------------------------------------------
-- Amounts of Own Invoices
------------------------------------------------------------

/- Invoices on record for one payment request have one amount. -/
def IsPriced (l : Ledger) : Prop :=
  ∀ p ∈ l.invoices, ∀ q ∈ l.invoices,
    p.2.paymentRequest = q.2.paymentRequest →
    p.2.amount = q.2.amount

/- Then any of them tells the amount that is found. -/
theorem IsPriced.ownAmount?_eq_some_iff
    {l : Ledger}
    (hPriced : l.IsPriced)
    {request : String}
    {a : Msat} :
    l.ownAmount? request = some a ↔
      ∃ p ∈ l.invoices,
        p.2.paymentRequest = request ∧ p.2.amount = a := by
  rw [ownAmount?, Option.map_eq_some_iff]
  constructor
  · rintro ⟨p, hFound, hAmount⟩
    have hRequest := List.find?_some hFound
    simp only [beq_iff_eq] at hRequest
    exact ⟨p, List.mem_of_find?_eq_some hFound, hRequest,
      hAmount⟩
  · rintro ⟨p, hMem, hRequest, rfl⟩
    cases hFound :
        l.invoices.find? (·.2.paymentRequest == request) with
    | none =>
        have hOther := List.find?_eq_none.mp hFound p hMem
        exact absurd (beq_iff_eq.mpr hRequest) hOther
    | some q =>
        have hSame := List.find?_some hFound
        simp only [beq_iff_eq] at hSame
        exact ⟨q, rfl,
          hPriced q (List.mem_of_find?_eq_some hFound) p hMem
            (hSame.trans hRequest.symm)⟩

/- So the order of the entries does not matter. -/
theorem IsPriced.ownAmount?_eq_of_perm
    {l : Ledger}
    (hPriced : l.IsPriced)
    {invoices : List (String × InvoiceEntry)}
    (hPerm : l.invoices.Perm invoices)
    (request : String) :
    ({ l with invoices := invoices }).ownAmount? request =
      l.ownAmount? request := by
  have hOther : IsPriced { l with invoices := invoices } :=
    fun p hFirst q hSecond =>
      hPriced p (hPerm.mem_iff.mpr hFirst) q
        (hPerm.mem_iff.mpr hSecond)
  apply Option.ext
  intro a
  rw [hOther.ownAmount?_eq_some_iff,
    hPriced.ownAmount?_eq_some_iff]
  simp only [hPerm.mem_iff]

/- An invoice that is created is issued, under its request. -/
theorem exists_issue_of_createInvoice
    {l : Ledger}
    {random : List UInt8}
    {r : InvoiceRequest}
    {id request : String}
    (hCreated :
      (l.createInvoice random r).1 = .success id request) :
    ∃ i, (Act.createInvoice random r).issue? = some i ∧
      i.request = request ∧
      i.amount = (r.amountSat.toNat : Int) * 1000 := by
  unfold createInvoice at hCreated
  cases hAmount : r.amount with
  | error e =>
      rw [hAmount] at hCreated
      cases hCreated
  | ok amount =>
      rw [hAmount] at hCreated
      cases hCreated
      exact ⟨_, Act.issue?_of_ok random hAmount, rfl, rfl⟩

namespace Shared

------------------------------------------------------------
-- Tags along a Course
------------------------------------------------------------

/- The first half of a settlement leaves all tags as they are. -/
theorem tags_mark
    (s : Shared)
    (id : String) :
    (s.mark id).ledger.tags = s.ledger.tags := by
  unfold mark
  cases hFound : s.ledger.invoices.lookup id with
  | none => rfl
  | some e =>
      dsimp only
      split
      · rfl
      · exact Ledger.tags_mark hFound

/-
  An act records the invoice that it issues, under its tag, or
  leaves all tags as they are.
-/
theorem tags_of_step?
    {m t : Shared}
    {a : Act}
    (hStep : m.step? a = some t) :
    (a.issue? = none ∧ t.ledger.tags = m.ledger.tags) ∨
      ∃ i e, a.issue? = some i ∧
        Tag.ofEntry (i.id, e) = i.tag ∧
        t.ledger.invoices = record i.id e m.ledger.invoices := by
  have hUse {o : Relay.RelayQueue.Operation}
      (hSome : m.use? o = some t) :
      t.ledger.tags = m.ledger.tags := by
    rcases Option.map_eq_some_iff.mp hSome with ⟨q, _, rfl⟩
    rfl
  cases a with
  | createInvoice random r =>
      cases hStep
      unfold Ledger.createInvoice
      cases hAmount : r.amount with
      | error e => exact .inl ⟨Act.issue?_of_error random hAmount, rfl⟩
      | ok amount =>
          refine .inr ⟨_, _, Act.issue?_of_ok random hAmount, ?_,
            rfl⟩
          rw [Tag.ofEntry, Wallet.amount_eq_ok_iff.mp hAmount]
          rfl
  | payInvoice random request =>
      cases hStep
      refine .inl ⟨rfl, ?_⟩
      rw [tags, (payInvoice_frame _ _ _).2, tags]
  | mark id =>
      cases hStep
      exact .inl ⟨rfl, m.tags_mark id⟩
  | wake timer =>
      rcases Option.ite_none_right_eq_some.mp hStep with
        ⟨_, hSome⟩
      cases hSome
      exact .inl ⟨rfl, (m.withoutTimer timer).tags_mark timer.id⟩
  | offer id =>
      rcases Option.ite_none_right_eq_some.mp hStep with
        ⟨_, hSome⟩
      cases hSome
      refine .inl ⟨rfl, ?_⟩
      simp only [Ledger.offer]
      split <;> rfl
  | takeStream => exact .inl ⟨rfl, hUse hStep⟩
  | receive => exact .inl ⟨rfl, hUse hStep⟩
  | dropStream => exact .inl ⟨rfl, hUse hStep⟩
  | close =>
      cases hStep
      exact .inl ⟨rfl, rfl⟩
  | pass ms =>
      cases hStep
      exact .inl ⟨rfl, rfl⟩

variable {s : FakeSettings}
variable {f : FundingSettings}
variable {acts : List Act}
variable {t : Shared}

/- Whatever is on record was issued. -/
theorem Course.exists_issue
    (hCourse : Course s f acts t)
    {x : Tag}
    (hMem : x ∈ t.ledger.tags) :
    ∃ i ∈ issues acts, i.tag = x := by
  induction hCourse with
  | start => cases hMem
  | @act past m t a hPast hStep ih =>
      rw [issues_snoc]
      rcases tags_of_step? hStep with
        ⟨hIssue, hSame⟩ | ⟨i, e, hIssue, hTag, hRecord⟩
      · rw [hSame] at hMem
        rw [hIssue, Option.toList_none, List.append_nil]
        exact ih hMem
      · rw [tags, hRecord] at hMem
        rcases List.mem_map.mp hMem with ⟨p, hIn, rfl⟩
        rcases mem_of_mem_record hIn with rfl | hOld
        · refine ⟨i, List.mem_append_right _ ?_, hTag.symm⟩
          rw [hIssue]
          exact .head []
        · rcases ih (List.mem_map_of_mem hOld) with
            ⟨j, hIssued, hSame⟩
          exact ⟨j, List.mem_append_left _ hIssued, hSame⟩
  | rearrange hPast hInvoices _ ih =>
      exact ih ((hInvoices.map Tag.ofEntry).mem_iff.mpr hMem)
  | queue hPast q ih => exact ih hMem

/- If no id is issued twice, whatever was issued is on record. -/
theorem Course.perm_tags
    (hCourse : Course s f acts t)
    (hIssued : ((issues acts).map Issue.id).Nodup) :
    t.ledger.tags.Perm ((issues acts).map Issue.tag) := by
  induction hCourse with
  | start => exact List.Perm.refl []
  | @act past m t a hPast hStep ih =>
      rw [issues_snoc, List.map_append, List.nodup_append]
        at hIssued
      have hBefore := ih hIssued.1
      rw [issues_snoc, List.map_append]
      rcases tags_of_step? hStep with
        ⟨hIssue, hSame⟩ | ⟨i, e, hIssue, hTag, hRecord⟩
      · rw [hSame, hIssue, Option.toList_none, List.map_nil,
          List.append_nil]
        exact hBefore
      · have hFresh :
            i.id ∉ m.ledger.invoices.map Prod.fst := by
          have hIds := hBefore.map Tag.id
          rw [tags, List.map_map, List.map_map] at hIds
          intro hMem
          rw [hIssue] at hIssued
          exact hIssued.2.2 i.id (hIds.mem_iff.mp hMem) i.id
            (.head []) rfl
        rw [tags, hRecord, record_of_fresh hFresh,
          List.map_append, List.map_singleton, hTag, hIssue]
        exact hBefore.append_right _
  | rearrange hPast hInvoices _ ih =>
      exact (hInvoices.map Tag.ofEntry).symm.trans (ih hIssued)
  | queue hPast q ih => exact ih hIssued

/- The text of a payment request tells one amount. -/
theorem Course.isPriced
    (hCourse : Course s f acts t) :
    t.ledger.IsPriced := by
  intro p hFirst q hSecond hRequest
  rcases hCourse.exists_issue (List.mem_map_of_mem hFirst) with
    ⟨i, _, hTag⟩
  rcases hCourse.exists_issue (List.mem_map_of_mem hSecond) with
    ⟨j, _, hOther⟩
  have hSame : i.request = j.request :=
    (congrArg Tag.request hTag).trans
      (hRequest.trans (congrArg Tag.request hOther).symm)
  apply Msat.ext_value
  exact (congrArg Tag.amount hTag).symm.trans
    ((amount_eq_of_request hSame).trans
      (congrArg Tag.amount hOther))

/- An invoice that was issued is found by its request. -/
theorem Course.exists_ownAmount?
    (hCourse : Course s f acts t)
    (hIssued : ((issues acts).map Issue.id).Nodup)
    {i : Issue}
    (hMem : i ∈ issues acts) :
    ∃ a, t.ledger.ownAmount? i.request = some a ∧
      a.value = i.amount := by
  have hTag : i.tag ∈ t.ledger.tags :=
    (hCourse.perm_tags hIssued).mem_iff.mpr
      (List.mem_map_of_mem hMem)
  rcases List.mem_map.mp hTag with ⟨p, hEntry, hSame⟩
  refine ⟨p.2.amount, ?_, congrArg Tag.amount hSame⟩
  exact hCourse.isPriced.ownAmount?_eq_some_iff.mpr
    ⟨p, hEntry, congrArg Tag.request hSame, rfl⟩

/-
  In every course of a wallet, whether ids begin alike or not:
  invoices on record for one payment request have one amount, so
  that a payment request leads to one amount in whatever order
  the entries are kept.

  If no id was issued twice, the payment request of every
  invoice that was ever created leads to the amount that it was
  created for.
-/
theorem own_invoices_found
    (hCourse : Course s f acts t) :
    (∀ p ∈ t.ledger.invoices, ∀ q ∈ t.ledger.invoices,
      p.2.paymentRequest = q.2.paymentRequest →
      p.2.amount = q.2.amount) ∧
    (∀ invoices, t.ledger.invoices.Perm invoices →
      ∀ request,
        ({ t.ledger with invoices := invoices }).ownAmount?
            request =
          t.ledger.ownAmount? request) ∧
    (((issues acts).map Issue.id).Nodup →
      ∀ {past later : List Act} {m : Shared}
          {random : List UInt8} {r : InvoiceRequest}
          {id request : String},
        acts = past ++ .createInvoice random r :: later →
        Course s f past m →
        (m.ledger.createInvoice random r).1 =
          .success id request →
        ∃ a, t.ledger.ownAmount? request = some a ∧
          a.value = (r.amountSat.toNat : Int) * 1000) := by
  refine ⟨hCourse.isPriced,
    fun _ => hCourse.isPriced.ownAmount?_eq_of_perm, ?_⟩
  intro hIssued past later m random r id request hSplit _ hCreated
  rcases exists_issue_of_createInvoice hCreated with
    ⟨i, hIssue, rfl, hAmount⟩
  have hMem : i ∈ issues acts := by
    refine List.mem_filterMap.mpr ⟨_, ?_, hIssue⟩
    rw [hSplit]
    exact List.mem_append_right past (.head later)
  rcases hCourse.exists_ownAmount? hIssued hMem with
    ⟨a, hFound, hValue⟩
  exact ⟨a, hFound, hValue.trans hAmount⟩

/- Two invoices are created, and the first one is settled. -/
def openingDay : List Act :=
  [.createInvoice [1] (.ofSat 1), .createInvoice [2] (.ofSat 2),
   .mark firstId]

/- The wallet after that. -/
def opened : Shared :=
  (narrow.run? openingDay).getD narrow

/- The same wallet with its invoices the other way round. -/
def turned : Shared :=
  { opened with
    ledger :=
      { opened.ledger with
        invoices := opened.ledger.invoices.reverse } }

/- The second invoice is found for two satoshis. -/
theorem own_invoices_found_of_openingDay :
    ((issues openingDay).map Issue.id).Nodup ∧
      Course ⟨none⟩ ⟨.fake, "agent", 5, 1⟩ openingDay turned ∧
      ∃ a,
        turned.ledger.ownAmount? (paymentRequestOf 2 secondId) =
          some a ∧
        a.value = 2000 := by
  have hRun :
      ((issues openingDay).map Issue.id).Nodup ∧
        narrow.run? openingDay = some opened := by
    decide +kernel
  have hCourse :
      Course ⟨none⟩ ⟨.fake, "agent", 5, 1⟩ openingDay turned :=
    .rearrange (course_of_run hRun.2) (List.reverse_perm _).symm
      (List.Perm.refl _)
  have hPast :
      Course ⟨none⟩ ⟨.fake, "agent", 5, 1⟩
        [.createInvoice [1] (.ofSat 1)] _ :=
    .act .start rfl
  have hSplit :
      openingDay =
        [.createInvoice [1] (.ofSat 1)] ++
          .createInvoice [2] (.ofSat 2) :: [.mark firstId] :=
    rfl
  refine ⟨hRun.1, hCourse, ?_⟩
  rcases own_invoices_found hCourse with ⟨_, _, hFound⟩
  exact hFound hRun.1 hSplit hPast rfl

end Shared

end Ledger

end LightningGateway
