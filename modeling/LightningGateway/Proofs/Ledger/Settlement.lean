import LightningGateway.Ledger
import LightningGateway.Proofs.Relay.History
import Mathlib.Data.List.Nodup

/-
  What becomes of settled invoices in a wallet in memory.

  The wallet is used by many at once: invoices are issued, they
  are settled by hand and by timers, and somebody reads the ids
  of those that were paid.  To settle an invoice takes two
  steps, between which anything else may happen: it is marked
  first, and its id is offered to the reader after that.

  An id that is settled is in flight between the two steps, or
  the queue has accepted it, or it was turned away; and it is so
  once only.

  Key definitions include:
    * `Ledger.Act`
    * `Ledger.Shared`
    * `Ledger.Shared.step?`
    * `Ledger.Shared.Books`

  Main results:
    * `Ledger.Shared.exists_run_of_settle`
    * `Ledger.Shared.exists_run_of_advance`
    * `Ledger.Shared.books_of_run`
    * `Ledger.Shared.settlements_accounted`
-/

namespace LightningGateway

open Payment Relay Settings

namespace Ledger

------------------------------------------------------------
-- Entries
------------------------------------------------------------

section Entries

variable {α : Type} {id : String}

/- An entry under a new id comes last. -/
theorem record_of_fresh
    {entries : List (String × α)}
    (hFresh : id ∉ entries.map Prod.fst)
    (entry : α) :
    record id entry entries = entries ++ [(id, entry)] := by
  induction entries with
  | nil => rfl
  | cons first rest ih =>
      rw [List.map_cons, List.mem_cons, not_or] at hFresh
      rw [record, if_neg (Ne.symm hFresh.1), ih hFresh.2]
      rfl

/- An entry takes the place of the first one under its id. -/
theorem record_append_cons
    {before : List (String × α)}
    (hFirst : ∀ p ∈ before, id ≠ p.1)
    (old entry : α)
    (after : List (String × α)) :
    record id entry (before ++ (id, old) :: after) =
      before ++ (id, entry) :: after := by
  induction before with
  | nil => simp [record]
  | cons first rest ih =>
      have hOther : first.1 ≠ id :=
        Ne.symm (hFirst first (.head rest))
      rw [List.cons_append, record, if_neg hOther,
        ih fun p hMem => hFirst p (.tail first hMem)]
      rfl

/- An entry that is found has no other of its id before it. -/
theorem exists_split_of_lookup
    {entries : List (String × α)}
    {entry : α}
    (hFound : entries.lookup id = some entry) :
    ∃ before after,
      entries = before ++ (id, entry) :: after ∧
        ∀ p ∈ before, id ≠ p.1 := by
  rcases List.lookup_eq_some_iff.mp hFound with
    ⟨before, after, hSplit, hFirst⟩
  refine ⟨before, after, hSplit, ?_⟩
  intro p hMem
  exact ne_of_apply_ne (· == p.1) (by simpa using hFirst p hMem)

end Entries

------------------------------------------------------------
-- Settled Invoices
------------------------------------------------------------

/- The ids of the invoices that are settled. -/
def settledIds (l : Ledger) : List String :=
  (l.invoices.filter (·.2.settled)).map Prod.fst

/-
  A state shows that the invoice of an id is paid: it has a
  preimage, and the id is the hash of that.
-/
def IsProof
    (id : String)
    (s : SettlementStatus) : Prop :=
  ∃ preimage bytes,
    s = .success none (some preimage) ∧
      Text.Hex.decode? preimage = some bytes ∧
      idOf bytes = id

/- To mark an invoice adds its id to the settled ones. -/
theorem settledIds_mark
    {l : Ledger}
    {id : String}
    {e : InvoiceEntry}
    (hFound : l.invoices.lookup id = some e)
    (hOpen : e.settled = false) :
    (l.mark id e).settledIds.Perm (id :: l.settledIds) := by
  rcases exists_split_of_lookup hFound with
    ⟨before, after, hSplit, hFirst⟩
  simp only [settledIds, mark, hSplit,
    record_append_cons hFirst, List.filter_append,
    List.filter_cons, hOpen, if_true, if_neg Bool.false_ne_true,
    List.map_append, List.map_cons]
  exact List.perm_middle

/- To mark an invoice leaves all ids as they are. -/
theorem keys_mark
    {l : Ledger}
    {id : String}
    {e : InvoiceEntry}
    (hFound : l.invoices.lookup id = some e) :
    (l.mark id e).invoices.map Prod.fst =
      l.invoices.map Prod.fst := by
  rcases exists_split_of_lookup hFound with
    ⟨before, after, hSplit, hFirst⟩
  simp only [mark, hSplit, record_append_cons hFirst,
    List.map_append, List.map_cons]

/- If every id is there once, the settled ones are found. -/
theorem mem_settledIds_iff
    {l : Ledger}
    (hKeys : (l.invoices.map Prod.fst).Nodup)
    {id : String} :
    id ∈ l.settledIds ↔
      ∃ e, l.invoices.lookup id = some e ∧ e.settled = true := by
  constructor
  · intro hMem
    rcases List.mem_map.mp hMem with ⟨⟨k, e⟩, hEntry, rfl⟩
    rcases List.mem_filter.mp hEntry with ⟨hRecorded, hSettled⟩
    refine ⟨e, ?_, hSettled⟩
    rcases List.append_of_mem hRecorded with
      ⟨before, after, hSplit⟩
    refine List.lookup_eq_some_iff.mpr
      ⟨before, after, hSplit, ?_⟩
    rw [hSplit, List.map_append, List.nodup_append] at hKeys
    intro p hBefore
    have hOther : p.1 ≠ k :=
      hKeys.2.2 p.1 (List.mem_map_of_mem hBefore) k (by simp)
    simpa using Ne.symm hOther
  · rintro ⟨e, hFound, hSettled⟩
    rcases exists_split_of_lookup hFound with
      ⟨before, after, hSplit, _⟩
    refine List.mem_map.mpr ⟨(id, e), ?_, rfl⟩
    exact List.mem_filter.mpr ⟨by simp [hSplit], hSettled⟩

/- An invoice that is recorded can be settled at any time. -/
theorem exists_settle
    {l : Ledger}
    {id : String}
    (hRecorded : id ∈ l.invoices.map Prod.fst) :
    ∃ m, l.settle id = .ok m := by
  rcases List.mem_map.mp hRecorded with ⟨p, hMem, rfl⟩
  unfold settle
  cases hFound : l.invoices.lookup p.1 with
  | none =>
      have hOther := List.lookup_eq_none_iff.mp hFound p hMem
      simp at hOther
  | some e =>
      by_cases hSettled : e.settled = true
      · exact ⟨l, if_pos hSettled⟩
      · exact ⟨_, if_neg hSettled⟩

/- An invoice that is settled is not settled again. -/
theorem settle_of_settled
    {l : Ledger}
    (hKeys : (l.invoices.map Prod.fst).Nodup)
    {id : String}
    (hSettled : id ∈ l.settledIds) :
    l.settle id = .ok l := by
  rcases (mem_settledIds_iff hKeys).mp hSettled with
    ⟨e, hFound, hPaid⟩
  simp only [settle, hFound, if_pos hPaid]

/- The state of an invoice is a success if it is settled. -/
theorem invoiceStatus_ne_pending_iff
    {l : Ledger}
    (hKeys : (l.invoices.map Prod.fst).Nodup)
    {id : String} :
    l.invoiceStatus id ≠ .pending ↔ id ∈ l.settledIds := by
  rw [mem_settledIds_iff hKeys, invoiceStatus]
  cases hFound : l.invoices.lookup id with
  | none => simp
  | some e => cases hSettled : e.settled <;> simp [hSettled]

------------------------------------------------------------
-- Many at Once
------------------------------------------------------------

/- What may happen to a wallet in memory. -/
inductive Act where
  | createInvoice (random : List UInt8) (r : InvoiceRequest)
  | payInvoice (random : List UInt8) (paymentRequest : String)
  -- The first half of a settlement, by whoever settles.
  | mark (id : String)
  -- The first half of a settlement by a timer that has run out.
  | wake (t : Timer)
  -- The second half of a settlement.
  | offer (id : String)
  -- Somebody uses the reading end.
  | takeStream
  | receive
  | dropStream
  -- The wallet is closed.
  | close
  -- Time passes.
  | pass (ms : Nat)
  deriving DecidableEq

/- What an act does with the queue. -/
def Act.operations : Act → List RelayQueue.Operation
  | .offer id => [.push id]
  | .takeStream => [.takeStream]
  | .receive => [.receive]
  | .dropStream => [.dropStream]
  | .close => [.close]
  | _ => []

/- A wallet in memory in the midst of settlements. -/
structure Shared where
  ledger : Ledger
  -- Marked as settled, and not offered to the reader yet.
  marked : List String
  deriving DecidableEq

namespace Shared

/- A new wallet, with no settlement under way. -/
def start
    (s : FakeSettings)
    (f : FundingSettings) : Shared :=
  ⟨.build s f, []⟩

/- The first half of a settlement. -/
def mark
    (s : Shared)
    (id : String) : Shared :=
  match s.ledger.invoices.lookup id with
  | none => s
  | some e =>
      if e.settled then s
      else ⟨s.ledger.mark id e, s.marked ++ [id]⟩

/- Use the queue, if that is possible. -/
def use?
    (s : Shared)
    (o : RelayQueue.Operation) : Option Shared :=
  (s.ledger.relay.step? o).map fun q =>
    { s with ledger := { s.ledger with relay := q } }

/- The wallet without a timer. -/
def withoutTimer
    (s : Shared)
    (t : Timer) : Shared :=
  { s with
    ledger :=
      { s.ledger with timers := s.ledger.timers.erase t } }

/- The state after an act, if it is possible. -/
def step?
    (s : Shared) : Act → Option Shared
  | .createInvoice random r =>
      some { s with
        ledger := (s.ledger.createInvoice random r).2 }
  | .payInvoice random request =>
      some { s with
        ledger := (s.ledger.payInvoice random request).2 }
  | .mark id => some (s.mark id)
  | .wake t =>
      if t ∈ s.ledger.timers ∧ t.due ≤ s.ledger.now then
        some ((s.withoutTimer t).mark t.id)
      else none
  | .offer id =>
      if id ∈ s.marked then
        some ⟨s.ledger.offer id, s.marked.erase id⟩
      else none
  | .takeStream => s.use? .takeStream
  | .receive => s.use? .receive
  | .dropStream => s.use? .dropStream
  | .close => some { s with ledger := s.ledger.close }
  | .pass ms =>
      some { s with
        ledger := { s.ledger with now := s.ledger.now + ms } }

/- The state after some acts, if they are possible. -/
def run?
    (s : Shared)
    (acts : List Act) : Option Shared :=
  acts.foldlM step? s

/- The id of the invoice that an act issues. -/
def issuedOf
    (s : Shared) : Act → List String
  | .createInvoice random r =>
      (s.ledger.createInvoice random r).1.checkingId?.toList
  | _ => []

/- The ids of the invoices that are issued. -/
def issued
    (s : Shared)
    (acts : List Act) : List String :=
  Run.outputs step? issuedOf s acts

/- What comes of the use of the queue. -/
def entries
    (s : Shared)
    (acts : List Act) : List RelayQueue.Entry :=
  s.ledger.relay.log (acts.flatMap Act.operations)

/- The ids that the stream of paid invoices yields. -/
def yielded
    (s : Shared)
    (acts : List Act) : List String :=
  RelayQueue.received (s.entries acts)

/- The ids for which the queue had no room or no reader. -/
def turnedAway
    (s : Shared)
    (acts : List Act) : List String :=
  RelayQueue.rejected (s.entries acts)

------------------------------------------------------------
-- The Queue Alone
------------------------------------------------------------

/- To offer an id is to push it. -/
theorem relay_offer
    (l : Ledger)
    (id : String) :
    l.relay.step? (.push id) = some (l.offer id).relay := by
  unfold RelayQueue.step? RelayQueue.perform? Ledger.offer
  cases hPush : l.relay.push id with
  | ok q => simp only [hPush, Option.map_some]
  | error e => simp only [hPush, Option.map_some]

/- To use the queue moves it alone. -/
theorem relay_of_use?
    {s t : Shared}
    {o : RelayQueue.Operation}
    (hUse : s.use? o = some t) :
    s.ledger.relay.run? [o] = some t.ledger.relay := by
  rcases Option.map_eq_some_iff.mp hUse with ⟨q, hStep, rfl⟩
  exact Run.run_cons_eq_some_iff.mpr ⟨q, hStep, rfl⟩

/- The first half of a settlement leaves the queue alone. -/
theorem relay_mark
    (s : Shared)
    (id : String) :
    (s.mark id).ledger.relay = s.ledger.relay := by
  unfold mark
  split
  · rfl
  · split <;> rfl

/- A new invoice leaves the queue alone. -/
theorem relay_createInvoice
    (l : Ledger)
    (random : List UInt8)
    (r : InvoiceRequest) :
    (l.createInvoice random r).2.relay = l.relay := by
  unfold createInvoice
  split <;> rfl

/- A payment leaves the queue and the invoices alone. -/
theorem payInvoice_frame
    (l : Ledger)
    (random : List UInt8)
    (request : String) :
    (l.payInvoice random request).2.relay = l.relay ∧
      (l.payInvoice random request).2.invoices =
        l.invoices := by
  unfold payInvoice
  split <;> exact ⟨rfl, rfl⟩

/- An act moves the queue by its operations. -/
theorem relay_of_step?
    {s t : Shared}
    {a : Act}
    (hStep : s.step? a = some t) :
    s.ledger.relay.run? a.operations = some t.ledger.relay := by
  cases a with
  | createInvoice random r =>
      cases hStep
      exact congrArg some (relay_createInvoice _ _ _).symm
  | payInvoice random request =>
      cases hStep
      exact congrArg some (payInvoice_frame _ _ _).1.symm
  | mark id =>
      cases hStep
      exact congrArg some (s.relay_mark id).symm
  | wake t =>
      rcases Option.ite_none_right_eq_some.mp hStep with
        ⟨_, hSome⟩
      cases hSome
      exact congrArg some
        ((s.withoutTimer t).relay_mark t.id).symm
  | offer id =>
      rcases Option.ite_none_right_eq_some.mp hStep with
        ⟨_, hSome⟩
      cases hSome
      exact Run.run_cons_eq_some_iff.mpr
        ⟨_, relay_offer s.ledger id, rfl⟩
  | takeStream => exact relay_of_use? hStep
  | receive => exact relay_of_use? hStep
  | dropStream => exact relay_of_use? hStep
  | close =>
      cases hStep
      rfl
  | pass ms =>
      cases hStep
      rfl

/- In a run of acts, the queue runs by their operations. -/
theorem relay_of_run
    {s t : Shared}
    {acts : List Act}
    (hRun : s.run? acts = some t) :
    s.ledger.relay.run? (acts.flatMap Act.operations) =
      some t.ledger.relay := by
  induction acts generalizing s with
  | nil =>
      cases hRun
      rfl
  | cons a rest ih =>
      rcases Run.run_cons_eq_some_iff.mp hRun with
        ⟨m, hFirst, hRest⟩
      rw [List.flatMap_cons]
      exact Run.run_append (relay_of_step? hFirst) (ih hRest)

/- What more acts do with the queue is logged last. -/
theorem entries_append
    {s m : Shared}
    {past : List Act}
    (hPast : s.run? past = some m)
    (rest : List Act) :
    s.entries (past ++ rest) =
      s.entries past ++ m.entries rest := by
  rw [entries, List.flatMap_append, RelayQueue.log,
    Run.outputs_append (relay_of_run hPast)]
  rfl

/- What more acts yield is yielded last. -/
theorem yielded_append
    {s m : Shared}
    {past : List Act}
    (hPast : s.run? past = some m)
    (rest : List Act) :
    s.yielded (past ++ rest) =
      s.yielded past ++ m.yielded rest := by
  rw [yielded, entries_append hPast, RelayQueue.received_append]
  rfl

------------------------------------------------------------
-- Books
------------------------------------------------------------

/-
  How a wallet agrees with the ids that were issued and with
  what came of the queue.  Every id that is settled is in
  flight, or was accepted, or was turned away.
-/
structure Books
    (issued : List String)
    (entries : List RelayQueue.Entry)
    (s : Shared) : Prop where
  recorded : s.ledger.invoices.map Prod.fst = issued
  settled :
    s.ledger.settledIds.Perm
      (s.marked ++ (RelayQueue.accepted entries ++
        RelayQueue.rejected entries))
  proofs :
    ∀ p ∈ s.ledger.invoices, ∃ bytes,
      p.2.preimage = Text.Hex.encode bytes ∧ idOf bytes = p.1

namespace Books

variable {issued : List String}
variable {entries : List RelayQueue.Entry}
variable {s t : Shared}

/- A new wallet agrees with nothing at all. -/
theorem of_start
    (s : FakeSettings)
    (f : FundingSettings) :
    Books [] [] (start s f) where
  recorded := rfl
  settled := List.Perm.refl []
  proofs := fun _ hMem => absurd hMem List.not_mem_nil

/- What does not concern settlements leaves the books alone. -/
theorem snoc_quiet
    (hBooks : Books issued entries s)
    {more : List RelayQueue.Entry}
    (hInvoices : t.ledger.invoices = s.ledger.invoices)
    (hMarked : t.marked = s.marked)
    (hAccepted : RelayQueue.accepted more = [])
    (hRejected : RelayQueue.rejected more = []) :
    Books issued (entries ++ more) t := by
  constructor
  · rw [hInvoices]
    exact hBooks.recorded
  · rw [settledIds, hInvoices, hMarked,
      RelayQueue.accepted_append, RelayQueue.rejected_append,
      hAccepted, hRejected, List.append_nil, List.append_nil]
    exact hBooks.settled
  · rw [hInvoices]
    exact hBooks.proofs

/- An id that is marked is in flight. -/
theorem mark
    (hBooks : Books issued entries s)
    (id : String) :
    Books issued entries (s.mark id) := by
  unfold Shared.mark
  cases hFound : s.ledger.invoices.lookup id with
  | none => exact hBooks
  | some e =>
      by_cases hSettled : e.settled = true
      · simp only [if_pos hSettled]
        exact hBooks
      · simp only [if_neg hSettled]
        have hOpen := eq_false_of_ne_true hSettled
        constructor
        · exact (keys_mark hFound).trans hBooks.recorded
        · refine (settledIds_mark hFound hOpen).trans ?_
          rw [List.append_assoc, List.singleton_append]
          exact (hBooks.settled.cons id).trans
            List.perm_middle.symm
        · rcases exists_split_of_lookup hFound with
            ⟨before, after, hSplit, hFirst⟩
          have hProofs := hBooks.proofs
          rw [hSplit] at hProofs
          simp only [Ledger.mark, hSplit,
            record_append_cons hFirst]
          intro p hMem
          rcases List.mem_append.mp hMem with hBefore | hRest
          · exact hProofs p (List.mem_append_left _ hBefore)
          · rcases List.mem_cons.mp hRest with rfl | hAfter
            · exact hProofs (id, e) (by simp)
            · exact hProofs p (by simp [hAfter])

/- An id that is offered is accepted or turned away. -/
theorem offer
    (hBooks : Books issued entries s)
    {id : String}
    (hMarked : id ∈ s.marked) :
    Books issued
      (entries ++ s.ledger.relay.log [.push id])
      ⟨s.ledger.offer id, s.marked.erase id⟩ := by
  have hInvoices :
      (s.ledger.offer id).invoices = s.ledger.invoices := by
    unfold Ledger.offer
    split <;> rfl
  have hFlight :
      s.ledger.settledIds.Perm
        (id :: (s.marked.erase id ++
          (RelayQueue.accepted entries ++
            RelayQueue.rejected entries))) :=
    hBooks.settled.trans
      ((List.perm_cons_erase hMarked).append_right _)
  constructor
  · rw [hInvoices]
    exact hBooks.recorded
  · rw [settledIds, hInvoices, ← settledIds,
      RelayQueue.accepted_append, RelayQueue.rejected_append]
    refine hFlight.trans ?_
    rcases RelayQueue.log_push s.ledger.relay id with
      ⟨hAccepted, hRejected⟩ | ⟨hAccepted, hRejected⟩
    · rw [hAccepted, hRejected, List.append_nil,
        List.append_assoc, List.singleton_append]
      exact ((List.perm_middle.append_left _).trans
        List.perm_middle).symm
    · rw [hAccepted, hRejected, List.append_nil,
        ← List.append_assoc _ _ [id],
        ← List.append_assoc _ _ [id]]
      exact (List.perm_append_singleton id _).symm
  · rw [hInvoices]
    exact hBooks.proofs

/- A new invoice is open, and its id comes last. -/
theorem createInvoice
    (hBooks : Books issued entries s)
    (random : List UInt8)
    (r : InvoiceRequest)
    (hFresh :
      (issued ++ s.issuedOf (.createInvoice random r)).Nodup) :
    Books (issued ++ s.issuedOf (.createInvoice random r)) entries
      { s with ledger := (s.ledger.createInvoice random r).2 } := by
  unfold issuedOf Ledger.createInvoice at *
  cases hAmount : r.amount with
  | error e =>
      simp only [hAmount, InvoiceAnswer.ofError,
        InvoiceAnswer.checkingId?, Option.toList_none,
        List.append_nil]
      exact hBooks
  | ok amount =>
      simp only [hAmount, InvoiceAnswer.checkingId?,
        Option.toList_some] at hFresh ⊢
      have hNew :
          idOf (Crypto.Sha256.hash random) ∉
            s.ledger.invoices.map Prod.fst := by
        rw [hBooks.recorded]
        intro hOld
        exact (List.nodup_append.mp hFresh).2.2 _ hOld _
          (.head []) rfl
      rw [record_of_fresh hNew]
      constructor
      · rw [List.map_append, hBooks.recorded]
        rfl
      · have hSettled := hBooks.settled
        simp only [settledIds, List.filter_append,
          List.map_append] at hSettled ⊢
        simpa using hSettled
      · intro p hMem
        rcases List.mem_append.mp hMem with hOld | hLast
        · exact hBooks.proofs p hOld
        · rw [List.mem_singleton.mp hLast]
          exact ⟨_, rfl, rfl⟩

/- The use of the reading end leaves the books alone. -/
theorem use
    (hBooks : Books issued entries s)
    {o : RelayQueue.Operation}
    (hOther : ∀ hash, o ≠ .push hash)
    (hUse : s.use? o = some t) :
    Books issued (entries ++ s.ledger.relay.log [o]) t := by
  rcases Option.map_eq_some_iff.mp hUse with ⟨q, _, rfl⟩
  rcases RelayQueue.log_of_ne_push s.ledger.relay hOther with
    ⟨hAccepted, hRejected⟩
  exact hBooks.snoc_quiet rfl rfl hAccepted hRejected

/- An act that issues nothing leaves the ids as they are. -/
theorem snoc_issueless
    (hBooks : Books issued entries s)
    {a : Act}
    (hOther : ∀ random r, a ≠ .createInvoice random r)
    (hStep : s.step? a = some t) :
    Books issued (entries ++ s.entries [a]) t := by
  cases a with
  | createInvoice random r => exact absurd rfl (hOther random r)
  | payInvoice random request =>
      cases hStep
      exact hBooks.snoc_quiet (payInvoice_frame _ _ _).2 rfl
        rfl rfl
  | mark id =>
      cases hStep
      exact (hBooks.mark id).snoc_quiet rfl rfl rfl rfl
  | wake timer =>
      rcases Option.ite_none_right_eq_some.mp hStep with
        ⟨_, hSome⟩
      cases hSome
      have hUnarmed :
          Books issued (entries ++ s.entries [.wake timer])
            (s.withoutTimer timer) :=
        hBooks.snoc_quiet rfl rfl rfl rfl
      exact hUnarmed.mark timer.id
  | offer id =>
      rcases Option.ite_none_right_eq_some.mp hStep with
        ⟨hMarked, hSome⟩
      cases hSome
      exact hBooks.offer hMarked
  | takeStream => exact hBooks.use (by simp) hStep
  | receive => exact hBooks.use (by simp) hStep
  | dropStream => exact hBooks.use (by simp) hStep
  | close =>
      cases hStep
      rcases RelayQueue.log_of_ne_push s.ledger.relay
          (o := .close) (by simp) with
        ⟨hAccepted, hRejected⟩
      exact hBooks.snoc_quiet rfl rfl hAccepted hRejected
  | pass ms =>
      cases hStep
      exact hBooks.snoc_quiet rfl rfl rfl rfl

/- Every act leaves a wallet and its books in agreement. -/
theorem snoc
    (hBooks : Books issued entries s)
    {a : Act}
    (hFresh : (issued ++ s.issuedOf a).Nodup)
    (hStep : s.step? a = some t) :
    Books (issued ++ s.issuedOf a) (entries ++ s.entries [a])
      t := by
  cases a with
  | createInvoice random r =>
      cases hStep
      exact (hBooks.createInvoice random r hFresh).snoc_quiet
        rfl rfl rfl rfl
  | _ =>
      have hNone := hBooks.snoc_issueless (by simp) hStep
      rw [← List.append_nil issued] at hNone
      exact hNone

/- An id is in one place only. -/
theorem nodup
    (hBooks : Books issued entries s)
    (hFresh : issued.Nodup) :
    (s.marked ++ (RelayQueue.accepted entries ++
      RelayQueue.rejected entries)).Nodup := by
  refine hBooks.settled.nodup_iff.mp ?_
  rw [← hBooks.recorded] at hFresh
  exact hFresh.sublist (List.filter_sublist.map Prod.fst)

/- A settled invoice has a proof in its state. -/
theorem isProof
    (hBooks : Books issued entries s)
    (hFresh : issued.Nodup)
    {id : String}
    (hSettled : id ∈ s.ledger.settledIds) :
    IsProof id (s.ledger.invoiceStatus id) := by
  rw [← hBooks.recorded] at hFresh
  rcases (mem_settledIds_iff hFresh).mp hSettled with
    ⟨e, hFound, hPaid⟩
  rcases exists_split_of_lookup hFound with
    ⟨before, after, hSplit, _⟩
  rcases hBooks.proofs (id, e) (by simp [hSplit]) with
    ⟨bytes, hPreimage, hHash⟩
  refine ⟨e.preimage, bytes, ?_, ?_, hHash⟩
  · simp only [invoiceStatus, hFound, if_pos hPaid]
  · rw [hPreimage]
    exact Text.Hex.decode?_encode bytes

end Books

/- Every run of a wallet agrees with its books. -/
theorem books_of_run
    {s : FakeSettings}
    {f : FundingSettings}
    {acts : List Act}
    {t : Shared}
    (hFresh : ((start s f).issued acts).Nodup)
    (hRun : (start s f).run? acts = some t) :
    Books ((start s f).issued acts) ((start s f).entries acts)
      t := by
  refine Run.history_of_run
    (P := fun past m =>
      ((start s f).issued past).Nodup →
        Books ((start s f).issued past)
          ((start s f).entries past) m)
    ?_ (fun _ => .of_start s f) hRun hFresh
  intro past m next a hPast hBooks hStep hMore
  rw [issued, Run.outputs_snoc hPast hStep] at hMore ⊢
  rw [entries_append hPast]
  exact (hBooks (List.nodup_append.mp hMore).1).snoc hMore hStep

/- What is yielded or waits was settled before, and once. -/
theorem offered_of_run
    {s : FakeSettings}
    {f : FundingSettings}
    {acts : List Act}
    {t : Shared}
    (hFresh : ((start s f).issued acts).Nodup)
    (hRun : (start s f).run? acts = some t) :
    ((start s f).yielded acts ++ t.ledger.relay.waiting).Nodup ∧
      ∀ id ∈ (start s f).yielded acts ++ t.ledger.relay.waiting,
        id ∈ t.ledger.settledIds ∧
          IsProof id (t.ledger.invoiceStatus id) := by
  have hBooks := books_of_run hFresh hRun
  have hQueue :
      (RelayQueue.ofCapacity f.relayCapacity.toNat).run?
          (acts.flatMap Act.operations) =
        some t.ledger.relay := relay_of_run hRun
  have hOffered :
      ((start s f).yielded acts ++ t.ledger.relay.waiting)
        <+: RelayQueue.accepted ((start s f).entries acts) :=
    RelayQueue.received_append_waiting hQueue
  have hAccepted :
      (RelayQueue.accepted ((start s f).entries acts)).Nodup :=
    (List.nodup_append.mp
      (List.nodup_append.mp (hBooks.nodup hFresh)).2.1).1
  refine ⟨hAccepted.sublist hOffered.sublist, ?_⟩
  intro id hMem
  have hSettled : id ∈ t.ledger.settledIds := by
    refine hBooks.settled.mem_iff.mpr ?_
    exact List.mem_append_right _
      (List.mem_append_left _ (hOffered.subset hMem))
  exact ⟨hSettled, hBooks.isProof hFresh hSettled⟩

------------------------------------------------------------
-- Whole Settlements
------------------------------------------------------------

/- What is left to do after an invoice was marked. -/
theorem exists_run_of_mark
    (l : Ledger)
    (t : Timer) :
    ∃ acts, (mark ⟨l, []⟩ t.id).run? acts =
      some ⟨l.fire t, []⟩ := by
  unfold mark fire settle
  cases hFound : l.invoices.lookup t.id with
  | none => exact ⟨[], rfl⟩
  | some e =>
      by_cases hSettled : e.settled = true
      · simp only [if_pos hSettled]
        exact ⟨[], rfl⟩
      · simp only [if_neg hSettled]
        refine ⟨[.offer t.id], ?_⟩
        simp [run?, step?]

/- To settle an invoice at once is to do both halves of it. -/
theorem exists_run_of_settle
    {l m : Ledger}
    {id : String}
    (hSettle : l.settle id = .ok m) :
    ∃ acts, run? ⟨l, []⟩ acts = some ⟨m, []⟩ := by
  rcases exists_run_of_mark l ⟨0, id⟩ with ⟨acts, hRun⟩
  have hFire : l.fire ⟨0, id⟩ = m := by
    simp only [fire, hSettle]
  rw [hFire] at hRun
  exact ⟨.mark id :: acts,
    Run.run_cons_eq_some_iff.mpr ⟨_, rfl, hRun⟩⟩

/- What a timer does has nothing to do with timers and time. -/
theorem fire_frame
    (l : Ledger)
    (timers : List Timer)
    (now : Nat)
    (t : Timer) :
    fire { l with timers := timers, now := now } t =
      { l.fire t with timers := timers, now := now } := by
  unfold fire settle
  cases l.invoices.lookup t.id with
  | none => rfl
  | some e =>
      by_cases hSettled : e.settled = true
      · simp only [if_pos hSettled]
      · simp only [if_neg hSettled, Ledger.mark, offer]
        cases l.relay.push t.id <;> rfl

/- The timers that have run out wake up one after another. -/
theorem exists_run_of_fireDue
    (due : List Timer)
    (l : Ledger)
    (hDue : l.timers.filter (·.due ≤ l.now) = due) :
    ∃ acts, run? ⟨l, []⟩ acts =
      some ⟨due.foldl fire
        { l with timers := l.timers.filter (l.now < ·.due) },
        []⟩ := by
  induction due generalizing l with
  | nil =>
      have hLater : l.timers.filter (l.now < ·.due) = l.timers := by
        refine List.filter_eq_self.mpr fun t hMem => ?_
        have hNot := List.filter_eq_nil_iff.mp hDue t hMem
        simpa using hNot
      exact ⟨[], by rw [hLater]; rfl⟩
  | cons t rest ih =>
      have hMem : t ∈ l.timers.filter (·.due ≤ l.now) := by
        rw [hDue]
        exact .head rest
      rcases List.mem_filter.mp hMem with ⟨hSet, hOver⟩
      have hOut : t.due ≤ l.now := by simpa using hOver
      let awake : Ledger :=
        { l with timers := l.timers.erase t }
      have hAwake :
          awake.fire t =
            { l.fire t with
              timers := l.timers.erase t
              now := l.now } :=
        fire_frame l (l.timers.erase t) l.now t
      have hNow : (awake.fire t).now = l.now := by rw [hAwake]
      have hTimers : (awake.fire t).timers = l.timers.erase t := by
        rw [hAwake]
      have hRest :
          (awake.fire t).timers.filter
            (·.due ≤ (awake.fire t).now) = rest := by
        rw [hNow, hTimers, ← List.erase_filter, hDue,
          List.erase_cons_head]
      have hLater :
          (awake.fire t).timers.filter
              ((awake.fire t).now < ·.due) =
            l.timers.filter (l.now < ·.due) := by
        rw [hNow, hTimers, ← List.erase_filter]
        refine List.erase_of_not_mem ?_
        intro hStill
        have hAfter := (List.mem_filter.mp hStill).2
        simp only [decide_eq_true_eq] at hAfter
        omega
      have hBase :
          { awake.fire t with
            timers := l.timers.filter (l.now < ·.due) } =
          fire
            { l with timers := l.timers.filter (l.now < ·.due) }
            t := by
        rw [hAwake, fire_frame l (l.timers.filter _) l.now]
      rcases exists_run_of_mark awake t with ⟨first, hFirst⟩
      rcases ih (awake.fire t) hRest with ⟨acts, hRun⟩
      have hWake :
          step? ⟨l, []⟩ (.wake t) =
            some (mark ⟨awake, []⟩ t.id) := if_pos ⟨hSet, hOut⟩
      refine ⟨.wake t :: (first ++ acts), ?_⟩
      refine Run.run_cons_eq_some_iff.mpr ⟨_, hWake, ?_⟩
      rw [hLater, hBase] at hRun
      exact Run.run_append hFirst hRun

/- To let time pass is to wake the timers that run out. -/
theorem exists_run_of_advance
    (l : Ledger)
    (ms : Nat) :
    ∃ acts, run? ⟨l, []⟩ acts = some ⟨l.advance ms, []⟩ := by
  rcases exists_run_of_fireDue _ { l with now := l.now + ms } rfl
    with ⟨acts, hRun⟩
  exact ⟨.pass ms :: acts,
    Run.run_cons_eq_some_iff.mpr ⟨_, rfl, hRun⟩⟩

------------------------------------------------------------
-- Where Settled Ids Are
------------------------------------------------------------

/- Who keeps the reading end keeps that of the queue. -/
theorem operations_of_held
    {acts : List Act}
    (hHeld : .dropStream ∉ acts ∧ .close ∉ acts) :
    .dropStream ∉ acts.flatMap Act.operations ∧
      .close ∉ acts.flatMap Act.operations := by
  constructor
  · intro hMem
    rcases List.mem_flatMap.mp hMem with ⟨a, hAct, hUse⟩
    cases a with
    | dropStream => exact hHeld.1 hAct
    | _ => simp [Act.operations] at hUse
  · intro hMem
    rcases List.mem_flatMap.mp hMem with ⟨a, hAct, hUse⟩
    cases a with
    | close => exact hHeld.2 hAct
    | _ => simp [Act.operations] at hUse

/-
  For all settings and all orders in which a wallet is used by
  many, as long as nobody drops the stream or closes the wallet:
  the ids that are settled are those that the stream has yielded
  or that wait for it, those in flight, and those that were
  turned away, each in one place; and only a full queue turns an
  id away.  An id that is neither in flight nor turned away is
  yielded or waits exactly once.  To settle an invoice never
  fails, and a second time changes nothing: an id that was
  turned away is not offered again.
-/
theorem settlements_accounted
    (s : FakeSettings)
    (f : FundingSettings)
    (acts : List Act)
    (t : Shared)
    (hFresh : ((start s f).issued acts).Nodup)
    (hHeld : .dropStream ∉ acts ∧ .close ∉ acts)
    (hRun : (start s f).run? acts = some t) :
    let offered :=
      (start s f).yielded acts ++ t.ledger.relay.waiting
    let lost := (start s f).turnedAway acts
    t.ledger.settledIds.Perm (offered ++ t.marked ++ lost) ∧
    (offered ++ t.marked ++ lost).Nodup ∧
    (∀ id, t.ledger.invoiceStatus id ≠ .pending ↔
      id ∈ t.ledger.settledIds) ∧
    (∀ id ∈ t.ledger.settledIds,
      offered.count id = 1 ↔ id ∉ t.marked ∧ id ∉ lost) ∧
    (∀ id ∈ lost,
      .rejected (.full (max f.relayCapacity.toNat 1) id) ∈
        (start s f).entries acts) ∧
    (∀ id ∈ (start s f).issued acts,
      ∃ m, t.ledger.settle id = .ok m) ∧
    ∀ id ∈ t.ledger.settledIds,
      t.ledger.settle id = .ok t.ledger := by
  intro offered lost
  have hBooks := books_of_run hFresh hRun
  have hKeys : (t.ledger.invoices.map Prod.fst).Nodup := by
    rw [hBooks.recorded]
    exact hFresh
  have hQueue :
      (RelayQueue.ofCapacity f.relayCapacity.toNat).run?
          (acts.flatMap Act.operations) =
        some t.ledger.relay := relay_of_run hRun
  rcases RelayQueue.rejected_of_held (operations_of_held hHeld)
      hQueue with ⟨hAlive, hFull⟩
  have hAccepted :
      RelayQueue.accepted ((start s f).entries acts) = offered :=
    (RelayQueue.accounts_of_run hQueue).fifo hAlive
  have hPlaces :
      t.ledger.settledIds.Perm (offered ++ t.marked ++ lost) := by
    refine hBooks.settled.trans ?_
    rw [hAccepted, ← List.append_assoc]
    exact List.perm_append_comm.append_right lost
  have hOnce : (offered ++ t.marked ++ lost).Nodup := by
    refine hPlaces.nodup_iff.mp ?_
    exact hKeys.sublist (List.filter_sublist.map Prod.fst)
  refine ⟨hPlaces, hOnce,
    fun id => invoiceStatus_ne_pending_iff hKeys, ?_, ?_, ?_,
    fun id hSettled => settle_of_settled hKeys hSettled⟩
  · intro id hSettled
    have hCount :=
      List.count_eq_one_of_mem hOnce
        (hPlaces.mem_iff.mp hSettled)
    rw [List.count_append, List.count_append] at hCount
    rw [← List.count_eq_zero, ← List.count_eq_zero]
    omega
  · intro id hLost
    rcases List.mem_filterMap.mp hLost with
      ⟨entry, hEntry, hHash⟩
    cases entry with
    | rejected e =>
        cases hHash
        rw [← hFull e hEntry]
        exact hEntry
    | _ => cases hHash
  · intro id hIssued
    rw [← hBooks.recorded] at hIssued
    exact exists_settle hIssued

/- A wallet whose queue has room for one id. -/
def narrow : Shared :=
  .start ⟨none⟩ ⟨.fake, "agent", 5, 1⟩

/- The id of an invoice. -/
def firstId : String :=
  idOf (Crypto.Sha256.hash [1])

/- The id of another invoice. -/
def secondId : String :=
  idOf (Crypto.Sha256.hash [2])

/- Two invoices are issued and settled, and nobody reads. -/
def crowding : List Act :=
  [.createInvoice [1] (.ofSat 1), .createInvoice [2] (.ofSat 2),
   .mark firstId, .offer firstId, .mark secondId,
   .offer secondId]

/- The wallet after that. -/
def crowded : Shared :=
  (narrow.run? crowding).getD narrow

/- The second id is settled, but neither yielded nor waiting. -/
theorem settlements_accounted_of_crowding :
    (narrow.issued crowding).Nodup ∧
      (.dropStream ∉ crowding ∧ .close ∉ crowding) ∧
      narrow.run? crowding = some crowded ∧
      secondId ∈ crowded.ledger.settledIds ∧
      (narrow.yielded crowding ++
        crowded.ledger.relay.waiting).count secondId ≠ 1 ∧
      crowded.ledger.settle secondId = .ok crowded.ledger := by
  have hRun :
      (narrow.issued crowding).Nodup ∧
        narrow.run? crowding = some crowded ∧
        secondId ∈ crowded.ledger.settledIds ∧
        secondId ∈ narrow.turnedAway crowding := by
    decide +kernel
  have hHeld : .dropStream ∉ crowding ∧ .close ∉ crowding := by
    simp [crowding]
  rcases hRun with ⟨hFresh, hRun, hSettled, hLost⟩
  rcases settlements_accounted _ _ crowding crowded hFresh hHeld
      hRun with ⟨_, _, _, hOnce, _, _, hAgain⟩
  refine ⟨hFresh, hHeld, hRun, hSettled, ?_,
    hAgain secondId hSettled⟩
  intro hCount
  exact ((hOnce secondId hSettled).mp hCount).2 hLost

/-
  It is not so that every settled id is yielded or waits exactly
  once: the second of two invoices is settled while the first
  one fills the queue.
-/
theorem not_every_settled_id_is_offered :
    ¬∀ (s : FakeSettings) (f : FundingSettings)
        (acts : List Act) (t : Shared),
      ((start s f).issued acts).Nodup →
      .dropStream ∉ acts ∧ .close ∉ acts →
      (start s f).run? acts = some t →
      t.marked = [] →
      ∀ id, t.ledger.invoiceStatus id ≠ .pending →
        ((start s f).yielded acts ++
          t.ledger.relay.waiting).count id = 1 := by
  intro hAll
  have hRun :
      (narrow.issued crowding).Nodup ∧
        narrow.run? crowding = some crowded ∧
        crowded.marked = [] ∧
        crowded.ledger.invoiceStatus secondId ≠ .pending ∧
        (narrow.yielded crowding ++
          crowded.ledger.relay.waiting).count secondId = 0 := by
    decide +kernel
  have hHeld : .dropStream ∉ crowding ∧ .close ∉ crowding := by
    simp [crowding]
  rcases hRun with ⟨hFresh, hRun, hDone, hPaid, hNone⟩
  have hOnce :=
    hAll _ _ crowding crowded hFresh hHeld hRun hDone secondId hPaid
  have hSame :
      (narrow.yielded crowding ++
        crowded.ledger.relay.waiting).count secondId = 1 := hOnce
  omega

end Shared

end Ledger

end LightningGateway
