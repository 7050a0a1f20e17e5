import LightningGateway.Proofs.Ledger.Settlement

/-
  Timers of a wallet in memory.

  A timer settles its invoice if nobody else has.  When some
  time passes, the timers that run out in it fire one after
  another.  They change the invoices and the queue and nothing
  else: their invoices are settled, and the ids of those that
  were open are pushed in the order of the timers.

  Key definitions include:
    * `Ledger.isOpen`
    * `Ledger.awake`
    * `Ledger.due`, `Ledger.waiting`

  Main results:
    * `Ledger.mem_settledIds_foldl_fire`
    * `Ledger.awake_eq_filter`
    * `Ledger.relay_foldl_fire`
-/

namespace LightningGateway

open Payment Relay Settings

namespace Ledger

------------------------------------------------------------
-- One Timer
------------------------------------------------------------

/- Whether an invoice is recorded and not settled yet. -/
def isOpen
    (l : Ledger)
    (id : String) : Bool :=
  (l.invoices.lookup id).any (!·.settled)

/- If every id is there once, the open ones are not settled. -/
theorem isOpen_iff
    {l : Ledger}
    (hKeys : (l.invoices.map Prod.fst).Nodup)
    {id : String} :
    l.isOpen id = true ↔
      id ∈ l.invoices.map Prod.fst ∧ id ∉ l.settledIds := by
  rw [mem_settledIds_iff hKeys, isOpen]
  cases hFound : l.invoices.lookup id with
  | none =>
      refine iff_of_false Bool.false_ne_true ?_
      rintro ⟨hMem, _⟩
      rcases List.mem_map.mp hMem with ⟨p, hIn, rfl⟩
      have hOther := List.lookup_eq_none_iff.mp hFound p hIn
      simp at hOther
  | some e =>
      rcases exists_split_of_lookup hFound with
        ⟨before, after, hSplit, _⟩
      have hMem : id ∈ l.invoices.map Prod.fst := by
        simp [hSplit]
      cases hSettled : e.settled <;> simp [hMem, hSettled]

/- A timer whose invoice is not open does nothing. -/
theorem fire_of_not_isOpen
    {l : Ledger}
    {t : Timer}
    (hShut : l.isOpen t.id = false) :
    l.fire t = l := by
  unfold isOpen at hShut
  unfold fire settle
  cases hFound : l.invoices.lookup t.id with
  | none => rfl
  | some e =>
      rw [hFound] at hShut
      have hSettled : e.settled = true := by simpa using hShut
      simp only [if_pos hSettled]

/- A timer whose invoice is open marks and offers it. -/
theorem fire_of_isOpen
    {l : Ledger}
    {t : Timer}
    (hOpen : l.isOpen t.id = true) :
    ∃ e, l.invoices.lookup t.id = some e ∧ e.settled = false ∧
      l.fire t = (l.mark t.id e).offer t.id := by
  unfold isOpen at hOpen
  unfold fire settle
  cases hFound : l.invoices.lookup t.id with
  | none =>
      rw [hFound] at hOpen
      cases hOpen
  | some e =>
      rw [hFound] at hOpen
      have hSettled : e.settled = false := by simpa using hOpen
      refine ⟨e, rfl, hSettled, ?_⟩
      simp only [hSettled, Bool.false_eq_true, if_false]

/- An offer leaves all but the queue as it is. -/
theorem exists_offer
    (l : Ledger)
    (id : String) :
    ∃ q, l.offer id = { l with relay := q } := by
  unfold offer
  cases l.relay.push id with
  | ok q => exact ⟨q, rfl⟩
  | error e => exact ⟨l.relay, rfl⟩

/- A timer leaves all but invoices and queue as they are. -/
theorem exists_fire
    (l : Ledger)
    (t : Timer) :
    ∃ invoices q,
      l.fire t = { l with invoices := invoices, relay := q } := by
  cases hOpen : l.isOpen t.id with
  | false => exact ⟨l.invoices, l.relay, fire_of_not_isOpen hOpen⟩
  | true =>
      rcases fire_of_isOpen hOpen with ⟨e, _, _, hFire⟩
      rcases (l.mark t.id e).exists_offer t.id with ⟨q, hOffer⟩
      exact ⟨_, q, hFire.trans hOffer⟩

/- A timer leaves the ids as they are. -/
theorem keys_fire
    (l : Ledger)
    (t : Timer) :
    (l.fire t).invoices.map Prod.fst =
      l.invoices.map Prod.fst := by
  cases hOpen : l.isOpen t.id with
  | false => rw [fire_of_not_isOpen hOpen]
  | true =>
      rcases fire_of_isOpen hOpen with ⟨e, hFound, _, hFire⟩
      rcases (l.mark t.id e).exists_offer t.id with ⟨q, hOffer⟩
      rw [hFire, hOffer]
      exact keys_mark hFound

/- A timer settles its invoice and no other. -/
theorem mem_settledIds_fire
    {l : Ledger}
    (hKeys : (l.invoices.map Prod.fst).Nodup)
    (t : Timer)
    (id : String) :
    id ∈ (l.fire t).settledIds ↔
      id ∈ l.settledIds ∨
        (id = t.id ∧ id ∈ l.invoices.map Prod.fst) := by
  cases hOpen : l.isOpen t.id with
  | false =>
      rw [fire_of_not_isOpen hOpen]
      refine ⟨.inl, ?_⟩
      rintro (hSettled | ⟨rfl, hMem⟩)
      · exact hSettled
      · by_contra hNot
        rw [(isOpen_iff hKeys).mpr ⟨hMem, hNot⟩] at hOpen
        cases hOpen
  | true =>
      have hMem := ((isOpen_iff hKeys).mp hOpen).1
      rcases fire_of_isOpen hOpen with ⟨e, hFound, hNew, hFire⟩
      rcases (l.mark t.id e).exists_offer t.id with ⟨q, hOffer⟩
      have hIds :
          (l.fire t).settledIds.Perm (t.id :: l.settledIds) := by
        rw [hFire, hOffer]
        exact settledIds_mark hFound hNew
      rw [hIds.mem_iff, List.mem_cons, or_comm]
      constructor
      · rintro (hSettled | rfl)
        · exact .inl hSettled
        · exact .inr ⟨rfl, hMem⟩
      · rintro (hSettled | ⟨hSame, _⟩)
        · exact .inl hSettled
        · exact .inr hSame

/- What a timer pushes moves the queue. -/
theorem relay_fire
    (l : Ledger)
    (t : Timer) :
    l.relay.run?
        (if l.isOpen t.id then [.push t.id] else []) =
      some (l.fire t).relay := by
  cases hOpen : l.isOpen t.id with
  | false =>
      rw [fire_of_not_isOpen hOpen]
      rfl
  | true =>
      rcases fire_of_isOpen hOpen with ⟨e, _, _, hFire⟩
      rw [if_pos rfl, hFire]
      exact Run.run_cons_eq_some_iff.mpr
        ⟨_, Shared.relay_offer (l.mark t.id e) t.id, rfl⟩
------------------------------------------------------------
-- Timers in Turn
------------------------------------------------------------

/- The timers that settle an invoice, of some that fire in turn. -/
def awake (l : Ledger) : List Timer → List Timer
  | [] => []
  | t :: rest =>
      (if l.isOpen t.id then [t] else []) ++ awake (l.fire t) rest

/- The timers that run out in some time. -/
def due
    (l : Ledger)
    (ms : Nat) : List Timer :=
  l.timers.filter (·.due ≤ l.now + ms)

/- The wallet after that time, before any of them fires. -/
def waiting
    (l : Ledger)
    (ms : Nat) : Ledger :=
  { l with
    now := l.now + ms
    timers := l.timers.filter (l.now + ms < ·.due) }

/- Timers in turn leave all but invoices and queue as they are. -/
theorem exists_foldl_fire
    (l : Ledger)
    (timers : List Timer) :
    ∃ invoices q,
      timers.foldl fire l =
        { l with invoices := invoices, relay := q } := by
  induction timers generalizing l with
  | nil => exact ⟨l.invoices, l.relay, rfl⟩
  | cons t rest ih =>
      rcases l.exists_fire t with ⟨invoices, q, hFire⟩
      rcases ih (l.fire t) with ⟨others, p, hRest⟩
      refine ⟨others, p, ?_⟩
      rw [List.foldl_cons, hRest, hFire]

/- Timers in turn leave the ids as they are. -/
theorem keys_foldl_fire
    (l : Ledger)
    (timers : List Timer) :
    (timers.foldl fire l).invoices.map Prod.fst =
      l.invoices.map Prod.fst := by
  induction timers generalizing l with
  | nil => rfl
  | cons t rest ih => rw [List.foldl_cons, ih, keys_fire]

/- Timers in turn settle their invoices and no other. -/
theorem mem_settledIds_foldl_fire
    {l : Ledger}
    (hKeys : (l.invoices.map Prod.fst).Nodup)
    (timers : List Timer)
    (id : String) :
    id ∈ (timers.foldl fire l).settledIds ↔
      id ∈ l.settledIds ∨
        (id ∈ timers.map Timer.id ∧
          id ∈ l.invoices.map Prod.fst) := by
  induction timers generalizing l with
  | nil => simp
  | cons t rest ih =>
      have hNext : ((l.fire t).invoices.map Prod.fst).Nodup := by
        rw [keys_fire]
        exact hKeys
      rw [List.foldl_cons, ih hNext, mem_settledIds_fire hKeys,
        keys_fire, List.map_cons, List.mem_cons, or_assoc,
        ← or_and_right]

/- Another invoice stays open when a timer fires. -/
theorem isOpen_fire
    {l : Ledger}
    (hKeys : (l.invoices.map Prod.fst).Nodup)
    {t : Timer}
    {id : String}
    (hOther : id ≠ t.id) :
    (l.fire t).isOpen id = l.isOpen id := by
  have hNext : ((l.fire t).invoices.map Prod.fst).Nodup := by
    rw [keys_fire]
    exact hKeys
  rw [Bool.eq_iff_iff, isOpen_iff hNext, isOpen_iff hKeys,
    keys_fire, mem_settledIds_fire hKeys]
  simp [hOther]

/- Of timers with ids of their own, those of open invoices. -/
theorem awake_eq_filter
    {l : Ledger}
    {timers : List Timer}
    (hKeys : (l.invoices.map Prod.fst).Nodup)
    (hIds : (timers.map Timer.id).Nodup) :
    l.awake timers = timers.filter (l.isOpen ·.id) := by
  induction timers generalizing l with
  | nil => rfl
  | cons t rest ih =>
      rw [List.map_cons, List.nodup_cons] at hIds
      have hNext : ((l.fire t).invoices.map Prod.fst).Nodup := by
        rw [keys_fire]
        exact hKeys
      have hRest :
          rest.filter ((l.fire t).isOpen ·.id) =
            rest.filter (l.isOpen ·.id) := by
        apply List.filter_congr
        intro u hMem
        apply isOpen_fire hKeys
        intro hSame
        exact hIds.1 (hSame ▸ List.mem_map_of_mem hMem)
      rw [awake, ih hNext hIds.2, hRest, List.filter_cons]
      split <;> rfl

/- What timers push in turn moves the queue. -/
theorem relay_foldl_fire
    (l : Ledger)
    (timers : List Timer) :
    l.relay.run?
        ((l.awake timers).map fun t => .push t.id) =
      some (timers.foldl fire l).relay := by
  induction timers generalizing l with
  | nil => rfl
  | cons t rest ih =>
      have hFirst := l.relay_fire t
      have hPushes :
          ((if l.isOpen t.id then [t] else []).map fun t =>
            RelayQueue.Operation.push t.id) =
            if l.isOpen t.id then [.push t.id] else [] := by
        split <;> rfl
      rw [awake, List.map_append, hPushes, List.foldl_cons]
      exact Run.run_append hFirst (ih (l.fire t))

end Ledger

end LightningGateway
