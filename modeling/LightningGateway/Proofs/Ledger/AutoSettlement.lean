import LightningGateway.Proofs.Ledger.Schedule
import LightningGateway.Proofs.Ledger.Timers

/-
  Invoices that settle by themselves.

  A wallet in memory may settle its invoices after a delay.  An
  invoice is settled once somebody has settled it, or its delay
  is over and the wallet was open that long.  The ids of those
  that settle by themselves are offered to the reader as they
  come due, and in the order of their issue.  No delay is longer
  than thirty years, whatever the settings say.

  Key definitions include:
    * `Ledger.Kept`
    * `Ledger.woken`
    * `Ledger.operations`

  Main results:
    * `Ledger.Kept.snoc`
    * `Ledger.kept_of_run`
    * `Ledger.woken_of_run`
    * `Ledger.auto_settlement_exact`
-/

namespace LightningGateway

open Payment Relay Settings

namespace Ledger

------------------------------------------------------------
-- Wallets in Time
------------------------------------------------------------

/-
  How a wallet whose invoices settle after a delay agrees with
  the moves that were made: its clock, its ids, the timers that
  are left, and the invoices that are settled.
-/
structure Kept
    (d : Nat)
    (moves : List Move)
    (l : Ledger) : Prop where
  now : l.now = clock moves
  delay : l.delay = some d
  keys : l.invoices.map Prod.fst = issuedBy moves
  closed : l.closed = true ↔ .close ∈ moves
  timers :
    l.timers =
      (schedule (Pause.length d) 0 moves).filter (isRunning moves)
  settled :
    ∀ id, id ∈ l.settledIds ↔
      settledByHand id moves = true ∨
        hasRunOut (Pause.length d) id moves = true

namespace Kept

variable {d : Nat}
variable {past : List Move}
variable {l k : Ledger}
variable {m : Move}

/- Every id is recorded once if it is issued once. -/
theorem nodup_keys
    (hKept : Kept d past l)
    (hFresh : (issuedBy past).Nodup) :
    (l.invoices.map Prod.fst).Nodup := by
  rw [hKept.keys]
  exact hFresh

/- What is due later is running unless the wallet is closed. -/
theorem isRunning_eq
    (hKept : Kept d past l)
    {t : Timer}
    (hLater : clock past < t.due) :
    isRunning past t = !l.closed := by
  have hClosed : closedBefore t.due past = l.closed := by
    rw [Bool.eq_iff_iff, closedBefore_iff hLater, hKept.closed]
  rw [isRunning, hClosed, decide_eq_true hLater, Bool.true_and]

/- A move in which no time passes and nothing is issued. -/
theorem snoc_instant
    (hKept : Kept d past l)
    (hWait : 0 < Pause.length d)
    (hIssue : m.issue? = none)
    (hInstant : m.duration = 0)
    (hNow : k.now = l.now)
    (hDelay : k.delay = l.delay)
    (hKeys :
      k.invoices.map Prod.fst = l.invoices.map Prod.fst)
    (hClosed : k.closed = (l.closed || m == .close))
    (hTimers : k.timers = if m = .close then [] else l.timers)
    (hSettled :
      ∀ id, id ∈ k.settledIds ↔
        id ∈ l.settledIds ∨
          (m = .settle id ∧ id ∈ issuedBy past)) :
    Kept d (past ++ [m]) k := by
  have hClock : clock (past ++ [m]) = clock past := by
    rw [clock_snoc, hInstant, Nat.add_zero]
  constructor
  · rw [hNow, hClock]
    exact hKept.now
  · exact hDelay.trans hKept.delay
  · rw [hKeys, issuedBy_snoc, hIssue, Option.toList_none,
      List.append_nil]
    exact hKept.keys
  · rw [hClosed, Bool.or_eq_true, beq_iff_eq, hKept.closed,
      List.mem_append, List.mem_singleton, eq_comm]
  · rw [hTimers, hKept.timers, schedule_snoc, hIssue,
      Option.map_none, Option.toList_none, List.append_nil]
    split
    next hClose => simp [isRunning_snoc, hClose]
    next hOpen =>
      apply List.filter_congr
      intro t _
      exact (isRunning_snoc_of_instant hInstant hOpen past t).symm
  · intro id
    rw [hSettled, hKept.settled, settledByHand_snoc,
      hasRunOut_snoc_of_instant hWait hInstant, Bool.or_eq_true,
      Bool.and_eq_true, beq_iff_eq, decide_eq_true_iff,
      or_right_comm]

/- A new invoice is open, and its timer is started. -/
theorem snoc_issue
    (hKept : Kept d past l)
    (hWait : 0 < Pause.length d)
    {id : String}
    {e : InvoiceEntry}
    (hIssue : m.issue? = some id)
    (hNew : id ∉ l.invoices.map Prod.fst)
    (hOpen : e.settled = false) :
    Kept d (past ++ [m])
      { l with
        invoices := record id e l.invoices
        timers := l.startTimer id } := by
  have hInstant : m.duration = 0 := Move.duration_of_issue? hIssue
  have hClock : clock (past ++ [m]) = clock past := by
    rw [clock_snoc, hInstant, Nat.add_zero]
  have hClose : m ≠ .close := by
    rintro rfl
    cases hIssue
  have hSettle (i : String) : (m == .settle i) = false := by
    rw [beq_eq_false_iff_ne]
    rintro rfl
    cases hIssue
  constructor
  · rw [hClock]
    exact hKept.now
  · exact hKept.delay
  · rw [record_of_fresh hNew, List.map_append, hKept.keys,
      issuedBy_snoc, hIssue]
    rfl
  · rw [hKept.closed, List.mem_append, List.mem_singleton,
      or_iff_left hClose.symm]
  · have hSame : isRunning (past ++ [m]) = isRunning past :=
      funext (isRunning_snoc_of_instant hInstant hClose past)
    have hLater : clock past < clock past + Pause.length d :=
      Nat.lt_add_of_pos_right hWait
    rw [startTimer, hKept.delay, schedule_snoc, hIssue,
      Option.map_some, Option.toList_some, List.filter_append,
      hSame, hKept.timers, hKept.now, Nat.zero_add]
    cases hClosed : l.closed <;>
      simp [hKept.isRunning_eq, hLater, hClosed]
  · intro i
    have hIds :
        settledIds
          { l with
            invoices := record id e l.invoices
            timers := l.startTimer id } = l.settledIds := by
      simp [settledIds, record_of_fresh hNew, hOpen]
    rw [hIds, hKept.settled, settledByHand_snoc, hSettle,
      Bool.false_and, Bool.or_false,
      hasRunOut_snoc_of_instant hWait hInstant]

/- A request that is refused changes nothing. -/
theorem snoc_createInvoice
    (hKept : Kept d past l)
    (hWait : 0 < Pause.length d)
    (random : List UInt8)
    (r : InvoiceRequest)
    (hFresh :
      (issuedBy (past ++ [.createInvoice random r])).Nodup) :
    Kept d (past ++ [.createInvoice random r])
      (l.createInvoice random r).2 := by
  unfold createInvoice
  cases hAmount : r.amount with
  | error e =>
      have hIssue :
          (Move.createInvoice random r).issue? = none := by
        rw [Move.issue?, Act.issue?_of_error random hAmount]
        rfl
      exact hKept.snoc_instant hWait hIssue rfl rfl rfl rfl
        (by simp) (by simp) (by simp)
  | ok amount =>
      have hIssue :
          (Move.createInvoice random r).issue? =
            some (idOf (Crypto.Sha256.hash random)) := by
        rw [Move.issue?, Act.issue?_of_ok random hAmount]
        rfl
      rw [issuedBy_snoc, hIssue, Option.toList_some,
        List.nodup_append] at hFresh
      apply hKept.snoc_issue hWait hIssue _ rfl
      rw [hKept.keys]
      exact fun hMem => hFresh.2.2 _ hMem _ (.head _) rfl

/- The timers that run out in some time. -/
theorem due_eq
    (hKept : Kept d past l)
    (ms : Nat) :
    l.due ms =
      (schedule (Pause.length d) 0 past).filter
        (runsOutIn past (.advance ms)) := by
  rw [due, hKept.timers, hKept.now, List.filter_filter]
  apply List.filter_congr
  intro t _
  rw [runsOutIn, clock_snoc, Bool.and_comm]
  rfl

/- When time passes the invoices are settled that come due. -/
theorem mem_settledIds_advance
    (hKept : Kept d past l)
    (hFresh : (issuedBy past).Nodup)
    {ms : Nat}
    {id : String} :
    id ∈ (l.advance ms).settledIds ↔
      id ∈ l.settledIds ∨
        ((schedule (Pause.length d) 0 past).filter
          (runsOutIn past (.advance ms))).any (·.id == id) =
            true := by
  have hKeys : ((l.waiting ms).invoices.map Prod.fst).Nodup :=
    hKept.nodup_keys hFresh
  have hDue :
      (id ∈ (l.due ms).map Timer.id ∧
        id ∈ l.invoices.map Prod.fst) ↔
        (l.due ms).any (·.id == id) = true := by
    rw [hKept.keys, ← map_id_schedule (Pause.length d) 0,
      hKept.due_eq]
    simp only [List.mem_map, List.any_eq_true, beq_iff_eq]
    refine and_iff_left_of_imp ?_
    rintro ⟨t, hMem, rfl⟩
    exact ⟨t, (List.mem_filter.mp hMem).1, rfl⟩
  rw [← hKept.due_eq, ← hDue]
  exact mem_settledIds_foldl_fire hKeys (l.due ms) id

/- The clock and the timers go on as the moves tell. -/
theorem snoc_advance
    (hKept : Kept d past l)
    (hWait : 0 < Pause.length d)
    (hFresh : (issuedBy past).Nodup)
    (ms : Nat) :
    Kept d (past ++ [.advance ms]) (l.advance ms) := by
  have hClock :
      clock (past ++ [.advance ms]) = l.now + ms := by
    rw [clock_snoc, hKept.now]
    rfl
  have hIssued :
      issuedBy (past ++ [.advance ms]) = issuedBy past := by
    rw [issuedBy_snoc]
    exact List.append_nil _
  have hSchedule :
      schedule (Pause.length d) 0 (past ++ [.advance ms]) =
        schedule (Pause.length d) 0 past := by
    rw [schedule_snoc]
    exact List.append_nil _
  have hAdvance :
      l.advance ms = (l.due ms).foldl fire (l.waiting ms) := rfl
  rcases (l.waiting ms).exists_foldl_fire (l.due ms) with
    ⟨invoices, q, hFrame⟩
  constructor
  · rw [hAdvance, hFrame, hClock]
    rfl
  · rw [hAdvance, hFrame]
    exact hKept.delay
  · rw [hAdvance, keys_foldl_fire, hIssued]
    exact hKept.keys
  · rw [hAdvance, hFrame]
    change l.closed = true ↔ _
    simp [hKept.closed]
  · have hTimers :
        ((l.due ms).foldl fire (l.waiting ms)).timers =
          l.timers.filter (l.now + ms < ·.due) := by
      rw [hFrame]
      rfl
    rw [hAdvance, hTimers, hSchedule, hKept.timers,
      List.filter_filter]
    apply List.filter_congr
    intro t _
    have hOpen : (Move.advance ms != .close) = true := rfl
    rw [isRunning_snoc, hClock, hOpen, Bool.and_true,
      Bool.and_comm]
  · intro id
    have hHand :
        settledByHand id (past ++ [.advance ms]) =
          settledByHand id past := by
      rw [settledByHand_snoc]
      simp
    rw [hKept.mem_settledIds_advance hFresh, hKept.settled, hHand,
      hasRunOut_snoc hWait, Bool.or_eq_true, or_assoc]

/- Every move leaves a wallet in agreement with the moves. -/
theorem snoc
    (hKept : Kept d past l)
    (hWait : 0 < Pause.length d)
    (hFresh : (issuedBy (past ++ [m])).Nodup)
    (hMove : l.move? m = some k) :
    Kept d (past ++ [m]) k := by
  have hOld := nodup_issuedBy_of_snoc hFresh
  cases m with
  | createInvoice random r =>
      cases hMove
      exact hKept.snoc_createInvoice hWait random r hFresh
  | payInvoice random request =>
      cases hMove
      unfold payInvoice
      split <;>
        exact hKept.snoc_instant hWait rfl rfl rfl rfl rfl
          (by simp) (by simp) (by simp [settledIds])
  | settle id =>
      have hFire :
          l.move? (.settle id) = some (l.fire ⟨0, id⟩) :=
        l.move?_settle ⟨0, id⟩
      rw [hFire] at hMove
      cases hMove
      have hKeys := hKept.nodup_keys hOld
      rcases l.exists_fire ⟨0, id⟩ with ⟨invoices, q, hFrame⟩
      refine hKept.snoc_instant hWait rfl rfl ?_ ?_
        (keys_fire l ⟨0, id⟩) ?_ ?_ ?_
      · rw [hFrame]
      · rw [hFrame]
      · rw [hFrame]
        simp
      · rw [hFrame]
        simp
      · intro i
        rw [mem_settledIds_fire hKeys, hKept.keys,
          Move.settle.injEq, eq_comm]
  | advance ms =>
      cases hMove
      exact hKept.snoc_advance hWait hOld ms
  | use o =>
      rcases Option.map_eq_some_iff.mp hMove with ⟨q, _, rfl⟩
      exact hKept.snoc_instant hWait rfl rfl rfl rfl rfl
        (by simp) (by simp) (by simp [settledIds])
  | close =>
      cases hMove
      exact hKept.snoc_instant hWait rfl rfl rfl rfl rfl
        (by simp [close]) (by simp [close])
        (by simp [close, settledIds])

end Kept

/- In every run a wallet agrees with the moves. -/
theorem kept_of_run
    {s : FakeSettings}
    {f : FundingSettings}
    {d : UInt64}
    {moves : List Move}
    {l : Ledger}
    (hDelay : s.autoSettleMs = some d)
    (hPositive : 0 < d)
    (hFresh : (issuedBy moves).Nodup)
    (hRun : moves.foldlM move? (build s f) = some l) :
    0 < Pause.length d.toNat ∧ Kept d.toNat moves l := by
  have hWait : 0 < Pause.length d.toNat := by
    have hNat : 0 < d.toNat := UInt64.lt_iff_toNat_lt.mp hPositive
    exact Nat.lt_min.mpr ⟨hNat, by decide⟩
  refine ⟨hWait, ?_⟩
  -- The ids are a premise of the invariant, as only those of all
  -- moves are known to be distinct.
  refine Run.history_of_run
    (P := fun past m => (issuedBy past).Nodup → Kept d.toNat past m)
    ?_ ?_ hRun hFresh
  · intro past m k a _ hKept hMove hMore
    have hOld := nodup_issuedBy_of_snoc hMore
    exact (hKept hOld).snoc hWait hMore hMove
  · intro _
    constructor
    · rfl
    · exact congrArg (Option.map UInt64.toNat) hDelay
    · rfl
    · simp [build]
    · rfl
    · intro id
      simp [build, settledIds, settledByHand, happens, hasRunOut,
        schedule]

------------------------------------------------------------
-- Offers
------------------------------------------------------------

/- The timers that settle their invoices in a move. -/
def woken (l : Ledger) : Move → List Timer
  | .advance ms => (l.waiting ms).awake (l.due ms)
  | _ => []

/-
  What a move does with the queue.  Who settles an invoice
  offers its id, whether it is somebody or a timer.
-/
def operations (l : Ledger) : Move → List RelayQueue.Operation
  | .settle id => if l.isOpen id then [.push id] else []
  | .advance ms =>
      (l.woken (.advance ms)).map fun t => .push t.id
  | .use o => [o]
  | .close => [.close]
  | _ => []

/- A move moves the queue by its operations. -/
theorem relay_of_move?
    {l k : Ledger}
    {m : Move}
    (hMove : l.move? m = some k) :
    (l.operations m).foldlM RelayQueue.step? l.relay =
      some k.relay := by
  cases m with
  | createInvoice random r =>
      cases hMove
      exact congrArg some
        (Shared.relay_createInvoice l random r).symm
  | payInvoice random request =>
      cases hMove
      exact congrArg some
        (Shared.payInvoice_frame l random request).1.symm
  | settle id =>
      have hFire :
          l.move? (.settle id) = some (l.fire ⟨0, id⟩) :=
        l.move?_settle ⟨0, id⟩
      rw [hFire] at hMove
      cases hMove
      exact l.relay_fire ⟨0, id⟩
  | advance ms =>
      cases hMove
      exact relay_foldl_fire (l.waiting ms) (l.due ms)
  | use o =>
      rcases Option.map_eq_some_iff.mp hMove with ⟨q, hStep, rfl⟩
      exact Run.run_cons_eq_some_iff.mpr ⟨q, hStep, rfl⟩
  | close =>
      cases hMove
      rfl

/- An invoice that is due later is open unless settled by hand. -/
theorem Kept.isOpen_eq
    {d : Nat}
    {past : List Move}
    {l : Ledger}
    (hKept : Kept d past l)
    (hFresh : (issuedBy past).Nodup)
    {t : Timer}
    (hMem : t ∈ schedule (Pause.length d) 0 past)
    (hLater : clock past < t.due) :
    l.isOpen t.id = !forestalled t past := by
  have hKeys := hKept.nodup_keys hFresh
  have hIssued : t.id ∈ issuedBy past := by
    rw [← map_id_schedule (Pause.length d) 0]
    exact List.mem_map_of_mem hMem
  have hRunning :
      hasRunOut (Pause.length d) t.id past = false := by
    rw [hasRunOut_eq hFresh hMem]
    apply eq_false_of_ne_true
    intro hOut
    have hNow := due_le_of_runsOut hOut
    omega
  rw [forestalled_eq hLater, Bool.eq_iff_iff, isOpen_iff hKeys,
    hKept.keys, hKept.settled, hRunning]
  simp [hIssued]

/- The timers that settle in a move run out in it, and in time. -/
theorem Kept.woken_eq
    {d : Nat}
    {past : List Move}
    {l : Ledger}
    (hKept : Kept d past l)
    (hFresh : (issuedBy past).Nodup)
    (m : Move) :
    l.woken m =
      (schedule (Pause.length d) 0 past).filter fun t =>
        runsOutIn past m t && !forestalled t past := by
  have hKeys := hKept.nodup_keys hFresh
  cases m with
  | advance ms =>
      have hIds :
          ((l.due ms).map Timer.id).Nodup := by
        rw [hKept.due_eq]
        refine List.Nodup.sublist
          (List.filter_sublist.map Timer.id) ?_
        rw [map_id_schedule]
        exact hFresh
      rw [woken, awake_eq_filter (l := l.waiting ms) hKeys hIds,
        hKept.due_eq, List.filter_filter]
      apply List.filter_congr
      intro t hMem
      cases hOut : runsOutIn past (.advance ms) t with
      | false => rw [Bool.and_false, Bool.false_and]
      | true =>
          rw [Bool.and_true, Bool.true_and]
          exact hKept.isOpen_eq hFresh hMem (lt_of_runsOutIn hOut)
  | _ =>
      change [] = _
      rw [eq_comm, List.filter_eq_nil_iff]
      intro t _ hOut
      rw [runsOutIn_of_instant rfl] at hOut
      cases hOut

/- In a run those settle that run out and are not forestalled. -/
theorem woken_of_run
    {s : FakeSettings}
    {f : FundingSettings}
    {d : UInt64}
    {moves : List Move}
    {l : Ledger}
    (hDelay : s.autoSettleMs = some d)
    (hPositive : 0 < d)
    (hFresh : (issuedBy moves).Nodup)
    (hRun : moves.foldlM move? (build s f) = some l) :
    Run.outputs move? woken (build s f) moves =
      (schedule (Pause.length d.toNat) 0 moves).filter
        (settlesItself moves) := by
  refine Run.history_of_run
    (P := fun past _ => (issuedBy past).Nodup →
      Run.outputs move? woken (build s f) past =
        (schedule (Pause.length d.toNat) 0 past).filter
          (settlesItself past))
    ?_ (fun _ => rfl) hRun hFresh
  intro past k next m hPast hWoken hMove hMore
  have hOld := nodup_issuedBy_of_snoc hMore
  rcases kept_of_run hDelay hPositive hOld hPast with
    ⟨hWait, hKept⟩
  have hEarly (t : Timer) (hSettles : settlesItself past t = true) :
      t.due ≤ clock past :=
    due_le_of_runsOut (Bool.and_eq_true _ _ ▸ hSettles).1
  have hLate (t : Timer)
      (hOut :
        (runsOutIn past m t && !forestalled t past) = true) :
      clock past < t.due :=
    lt_of_runsOutIn (Bool.and_eq_true _ _ ▸ hOut).1
  rw [Run.outputs_snoc hPast hMove, hWoken hOld,
    hKept.woken_eq hOld,
    filter_append_filter (pairwise_schedule _ _ _) hEarly hLate,
    filter_schedule_snoc hWait fun _ hSettles =>
      due_le_of_runsOut (Bool.and_eq_true _ _ ▸ hSettles).1]
  apply List.filter_congr
  intro t _
  rw [settlesItself_snoc]

------------------------------------------------------------
-- Settlement
------------------------------------------------------------

/- When an invoice is settled, and by whom. -/
theorem Kept.invoiceStatus_iff
    {d : Nat}
    {past later : List Move}
    {m : Move}
    {l : Ledger}
    {id : String}
    (hKept : Kept d (past ++ m :: later) l)
    (hFresh : (issuedBy (past ++ m :: later)).Nodup)
    (hIssue : m.issue? = some id) :
    l.invoiceStatus id ≠ .pending ↔
      .settle id ∈ later ∨
        (clock past + Pause.length d ≤
            clock (past ++ m :: later) ∧
          closedBefore (clock past + Pause.length d)
            (past ++ m :: later) = false) := by
  have hKeys := hKept.nodup_keys hFresh
  have hTimer :
      hasRunOut (Pause.length d) id (past ++ m :: later) =
        runsOut (past ++ m :: later)
          ⟨clock past + Pause.length d, id⟩ :=
    hasRunOut_eq hFresh (mem_schedule_of_issue? _ hIssue)
  rw [invoiceStatus_ne_pending_iff hKeys, hKept.settled,
    settledByHand_iff hFresh hIssue, hTimer, runsOut,
    Bool.and_eq_true, decide_eq_true_iff, Bool.not_eq_true']

/-
  A timer changes nothing if its invoice is settled by hand,
  whichever timers fire before it.
-/
theorem Kept.fire_of_settledByHand
    {d : Nat}
    {moves : List Move}
    {l : Ledger}
    {t : Timer}
    (hKept : Kept d moves l)
    (hFresh : (issuedBy moves).Nodup)
    (hSettled : settledByHand t.id moves = true)
    (ms : Nat)
    (others : List Timer) :
    (others.foldl fire (l.waiting ms)).fire t =
      others.foldl fire (l.waiting ms) := by
  have hKeys : ((l.waiting ms).invoices.map Prod.fst).Nodup :=
    hKept.nodup_keys hFresh
  have hNow : t.id ∈ (l.waiting ms).settledIds :=
    (hKept.settled t.id).mpr (.inl hSettled)
  have hThen :
      t.id ∈ (others.foldl fire (l.waiting ms)).settledIds :=
    (mem_settledIds_foldl_fire hKeys others t.id).mpr (.inl hNow)
  rw [← keys_foldl_fire (l.waiting ms) others] at hKeys
  rw [fire, settle_of_settled hKeys hThen]

/-
  In a wallet whose invoices settle after a delay, an invoice is
  settled once somebody settles it by hand, or its delay is over
  and the wallet was not closed before; one that is issued after
  the wallet is closed is settled by hand only, and one that is
  settled by hand makes its timer do nothing when it fires, in
  whatever order.  The invoices that settle by themselves are
  offered to the reader in the order of their times, and of
  their issue where the times are the same.  A delay that is
  longer than thirty years is over then.
-/
theorem auto_settlement_exact
    {s : FakeSettings}
    {f : FundingSettings}
    {d : UInt64}
    {moves : List Move}
    {l : Ledger}
    (hDelay : s.autoSettleMs = some d)
    (hPositive : 0 < d)
    (hFresh : (issuedBy moves).Nodup)
    (hRun : moves.foldlM move? (build s f) = some l) :
    (∀ past random r later k id request,
      moves = past ++ .createInvoice random r :: later →
      past.foldlM move? (build s f) = some k →
      (k.createInvoice random r).1 = .success id request →
      (l.invoiceStatus id ≠ .pending ↔
        .settle id ∈ later ∨
          (clock past + Pause.length d.toNat ≤ clock moves ∧
            closedBefore (clock past + Pause.length d.toNat)
              moves = false)) ∧
      (.close ∈ past →
        (l.invoiceStatus id ≠ .pending ↔ .settle id ∈ later)) ∧
      (.settle id ∈ later →
        ∀ (due ms : Nat) (others : List Timer),
          (others.foldl fire (l.waiting ms)).fire ⟨due, id⟩ =
            others.foldl fire (l.waiting ms))) ∧
    Run.outputs move? woken (build s f) moves =
      (schedule (Pause.length d.toNat) 0 moves).filter
        (settlesItself moves) ∧
    (Run.outputs move? woken (build s f) moves).Pairwise
      (·.due ≤ ·.due) ∧
    (schedule (Pause.length d.toNat) 0 moves).map Timer.id =
      issuedBy moves ∧
    (Run.outputs move? operations (build s f) moves).foldlM
      RelayQueue.step? (build s f).relay = some l.relay := by
  rcases kept_of_run hDelay hPositive hFresh hRun with
    ⟨hWait, hKept⟩
  have hWoken := woken_of_run hDelay hPositive hFresh hRun
  refine ⟨?_, hWoken, ?_, map_id_schedule _ _ _,
    Run.run_outputs relay_of_move? hRun⟩
  · intro past random r later k id request hSplit _ hAnswer
    subst hSplit
    have hIssue := Move.issue?_of_answer hAnswer
    have hStatus := hKept.invoiceStatus_iff hFresh hIssue
    refine ⟨hStatus, ?_, ?_⟩
    · intro hClose
      rw [hStatus, closedBefore_of_mem hWait hClose]
      simp
    · intro hMem due ms others
      have hSettled := (settledByHand_iff hFresh hIssue).mpr hMem
      exact hKept.fire_of_settledByHand (t := ⟨due, id⟩) hFresh
        hSettled ms others
  · rw [hWoken]
    exact (pairwise_schedule _ _ _).filter _

/- An invoice settles by itself, one by hand, and one not at all. -/
def shortDay : List Move :=
  [.createInvoice [1] (.ofSat 1), .advance 400,
   .createInvoice [2] (.ofSat 2), .settle Shared.secondId,
   .advance 700, .createInvoice [3] (.ofSat 3), .close,
   .advance 5000]

/- The wallet before that, whose invoices wait for a second. -/
def dawn : Ledger :=
  build ⟨some 1000⟩ ⟨.fake, "agent", 5, 1⟩

/- The wallet after that. -/
def dusk : Ledger :=
  (shortDay.foldlM move? dawn).getD dawn

/- The id of the invoice that is issued last. -/
def lastId : String :=
  idOf (Crypto.Sha256.hash [3])

/- The wallet after the first of its moves. -/
def inShortDay (n : Nat) : Ledger :=
  ((shortDay.take n).foldlM move? dawn).getD dawn

/- Only the first invoice settles by itself, after a second. -/
theorem auto_settlement_exact_of_shortDay :
    (issuedBy shortDay).Nodup ∧
      shortDay.foldlM move? dawn = some dusk ∧
      dusk.invoiceStatus Shared.firstId ≠ .pending ∧
      dusk.invoiceStatus Shared.secondId ≠ .pending ∧
      dusk.invoiceStatus lastId = .pending ∧
      Run.outputs move? woken dawn shortDay =
        [⟨1000, Shared.firstId⟩] := by
  have hFacts :
      (issuedBy shortDay).Nodup ∧
        shortDay.foldlM move? dawn = some dusk ∧
        (shortDay.take 2).foldlM move? dawn = some (inShortDay 2) ∧
        (shortDay.take 5).foldlM move? dawn = some (inShortDay 5) ∧
        (dawn.createInvoice [1] (.ofSat 1)).1 =
          .success Shared.firstId
            (paymentRequestOf 1 Shared.firstId) ∧
        ((inShortDay 2).createInvoice [2] (.ofSat 2)).1 =
          .success Shared.secondId
            (paymentRequestOf 2 Shared.secondId) ∧
        ((inShortDay 5).createInvoice [3] (.ofSat 3)).1 =
          .success lastId (paymentRequestOf 3 lastId) ∧
        .settle lastId ∉ shortDay ∧
        (schedule 1000 0 shortDay).filter
          (settlesItself shortDay) = [⟨1000, Shared.firstId⟩] := by
    decide +kernel
  rcases hFacts with
    ⟨hFresh, hRun, hTwo, hFive, hFirst, hSecond, hLast, hNever,
      hSettles⟩
  rcases auto_settlement_exact rfl (by decide) hFresh hRun with
    ⟨hInvoices, hWoken, _⟩
  have hOne :=
    hInvoices [] [1] (.ofSat 1) (shortDay.drop 1) dawn _ _ rfl rfl
      hFirst
  have hOther :=
    hInvoices (shortDay.take 2) [2] (.ofSat 2) (shortDay.drop 3)
      (inShortDay 2) _ _ rfl hTwo hSecond
  have hThird :=
    hInvoices (shortDay.take 5) [3] (.ofSat 3) (shortDay.drop 6)
      (inShortDay 5) _ _ rfl hFive hLast
  refine ⟨hFresh, hRun, hOne.1.mpr (.inr (by decide)),
    hOther.1.mpr (.inl (.head _)), ?_, hWoken.trans hSettles⟩
  apply Decidable.of_not_not
  intro hPaid
  rcases hThird.1.mp hPaid with hHand | ⟨_, hOpen⟩
  · exact hNever (List.mem_of_mem_drop hHand)
  · exact absurd hOpen (by decide)

/-
  A delay of more than thirty years is cut off, so an invoice
  may settle by itself before its whole delay is over.
-/
theorem not_all_settle_after_whole_delay :
    ¬ ∀ (s : FakeSettings)
        (f : FundingSettings)
        (d : UInt64)
        (moves : List Move)
        (l : Ledger),
      s.autoSettleMs = some d →
      0 < d →
      (issuedBy moves).Nodup →
      moves.foldlM move? (build s f) = some l →
      ∀ past random r later k id request,
        moves = past ++ .createInvoice random r :: later →
        past.foldlM move? (build s f) = some k →
        (k.createInvoice random r).1 = .success id request →
        (l.invoiceStatus id ≠ .pending ↔
          .settle id ∈ later ∨
            (clock past + d.toNat ≤ clock moves ∧
              closedBefore (clock past + d.toNat) moves =
                false)) := by
  intro hAll
  have hStatus :=
    hAll ⟨some 18446744073709551615⟩ ⟨.fake, "agent", 5, 1⟩
      18446744073709551615
      [.createInvoice [1] (.ofSat 1), .advance 1000000000000]
      (((build ⟨some 18446744073709551615⟩
        ⟨.fake, "agent", 5, 1⟩).createInvoice [1]
          (.ofSat 1)).2.advance 1000000000000)
      rfl (by decide) (by decide +kernel) rfl
      [] [1] (.ofSat 1) [.advance 1000000000000] _
      Shared.firstId (paymentRequestOf 1 Shared.firstId) rfl rfl
      rfl
  have hSettled := hStatus.mp (by decide +kernel)
  revert hSettled
  decide +kernel

end Ledger

end LightningGateway
