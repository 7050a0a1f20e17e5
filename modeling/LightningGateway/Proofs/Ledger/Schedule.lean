import LightningGateway.Proofs.Ledger.Record

/-
  Moves of a wallet in memory, and the times they set.

  A host makes one move after another: it issues invoices, sends
  payments, settles by hand, lets time pass, and closes the
  wallet, while readers use the queue.  What the clock shows,
  when an invoice is due, and whether something has happened
  before a certain time can be read off the moves alone.

  Key definitions include:
    * `Ledger.Move`
    * `Ledger.move?`
    * `Ledger.clock`
    * `Ledger.schedule`
    * `Ledger.happens`
    * `Ledger.isRunning`, `Ledger.runsOut`
    * `Ledger.settlesItself`

  Main results:
    * `Ledger.happens_iff`
    * `Ledger.pairwise_schedule`
    * `Ledger.settledByHand_iff`
    * `Ledger.settlesItself_snoc`
    * `Ledger.hasRunOut_snoc`
-/

namespace LightningGateway

open Payment Relay Settings

namespace Ledger

------------------------------------------------------------
-- Moves
------------------------------------------------------------

/- What a host and its readers do with a wallet in memory. -/
inductive Move where
  | createInvoice (random : List UInt8) (r : InvoiceRequest)
  | payInvoice (random : List UInt8) (paymentRequest : String)
  | settle (id : String)
  | advance (ms : Nat)
  | use (o : RelayQueue.Operation)
  | close
  deriving DecidableEq

/- The wallet after a move, if the queue can be used like that. -/
def move?
    (l : Ledger) : Move → Option Ledger
  | .createInvoice random r => some (l.createInvoice random r).2
  | .payInvoice random request =>
      some (l.payInvoice random request).2
  | .settle id => some ((l.settle id).toOption.getD l)
  | .advance ms => some (l.advance ms)
  | .use o =>
      (l.relay.step? o).map fun q => { l with relay := q }
  | .close => some l.close

/- The id of the invoice that a move issues, if it issues one. -/
def Move.issue? : Move → Option String
  | .createInvoice random r =>
      (Act.createInvoice random r).issue?.map Issue.id
  | _ => none

/- How long a move takes. -/
def Move.duration : Move → Nat
  | .advance ms => ms
  | _ => 0

/- The ids of the invoices that some moves issue. -/
def issuedBy (moves : List Move) : List String :=
  moves.filterMap Move.issue?

/- What the clock shows after some moves. -/
def clock : List Move → Nat
  | [] => 0
  | m :: rest => m.duration + clock rest

/-
  When the invoices of some moves are due that are made after a
  time, if each has to wait for as long, in the order in which
  they are issued.
-/
def schedule
    (wait start : Nat) : List Move → List Timer
  | [] => []
  | m :: rest =>
      (m.issue?.map (⟨start + wait, ·⟩)).toList ++
        schedule wait (start + m.duration) rest

/-
  Whether a move is made that has a property together with the
  moves before it.
-/
def happens
    (p : List Move → Move → Bool)
    (past : List Move) : List Move → Bool
  | [] => false
  | m :: rest => p past m || happens p (past ++ [m]) rest

/- Whether the wallet is closed before a time. -/
def closedBefore
    (due : Nat)
    (moves : List Move) : Bool :=
  happens (fun past m => m == .close && clock past < due) [] moves

/- Whether an invoice is settled by hand. -/
def settledByHand
    (id : String)
    (moves : List Move) : Bool :=
  happens
    (fun past m => m == .settle id && id ∈ issuedBy past) [] moves

/- Whether an invoice is settled by hand before it is due. -/
def forestalled
    (t : Timer)
    (moves : List Move) : Bool :=
  happens
    (fun past m =>
      m == .settle t.id && t.id ∈ issuedBy past &&
        clock past < t.due)
    [] moves

------------------------------------------------------------
-- One Move More
------------------------------------------------------------

/- To settle by hand is to do what a timer does. -/
theorem move?_settle
    (l : Ledger)
    (t : Timer) :
    l.move? (.settle t.id) = some (l.fire t) := by
  rw [move?, fire]
  cases l.settle t.id <;> rfl

/- An answer with an invoice is given by a move that issues it. -/
theorem Move.issue?_of_answer
    {l : Ledger}
    {random : List UInt8}
    {r : InvoiceRequest}
    {id request : String}
    (hAnswer : (l.createInvoice random r).1 = .success id request) :
    (Move.createInvoice random r).issue? = some id := by
  unfold Ledger.createInvoice at hAnswer
  cases hAmount : r.amount with
  | error e =>
      rw [hAmount] at hAnswer
      cases hAnswer
  | ok amount =>
      rw [hAmount] at hAnswer
      dsimp only at hAnswer
      rw [Move.issue?, Act.issue?_of_ok random hAmount,
        Option.map_some]
      generalize idOf (Crypto.Sha256.hash random) = i at *
      cases hAnswer
      rfl

/- A move that issues an invoice takes no time. -/
theorem Move.duration_of_issue?
    {m : Move}
    {id : String}
    (hIssue : m.issue? = some id) :
    m.duration = 0 := by
  cases m with
  | createInvoice random r => rfl
  | _ => cases hIssue

/- One move more issues its invoice last. -/
theorem issuedBy_snoc
    (past : List Move)
    (m : Move) :
    issuedBy (past ++ [m]) = issuedBy past ++ m.issue?.toList := by
  rw [issuedBy, List.filterMap_append]
  cases hIssue : m.issue? <;> simp [issuedBy, hIssue]

/- Ids that are distinct were so before. -/
theorem nodup_issuedBy_of_snoc
    {past : List Move}
    {m : Move}
    (hFresh : (issuedBy (past ++ [m])).Nodup) :
    (issuedBy past).Nodup := by
  rw [issuedBy_snoc] at hFresh
  exact (List.nodup_append.mp hFresh).1

/- The clock goes on by moves. -/
theorem clock_append (past later : List Move) :
    clock (past ++ later) = clock past + clock later := by
  induction past with
  | nil => exact (Nat.zero_add _).symm
  | cons first rest ih =>
      rw [List.cons_append, clock, ih, clock, Nat.add_assoc]

/- The clock goes on by one move. -/
theorem clock_snoc
    (past : List Move)
    (m : Move) :
    clock (past ++ [m]) = clock past + m.duration := by
  rw [clock_append]
  simp [clock]

/- One move more is scheduled last. -/
theorem schedule_snoc
    (wait start : Nat)
    (past : List Move)
    (m : Move) :
    schedule wait start (past ++ [m]) =
      schedule wait start past ++
        (m.issue?.map (⟨start + clock past + wait, ·⟩)).toList := by
  induction past generalizing start with
  | nil => simp [schedule, clock]
  | cons first rest ih =>
      have hClock :
          start + first.duration + clock rest =
            start + clock (first :: rest) := by
        rw [Nat.add_assoc]
        rfl
      rw [List.cons_append, schedule, ih, schedule,
        List.append_assoc, hClock]

/- One move more may be the one that happens. -/
theorem happens_snoc
    {p : List Move → Move → Bool}
    (past moves : List Move)
    (m : Move) :
    happens p past (moves ++ [m]) =
      (happens p past moves || p (past ++ moves) m) := by
  induction moves generalizing past with
  | nil => simp [happens]
  | cons first rest ih =>
      rw [List.cons_append, happens, ih, happens, Bool.or_assoc,
        List.append_assoc, List.singleton_append]

/- What happens does so between moves before and after it. -/
theorem happens_iff
    {p : List Move → Move → Bool}
    {moves : List Move} :
    happens p [] moves = true ↔
      ∃ before m after, moves = before ++ m :: after ∧
        p before m = true := by
  induction moves using List.reverseRecOn with
  | nil => simp [happens]
  | append_singleton past m ih =>
      rw [happens_snoc, List.nil_append, Bool.or_eq_true, ih]
      constructor
      · rintro (⟨before, n, after, rfl, hNow⟩ | hNow)
        · exact ⟨before, n, after ++ [m], by simp, hNow⟩
        · exact ⟨past, m, [], rfl, hNow⟩
      · rintro ⟨before, n, after, hSplit, hNow⟩
        rcases List.eq_nil_or_concat after with
          rfl | ⟨rest, last, rfl⟩
        · rcases List.append_inj' hSplit rfl with ⟨rfl, hSame⟩
          cases hSame
          exact .inr hNow
        · rw [List.concat_eq_append, ← List.cons_append,
            ← List.append_assoc] at hSplit
          rcases List.append_inj' hSplit rfl with ⟨rfl, _⟩
          exact .inl ⟨before, n, rest, rfl, hNow⟩

------------------------------------------------------------
-- Schedules
------------------------------------------------------------

/- What is scheduled are the invoices that are issued. -/
theorem map_id_schedule
    (wait start : Nat)
    (moves : List Move) :
    (schedule wait start moves).map Timer.id = issuedBy moves := by
  induction moves generalizing start with
  | nil => rfl
  | cons m rest ih =>
      rw [schedule, List.map_append, ih]
      cases hIssue : m.issue? <;> simp [issuedBy, hIssue]

/- When an invoice is due is told by the move that issues it. -/
theorem mem_schedule_of_issue?
    {past later : List Move}
    {m : Move}
    {id : String}
    (wait : Nat)
    (hIssue : m.issue? = some id) :
    ⟨clock past + wait, id⟩ ∈
      schedule wait 0 (past ++ m :: later) := by
  induction later using List.reverseRecOn with
  | nil =>
      rw [schedule_snoc, hIssue, Nat.zero_add]
      exact List.mem_append_right _ (.head [])
  | append_singleton rest last ih =>
      rw [← List.cons_append, ← List.append_assoc, schedule_snoc]
      exact List.mem_append_left _ ih

/- Nothing is due before it has waited. -/
theorem le_due_of_mem_schedule
    {wait start : Nat}
    {moves : List Move}
    {t : Timer}
    (hMem : t ∈ schedule wait start moves) :
    start + wait ≤ t.due := by
  induction moves generalizing start with
  | nil => cases hMem
  | cons m rest ih =>
      rw [schedule, List.mem_append] at hMem
      rcases hMem with hFirst | hRest
      · rcases Option.map_eq_some_iff.mp
            (Option.mem_toList.mp hFirst) with ⟨id, _, rfl⟩
        exact Nat.le_refl _
      · have hLater := ih hRest
        omega

/- What is issued earlier is due earlier, or at the same time. -/
theorem pairwise_schedule
    (wait start : Nat)
    (moves : List Move) :
    (schedule wait start moves).Pairwise (·.due ≤ ·.due) := by
  induction moves generalizing start with
  | nil => exact .nil
  | cons m rest ih =>
      rw [schedule, List.pairwise_append]
      refine ⟨?_, ih _, ?_⟩
      · cases m.issue? with
        | none => exact .nil
        | some id => exact List.pairwise_singleton _ _
      · intro t hFirst u hRest
        rcases Option.map_eq_some_iff.mp
            (Option.mem_toList.mp hFirst) with ⟨id, _, rfl⟩
        have hLater := le_due_of_mem_schedule hRest
        dsimp only
        omega

/- An id that is issued once is scheduled once. -/
theorem eq_of_mem_schedule
    {wait start : Nat}
    {moves : List Move}
    (hFresh : (issuedBy moves).Nodup)
    {t u : Timer}
    (hFirst : t ∈ schedule wait start moves)
    (hSecond : u ∈ schedule wait start moves)
    (hId : t.id = u.id) :
    t = u := by
  rw [← map_id_schedule wait start] at hFresh
  exact List.inj_on_of_nodup_map hFresh hFirst hSecond hId

/-
  Of timers in the order in which they run out, those that are
  chosen among the earlier ones stand before those that are
  chosen among the later ones.
-/
theorem filter_append_filter
    {timers : List Timer}
    {p q : Timer → Bool}
    {now : Nat}
    (hSorted : timers.Pairwise (·.due ≤ ·.due))
    (hEarly : ∀ t, p t = true → t.due ≤ now)
    (hLate : ∀ t, q t = true → now < t.due) :
    timers.filter p ++ timers.filter q =
      timers.filter (fun t => p t || q t) := by
  induction timers with
  | nil => rfl
  | cons t rest ih =>
      rcases List.pairwise_cons.mp hSorted with ⟨hFirst, hRest⟩
      by_cases hOver : t.due ≤ now
      · have hNot : q t = false := by
          apply eq_false_of_ne_true
          intro hChosen
          have hAfter := hLate t hChosen
          omega
        rw [List.filter_cons, List.filter_cons, List.filter_cons,
          hNot, Bool.or_false, ← ih hRest]
        cases p t <;> simp
      · -- No timer from here on is early, as they are sorted.
        have hNone : (t :: rest).filter p = [] := by
          apply List.filter_eq_nil_iff.mpr
          intro u hMem hChosen
          have hBefore := hEarly u hChosen
          rcases List.mem_cons.mp hMem with rfl | hIn
          · exact hOver hBefore
          · have hOrder := hFirst u hIn
            omega
        rw [hNone, List.nil_append]
        apply List.filter_congr
        intro u hMem
        rw [eq_false_of_ne_true
          (List.filter_eq_nil_iff.mp hNone u hMem),
          Bool.false_or]

------------------------------------------------------------
-- What Moves Tell
------------------------------------------------------------

/- One move more may close the wallet. -/
theorem closedBefore_snoc
    (due : Nat)
    (past : List Move)
    (m : Move) :
    closedBefore due (past ++ [m]) =
      (closedBefore due past ||
        (m == .close && clock past < due)) :=
  happens_snoc [] past m

/- One move more may settle an invoice. -/
theorem settledByHand_snoc
    (id : String)
    (past : List Move)
    (m : Move) :
    settledByHand id (past ++ [m]) =
      (settledByHand id past ||
        (m == .settle id && id ∈ issuedBy past)) :=
  happens_snoc [] past m

/- It may do so in time. -/
theorem forestalled_snoc
    (t : Timer)
    (past : List Move)
    (m : Move) :
    forestalled t (past ++ [m]) =
      (forestalled t past ||
        (m == .settle t.id && t.id ∈ issuedBy past &&
          clock past < t.due)) :=
  happens_snoc [] past m

/- A wallet is closed before a time to come if it is closed. -/
theorem closedBefore_iff
    {past : List Move}
    {due : Nat}
    (hLater : clock past < due) :
    closedBefore due past = true ↔ .close ∈ past := by
  rw [closedBefore, happens_iff]
  constructor
  · rintro ⟨before, m, after, rfl, hClose⟩
    rw [Bool.and_eq_true, beq_iff_eq] at hClose
    simp [hClose.1]
  · intro hMem
    rcases List.append_of_mem hMem with ⟨before, after, rfl⟩
    rw [clock_append] at hLater
    have hBefore : clock before < due := by omega
    exact ⟨before, .close, after, rfl, by simp [hBefore]⟩

/- An invoice is too late for a wallet that is closed. -/
theorem closedBefore_of_mem
    {wait : Nat}
    (hWait : 0 < wait)
    {past : List Move}
    (hMem : .close ∈ past)
    (later : List Move) :
    closedBefore (clock past + wait) (past ++ later) = true := by
  rw [closedBefore, happens_iff]
  rcases List.append_of_mem hMem with ⟨before, after, rfl⟩
  refine ⟨before, .close, after ++ later, by simp, ?_⟩
  have hBefore :
      clock before < clock (before ++ .close :: after) + wait := by
    rw [clock_append]
    omega
  simp [hBefore]

/- An invoice is settled by hand after it is issued. -/
theorem settledByHand_iff
    {past later : List Move}
    {m : Move}
    {id : String}
    (hFresh : (issuedBy (past ++ m :: later)).Nodup)
    (hIssue : m.issue? = some id) :
    settledByHand id (past ++ m :: later) = true ↔
      .settle id ∈ later := by
  have hNew : id ∉ issuedBy past := by
    rw [issuedBy, List.filterMap_append,
      List.filterMap_cons_some hIssue, List.nodup_append] at hFresh
    exact fun hMem => hFresh.2.2 _ hMem _ (.head _) rfl
  rw [settledByHand, happens_iff]
  constructor
  · rintro ⟨before, n, after, hSplit, hSettle⟩
    rw [Bool.and_eq_true, beq_iff_eq, decide_eq_true_iff] at hSettle
    rcases hSettle with ⟨rfl, hIssued⟩
    -- The issue is before the settlement, at it, or after it.
    rcases List.append_eq_append_iff.mp hSplit with
      ⟨rest, hBefore, hLater⟩ | ⟨rest, hPast, _⟩
    · cases rest with
      | nil =>
          rw [List.nil_append, List.cons.injEq] at hLater
          rw [hLater.1] at hIssue
          cases hIssue
      | cons first rest =>
          rw [List.cons_append, List.cons.injEq] at hLater
          simp [hLater.2]
    · rw [hPast, issuedBy, List.filterMap_append,
        List.mem_append] at hNew
      exact absurd (.inl hIssued) hNew
  · intro hMem
    rcases List.append_of_mem hMem with ⟨before, after, rfl⟩
    refine ⟨past ++ m :: before, .settle id, after, by simp, ?_⟩
    rw [issuedBy, List.filterMap_append,
      List.filterMap_cons_some hIssue]
    simp

/- What is due later is settled by hand in time, if at all. -/
theorem forestalled_eq
    {past : List Move}
    {t : Timer}
    (hLater : clock past < t.due) :
    forestalled t past = settledByHand t.id past := by
  rw [Bool.eq_iff_iff, forestalled, settledByHand, happens_iff,
    happens_iff]
  constructor
  · rintro ⟨before, m, after, hSplit, hSettle⟩
    rw [Bool.and_eq_true] at hSettle
    exact ⟨before, m, after, hSplit, hSettle.1⟩
  · rintro ⟨before, m, after, rfl, hSettle⟩
    rw [clock_append] at hLater
    have hBefore : clock before < t.due := by omega
    refine ⟨before, m, after, rfl, ?_⟩
    rw [Bool.and_eq_true]
    exact ⟨hSettle, decide_eq_true hBefore⟩

------------------------------------------------------------
-- Running Out
------------------------------------------------------------

/- Whether a timer is running: not due yet, and not stopped. -/
def isRunning
    (moves : List Move)
    (t : Timer) : Bool :=
  clock moves < t.due && !closedBefore t.due moves

/- Whether a timer has run out before the wallet is closed. -/
def runsOut
    (moves : List Move)
    (t : Timer) : Bool :=
  t.due ≤ clock moves && !closedBefore t.due moves

/- Whether a timer that is running does so in one move more. -/
def runsOutIn
    (past : List Move)
    (m : Move)
    (t : Timer) : Bool :=
  isRunning past t && t.due ≤ clock (past ++ [m])

/-
  Whether a timer settles its invoice: it runs out before the
  wallet is closed, and before anybody has settled the invoice.
-/
def settlesItself
    (moves : List Move)
    (t : Timer) : Bool :=
  runsOut moves t && !forestalled t moves

/- Whether the timer of an invoice has run out. -/
def hasRunOut
    (wait : Nat)
    (id : String)
    (moves : List Move) : Bool :=
  ((schedule wait 0 moves).filter (runsOut moves)).any (·.id == id)

/- What is closed at the end is open when time passes. -/
theorem closedBefore_snoc_of_le
    {past : List Move}
    {m : Move}
    {due : Nat}
    (hDue : due ≤ clock (past ++ [m])) :
    closedBefore due (past ++ [m]) = closedBefore due past := by
  rw [clock_snoc] at hDue
  rw [closedBefore_snoc]
  by_cases hClose : m = .close
  · have hDuration : m.duration = 0 := by rw [hClose]; rfl
    have hPast : ¬clock past < due := by omega
    simp [hPast]
  · simp [hClose]

/- Nor does somebody settle by hand while time passes. -/
theorem forestalled_snoc_of_le
    {past : List Move}
    {m : Move}
    {t : Timer}
    (hDue : t.due ≤ clock (past ++ [m])) :
    forestalled t (past ++ [m]) = forestalled t past := by
  rw [clock_snoc] at hDue
  rw [forestalled_snoc]
  by_cases hSettle : m = .settle t.id
  · have hDuration : m.duration = 0 := by rw [hSettle]; rfl
    have hPast : ¬clock past < t.due := by omega
    simp [hPast]
  · simp [hSettle]

/- What is running is not due yet. -/
theorem lt_of_isRunning
    {moves : List Move}
    {t : Timer}
    (hRunning : isRunning moves t = true) :
    clock moves < t.due := by
  rw [isRunning, Bool.and_eq_true, decide_eq_true_iff] at hRunning
  exact hRunning.1

/- A timer that is running goes on until it is due or stopped. -/
theorem isRunning_snoc
    (past : List Move)
    (m : Move)
    (t : Timer) :
    isRunning (past ++ [m]) t =
      (isRunning past t &&
        (clock (past ++ [m]) < t.due && m != .close)) := by
  rw [isRunning, isRunning, closedBefore_snoc]
  by_cases hLater : clock (past ++ [m]) < t.due
  · have hBefore : clock past < t.due := by
      rw [clock_snoc] at hLater
      omega
    cases closedBefore t.due past <;>
      simp [hLater, hBefore, bne]
  · simp [hLater]

/- It goes on if no time passes and the wallet stays open. -/
theorem isRunning_snoc_of_instant
    {m : Move}
    (hInstant : m.duration = 0)
    (hOpen : m ≠ .close)
    (past : List Move)
    (t : Timer) :
    isRunning (past ++ [m]) t = isRunning past t := by
  rw [isRunning_snoc, clock_snoc, hInstant, Nat.add_zero,
    bne_iff_ne.mpr hOpen, Bool.and_true, Bool.and_eq_left_iff_imp]
  intro hRunning
  exact decide_eq_true (lt_of_isRunning hRunning)

/- In one move more the timers run out that run out in it. -/
theorem runsOut_snoc
    (past : List Move)
    (m : Move)
    (t : Timer) :
    runsOut (past ++ [m]) t =
      (runsOut past t || runsOutIn past m t) := by
  rw [runsOutIn, runsOut, runsOut, isRunning]
  by_cases hDue : t.due ≤ clock (past ++ [m])
  · rw [closedBefore_snoc_of_le hDue]
    by_cases hOver : t.due ≤ clock past
    · have hNot : ¬clock past < t.due := by omega
      simp [hDue, hOver, hNot]
    · have hLater : clock past < t.due := by omega
      simp [hDue, hOver, hLater]
  · have hNot : ¬t.due ≤ clock past := by
      rw [clock_snoc] at hDue
      omega
    simp [hDue, hNot]

/- What has run out is due. -/
theorem due_le_of_runsOut
    {moves : List Move}
    {t : Timer}
    (hOut : runsOut moves t = true) :
    t.due ≤ clock moves := by
  rw [runsOut, Bool.and_eq_true, decide_eq_true_iff] at hOut
  exact hOut.1

/- What runs out in a move was not due before it. -/
theorem lt_of_runsOutIn
    {past : List Move}
    {m : Move}
    {t : Timer}
    (hOut : runsOutIn past m t = true) :
    clock past < t.due :=
  lt_of_isRunning (Bool.and_eq_true _ _ ▸ hOut).1

/- In one move more they settle what is not settled yet. -/
theorem settlesItself_snoc
    (past : List Move)
    (m : Move)
    (t : Timer) :
    settlesItself (past ++ [m]) t =
      (settlesItself past t ||
        (runsOutIn past m t && !forestalled t past)) := by
  have hSame :
      settlesItself (past ++ [m]) t =
        (runsOut (past ++ [m]) t && !forestalled t past) := by
    rw [settlesItself]
    cases hOut : runsOut (past ++ [m]) t with
    | false => rfl
    | true => rw [forestalled_snoc_of_le (due_le_of_runsOut hOut)]
  rw [hSame, runsOut_snoc, Bool.and_or_distrib_right,
    settlesItself]

/-
  A timer that is new has not run out yet, so those that are
  chosen among the timers that have were set before the move.
-/
theorem filter_schedule_snoc
    {wait : Nat}
    (hWait : 0 < wait)
    {past : List Move}
    {m : Move}
    {p : Timer → Bool}
    (hEarly :
      ∀ t, p t = true → t.due ≤ clock (past ++ [m])) :
    (schedule wait 0 (past ++ [m])).filter p =
      (schedule wait 0 past).filter p := by
  rw [schedule_snoc, List.filter_append,
    List.append_right_eq_self, List.filter_eq_nil_iff]
  intro t hNew hChosen
  have hDue := hEarly t hChosen
  rcases Option.map_eq_some_iff.mp
      (Option.mem_toList.mp hNew) with ⟨id, hIssue, rfl⟩
  rw [clock_snoc, Move.duration_of_issue? hIssue] at hDue
  dsimp only at hDue
  omega

/- The timer of an invoice is the one that was set for it. -/
theorem hasRunOut_eq
    {wait : Nat}
    {moves : List Move}
    {t : Timer}
    (hFresh : (issuedBy moves).Nodup)
    (hMem : t ∈ schedule wait 0 moves) :
    hasRunOut wait t.id moves = runsOut moves t := by
  rw [Bool.eq_iff_iff, hasRunOut, List.any_eq_true]
  constructor
  · rintro ⟨u, hOut, hSame⟩
    rw [List.mem_filter] at hOut
    rw [← eq_of_mem_schedule hFresh hOut.1 hMem
      (beq_iff_eq.mp hSame)]
    exact hOut.2
  · intro hOut
    exact ⟨t, List.mem_filter.mpr ⟨hMem, hOut⟩, beq_self_eq_true _⟩

/- So the timers of a move were set before it. -/
theorem hasRunOut_snoc
    {wait : Nat}
    (hWait : 0 < wait)
    (id : String)
    (past : List Move)
    (m : Move) :
    hasRunOut wait id (past ++ [m]) =
      (hasRunOut wait id past ||
        ((schedule wait 0 past).filter (runsOutIn past m)).any
          (·.id == id)) := by
  rw [hasRunOut, hasRunOut, ← List.any_append,
    filter_schedule_snoc hWait (fun _ => due_le_of_runsOut),
    filter_append_filter (pairwise_schedule wait 0 past)
      (fun _ => due_le_of_runsOut) (fun _ => lt_of_runsOutIn)]
  congr 2
  funext t
  exact runsOut_snoc past m t

/- In a move that takes no time no timer runs out. -/
theorem runsOutIn_of_instant
    {past : List Move}
    {m : Move}
    (hInstant : m.duration = 0)
    (t : Timer) :
    runsOutIn past m t = false := by
  apply eq_false_of_ne_true
  intro hOut
  have hLater := lt_of_runsOutIn hOut
  rw [runsOutIn, Bool.and_eq_true, decide_eq_true_iff, clock_snoc,
    hInstant] at hOut
  omega

/- So none has run out that had not before. -/
theorem hasRunOut_snoc_of_instant
    {wait : Nat}
    (hWait : 0 < wait)
    {m : Move}
    (hInstant : m.duration = 0)
    {id : String}
    {past : List Move} :
    hasRunOut wait id (past ++ [m]) = hasRunOut wait id past := by
  have hNone :
      (schedule wait 0 past).filter (runsOutIn past m) = [] := by
    rw [List.filter_eq_nil_iff]
    intro t _ hOut
    rw [runsOutIn_of_instant hInstant] at hOut
    cases hOut
  rw [hasRunOut_snoc hWait, hNone, List.any_nil, Bool.or_false]

end Ledger

end LightningGateway
