import LightningGateway.Proofs.Run
import LightningGateway.Relay

/-
  The history of a relay queue.

  A queue is used by webhooks that push, by the wallet that
  hands its reading end out or closes it, and by whoever holds
  the reading end.  They do so in any order, and what each got
  is noted in a log.

  While somebody can still read, the hashes that were accepted
  are those that were received and then those that wait.

  Key definitions include:
    * `RelayQueue.Operation`
    * `RelayQueue.Entry`
    * `RelayQueue.perform?`
    * `RelayQueue.log`
    * `RelayQueue.Rule`

  Main results:
    * `RelayQueue.Accounts.snoc`
    * `RelayQueue.accounts_of_run`
    * `RelayQueue.fifo_of_run`
-/

namespace LightningGateway.Relay

open Payment

/- The hash that an error hands back. -/
def RelayError.hash : RelayError → String
  | .full _ hash => hash
  | .closed hash => hash

namespace RelayQueue

------------------------------------------------------------
-- Operations
------------------------------------------------------------

/- What may be done with a queue and its reading end. -/
inductive Operation where
  | push (hash : String)
  | takeStream
  | receive
  | dropStream
  | close
  deriving DecidableEq, Repr

/- What came of an operation. -/
inductive Entry where
  | accepted (hash : String)
  | rejected (e : RelayError)
  | taken
  | refused (e : GatewayError)
  | received (hash : String)
  | dropped
  | closed
  deriving DecidableEq, Repr

/-
  What comes of an operation, and the queue after it.  Only who
  has taken the reading end can receive or drop it, and who
  receives waits until there is a hash.
-/
def perform?
    (q : RelayQueue) : Operation → Option (Entry × RelayQueue)
  | .push hash =>
      match q.push hash with
      | .ok next => some (.accepted hash, next)
      | .error e => some (.rejected e, q)
  | .takeStream =>
      match q.takeStream with
      | .ok next => some (.taken, next)
      | .error e => some (.refused e, q)
  | .receive =>
      if q.readingEnd = .taken then
        q.receive.map fun r => (.received r.1, r.2)
      else none
  | .dropStream =>
      if q.readingEnd = .taken then some (.dropped, q.dropStream)
      else none
  | .close => some (.closed, q.close)

/- The queue after an operation, if it is possible. -/
def step?
    (q : RelayQueue)
    (o : Operation) : Option RelayQueue :=
  (q.perform? o).map Prod.snd

/- The queue after some operations, if they are possible. -/
def run?
    (q : RelayQueue)
    (operations : List Operation) : Option RelayQueue :=
  operations.foldlM step? q

/- What one operation adds to the log. -/
def note
    (q : RelayQueue)
    (o : Operation) : List Entry :=
  ((q.perform? o).map Prod.fst).toList

/- What came of some operations, the oldest first. -/
def log
    (q : RelayQueue)
    (operations : List Operation) : List Entry :=
  Run.outputs step? note q operations

/- The hashes that were accepted. -/
def accepted (entries : List Entry) : List String :=
  entries.filterMap fun entry =>
    match entry with
    | .accepted hash => some hash
    | _ => none

/- The hashes that were received. -/
def received (entries : List Entry) : List String :=
  entries.filterMap fun entry =>
    match entry with
    | .received hash => some hash
    | _ => none

/- The hashes that were handed back. -/
def rejected (entries : List Entry) : List String :=
  entries.filterMap fun entry =>
    match entry with
    | .rejected e => some e.hash
    | _ => none

/- What more is accepted comes after what was accepted. -/
theorem accepted_append (entries more : List Entry) :
    accepted (entries ++ more) =
      accepted entries ++ accepted more :=
  List.filterMap_append

/- What more is received comes after what was received. -/
theorem received_append (entries more : List Entry) :
    received (entries ++ more) =
      received entries ++ received more :=
  List.filterMap_append

/- What more is handed back comes after what was. -/
theorem rejected_append (entries more : List Entry) :
    rejected (entries ++ more) =
      rejected entries ++ rejected more :=
  List.filterMap_append

------------------------------------------------------------
-- Rules
------------------------------------------------------------

/- What comes of an operation, one rule for each way. -/
inductive Rule
    (q : RelayQueue) : Operation → Entry → RelayQueue → Prop
  | accept
      (hash : String)
      (hAlive : q.readingEnd ≠ .gone)
      (hRoom : q.waiting.length < q.capacity) :
      Rule q (.push hash) (.accepted hash)
        { q with waiting := q.waiting ++ [hash] }
  | full
      (hash : String)
      (hAlive : q.readingEnd ≠ .gone)
      (hFull : q.capacity ≤ q.waiting.length) :
      Rule q (.push hash) (.rejected (.full q.capacity hash)) q
  | unread
      (hash : String)
      (hGone : q.readingEnd = .gone) :
      Rule q (.push hash) (.rejected (.closed hash)) q
  | take (hKept : q.readingEnd = .kept) :
      Rule q .takeStream .taken { q with readingEnd := .taken }
  | refuse (hKept : q.readingEnd ≠ .kept) :
      Rule q .takeStream (.refused .streamTaken) q
  | receive
      (hash : String)
      (rest : List String)
      (hTaken : q.readingEnd = .taken)
      (hWaiting : q.waiting = hash :: rest) :
      Rule q .receive (.received hash) { q with waiting := rest }
  | drop (hTaken : q.readingEnd = .taken) :
      Rule q .dropStream .dropped q.abandoned
  | close (hKept : q.readingEnd = .kept) :
      Rule q .close .closed q.abandoned
  | closeLate (hKept : q.readingEnd ≠ .kept) :
      Rule q .close .closed q

/- A push to a queue that nobody can read. -/
theorem push_of_gone
    {q : RelayQueue}
    (hGone : q.readingEnd = .gone)
    (hash : String) :
    q.push hash = .error (.closed hash) := by
  rw [push, if_pos hGone]

/- A push to a queue with room. -/
theorem push_of_room
    {q : RelayQueue}
    (hAlive : q.readingEnd ≠ .gone)
    (hRoom : q.waiting.length < q.capacity)
    (hash : String) :
    q.push hash =
      .ok { q with waiting := q.waiting ++ [hash] } := by
  rw [push, if_neg hAlive, if_pos hRoom]

/- A push to a full queue. -/
theorem push_of_full
    {q : RelayQueue}
    (hAlive : q.readingEnd ≠ .gone)
    (hFull : q.capacity ≤ q.waiting.length)
    (hash : String) :
    q.push hash = .error (.full q.capacity hash) := by
  rw [push, if_neg hAlive, if_neg (Nat.not_lt.mpr hFull)]

/- Whatever comes of an operation follows one of the rules. -/
theorem rule_of_perform?
    {q next : RelayQueue}
    {o : Operation}
    {entry : Entry}
    (hPerform : q.perform? o = some (entry, next)) :
    Rule q o entry next := by
  cases o with
  | push hash =>
      by_cases hGone : q.readingEnd = .gone
      · simp only [perform?, push_of_gone hGone] at hPerform
        cases hPerform
        exact .unread hash hGone
      · by_cases hRoom : q.waiting.length < q.capacity
        · simp only [perform?, push_of_room hGone hRoom]
            at hPerform
          cases hPerform
          exact .accept hash hGone hRoom
        · have hFull := Nat.not_lt.mp hRoom
          simp only [perform?, push_of_full hGone hFull]
            at hPerform
          cases hPerform
          exact .full hash hGone hFull
  | takeStream =>
      by_cases hKept : q.readingEnd = .kept
      · simp only [perform?, takeStream, if_pos hKept]
          at hPerform
        cases hPerform
        exact .take hKept
      · simp only [perform?, takeStream, if_neg hKept]
          at hPerform
        cases hPerform
        exact .refuse hKept
  | receive =>
      rcases Option.ite_none_right_eq_some.mp hPerform with
        ⟨hTaken, hSome⟩
      cases hWaiting : q.waiting with
      | nil => simp [RelayQueue.receive, hWaiting] at hSome
      | cons hash rest =>
          simp only [RelayQueue.receive, hWaiting] at hSome
          cases hSome
          exact .receive hash rest hTaken hWaiting
  | dropStream =>
      rcases Option.ite_none_right_eq_some.mp hPerform with
        ⟨hTaken, hSome⟩
      rw [dropStream, if_pos hTaken] at hSome
      cases hSome
      exact .drop hTaken
  | close =>
      by_cases hKept : q.readingEnd = .kept
      · simp only [perform?, RelayQueue.close, if_pos hKept]
          at hPerform
        cases hPerform
        exact .close hKept
      · simp only [perform?, RelayQueue.close, if_neg hKept]
          at hPerform
        cases hPerform
        exact .closeLate hKept

/- The log of one operation is what it adds. -/
theorem log_singleton
    (q : RelayQueue)
    (o : Operation) :
    q.log [o] = q.note o := by
  unfold log Run.outputs step? note
  cases q.perform? o <;> simp [Run.outputs]

/- What is pushed is accepted or handed back. -/
theorem log_push
    (q : RelayQueue)
    (hash : String) :
    (accepted (q.log [.push hash]) = [hash] ∧
        rejected (q.log [.push hash]) = []) ∨
      (accepted (q.log [.push hash]) = [] ∧
        rejected (q.log [.push hash]) = [hash]) := by
  rw [log_singleton]
  by_cases hGone : q.readingEnd = .gone
  · simp [note, perform?, push_of_gone hGone, accepted,
      rejected, RelayError.hash]
  · by_cases hRoom : q.waiting.length < q.capacity
    · simp [note, perform?, push_of_room hGone hRoom, accepted,
        rejected]
    · simp [note, perform?,
        push_of_full hGone (Nat.not_lt.mp hRoom), accepted,
        rejected, RelayError.hash]

/- Other operations accept nothing and hand nothing back. -/
theorem log_of_ne_push
    (q : RelayQueue)
    {o : Operation}
    (hOther : ∀ hash, o ≠ .push hash) :
    accepted (q.log [o]) = [] ∧ rejected (q.log [o]) = [] := by
  rw [log_singleton, note]
  cases hPerform : q.perform? o with
  | none => exact ⟨rfl, rfl⟩
  | some r =>
      rcases r with ⟨entry, next⟩
      cases rule_of_perform? hPerform with
      | accept hash => exact absurd rfl (hOther hash)
      | full hash => exact absurd rfl (hOther hash)
      | unread hash => exact absurd rfl (hOther hash)
      | _ => exact ⟨rfl, rfl⟩

------------------------------------------------------------
-- Accounts
------------------------------------------------------------

/-
  How a queue of some capacity agrees with its log.  The bound
  holds of queues that nobody can read as well.
-/
structure Accounts
    (capacity : Nat)
    (entries : List Entry)
    (q : RelayQueue) : Prop where
  capacity_eq : q.capacity = max capacity 1
  bounded : q.waiting.length ≤ q.capacity
  fifo :
    q.readingEnd ≠ .gone →
      accepted entries = received entries ++ q.waiting
  delivered : received entries <+: accepted entries
  kept_iff :
    q.readingEnd = .kept ↔
      .taken ∉ entries ∧ .closed ∉ entries
  gone_iff :
    q.readingEnd = .gone ↔
      .dropped ∈ entries ∨
        (.closed ∈ entries ∧ .taken ∉ entries)
  taken_once : entries.count .taken ≤ 1
  taken_early :
    entries.Pairwise fun first second =>
      first = .closed → second ≠ .taken

/- A new queue agrees with an empty log. -/
theorem accounts_ofCapacity (capacity : Nat) :
    Accounts capacity [] (ofCapacity capacity) where
  capacity_eq := rfl
  bounded := Nat.zero_le _
  fifo := fun _ => rfl
  delivered := List.prefix_rfl
  kept_iff := by simp [ofCapacity]
  gone_iff := by simp [ofCapacity]
  taken_once := Nat.zero_le _
  taken_early := List.Pairwise.nil

namespace Accounts

variable {capacity : Nat} {entries : List Entry}
variable {q : RelayQueue}

/-
  An entry that is no hand-out leaves the hand-outs as they are.
-/
theorem taken_of_ne
    (hAccounts : Accounts capacity entries q)
    {entry : Entry}
    (hEntry : entry ≠ .taken) :
    (entries ++ [entry]).count .taken ≤ 1 ∧
      (entries ++ [entry]).Pairwise fun first second =>
        first = .closed → second ≠ .taken := by
  constructor
  · have hNone : [entry].count .taken = 0 :=
      List.count_eq_zero_of_not_mem (by simpa using hEntry.symm)
    rw [List.count_append, hNone]
    exact hAccounts.taken_once
  · refine List.pairwise_append.mpr
      ⟨hAccounts.taken_early, List.pairwise_singleton _ _, ?_⟩
    intro first _ second hSecond _
    rw [List.mem_singleton.mp hSecond]
    exact hEntry

/- An operation that leaves the queue alone and says no more. -/
theorem snoc_idle
    (hAccounts : Accounts capacity entries q)
    {entry : Entry}
    (hTaken : entry ≠ .taken)
    (hDropped : entry ≠ .dropped)
    (hClosed : entry = .closed → q.readingEnd ≠ .kept)
    (hAccepted : accepted [entry] = [])
    (hReceived : received [entry] = []) :
    Accounts capacity (entries ++ [entry]) q := by
  have hSameAccepted :
      accepted (entries ++ [entry]) = accepted entries := by
    rw [accepted_append, hAccepted, List.append_nil]
  have hSameReceived :
      received (entries ++ [entry]) = received entries := by
    rw [received_append, hReceived, List.append_nil]
  constructor
  · exact hAccounts.capacity_eq
  · exact hAccounts.bounded
  · rw [hSameAccepted, hSameReceived]
    exact hAccounts.fifo
  · rw [hSameAccepted, hSameReceived]
    exact hAccounts.delivered
  · have hKept := hAccounts.kept_iff
    simp only [List.mem_append, List.mem_singleton]
    grind
  · -- A late close finds an end that was taken or is gone.
    have hKept := hAccounts.kept_iff
    have hGone := hAccounts.gone_iff
    simp only [List.mem_append, List.mem_singleton]
    grind
  · exact (hAccounts.taken_of_ne hTaken).1
  · exact (hAccounts.taken_of_ne hTaken).2

/-
  The reading end goes away and takes along what waits: what was
  received stays a beginning of what was accepted.
-/
theorem snoc_gone
    (hAccounts : Accounts capacity entries q)
    {entry : Entry}
    (hWay :
      (entry = .dropped ∧ q.readingEnd = .taken) ∨
        (entry = .closed ∧ q.readingEnd = .kept)) :
    Accounts capacity (entries ++ [entry]) q.abandoned := by
  have hTaken : entry ≠ .taken := by
    rcases hWay with ⟨rfl, _⟩ | ⟨rfl, _⟩ <;> simp
  have hAccepted : accepted [entry] = [] := by
    rcases hWay with ⟨rfl, _⟩ | ⟨rfl, _⟩ <;> rfl
  have hReceived : received [entry] = [] := by
    rcases hWay with ⟨rfl, _⟩ | ⟨rfl, _⟩ <;> rfl
  constructor
  · exact hAccounts.capacity_eq
  · exact Nat.zero_le _
  · intro hAlive
    exact absurd rfl hAlive
  · rw [accepted_append, received_append, hAccepted, hReceived,
      List.append_nil, List.append_nil]
    exact hAccounts.delivered
  · have hKept := hAccounts.kept_iff
    simp only [abandoned, List.mem_append, List.mem_singleton]
    grind
  · have hKept := hAccounts.kept_iff
    simp only [abandoned, List.mem_append, List.mem_singleton]
    grind
  · exact (hAccounts.taken_of_ne hTaken).1
  · exact (hAccounts.taken_of_ne hTaken).2

/- A hash that is accepted waits last. -/
theorem snoc_accepted
    (hAccounts : Accounts capacity entries q)
    (hash : String)
    (hAlive : q.readingEnd ≠ .gone)
    (hRoom : q.waiting.length < q.capacity) :
    Accounts capacity (entries ++ [.accepted hash])
      { q with waiting := q.waiting ++ [hash] } := by
  constructor
  · exact hAccounts.capacity_eq
  · rw [List.length_append]
    exact hRoom
  · intro _
    rw [accepted_append, received_append, hAccounts.fifo hAlive]
    simp [accepted, received]
  · rw [accepted_append, received_append]
    simp only [received, List.filterMap_cons,
      List.filterMap_nil, List.append_nil]
    exact hAccounts.delivered.trans (List.prefix_append _ _)
  · simpa using hAccounts.kept_iff
  · simpa using hAccounts.gone_iff
  · exact (hAccounts.taken_of_ne (by simp)).1
  · exact (hAccounts.taken_of_ne (by simp)).2

/- The hash that waits first is received next. -/
theorem snoc_received
    (hAccounts : Accounts capacity entries q)
    (hash : String)
    (rest : List String)
    (hTaken : q.readingEnd = .taken)
    (hWaiting : q.waiting = hash :: rest) :
    Accounts capacity (entries ++ [.received hash])
      { q with waiting := rest } := by
  have hFifo :
      accepted entries = received entries ++ hash :: rest := by
    rw [← hWaiting]
    exact hAccounts.fifo (by simp [hTaken])
  have hBounded := hAccounts.bounded
  rw [hWaiting] at hBounded
  have hAccepted :
      accepted (entries ++ [.received hash]) =
        received (entries ++ [.received hash]) ++ rest := by
    rw [accepted_append, received_append, hFifo]
    simp [accepted, received]
  constructor
  · exact hAccounts.capacity_eq
  · exact Nat.le_of_succ_le hBounded
  · intro _
    exact hAccepted
  · rw [hAccepted]
    exact List.prefix_append _ _
  · simpa using hAccounts.kept_iff
  · simpa using hAccounts.gone_iff
  · exact (hAccounts.taken_of_ne (by simp)).1
  · exact (hAccounts.taken_of_ne (by simp)).2

/- The reading end that the queue kept is handed out. -/
theorem snoc_taken
    (hAccounts : Accounts capacity entries q)
    (hKept : q.readingEnd = .kept) :
    Accounts capacity (entries ++ [.taken])
      { q with readingEnd := .taken } := by
  rcases hAccounts.kept_iff.mp hKept with
    ⟨hNotTaken, hNotClosed⟩
  constructor
  · exact hAccounts.capacity_eq
  · exact hAccounts.bounded
  · intro _
    rw [accepted_append, received_append]
    simpa [accepted, received] using
      hAccounts.fifo (by simp [hKept])
  · rw [accepted_append, received_append]
    simpa [accepted, received] using hAccounts.delivered
  · simp
  · have hGone := hAccounts.gone_iff
    simp only [List.mem_append, List.mem_singleton]
    grind
  · rw [List.count_append, List.count_eq_zero_of_not_mem
      hNotTaken]
    exact Nat.le_refl 1
  · refine List.pairwise_append.mpr
      ⟨hAccounts.taken_early, List.pairwise_singleton _ _, ?_⟩
    intro first hFirst _ _ hClosed
    rw [hClosed] at hFirst
    exact absurd hFirst hNotClosed

/- A queue and its log go on to agree. -/
theorem snoc
    (hAccounts : Accounts capacity entries q)
    {o : Operation}
    {entry : Entry}
    {next : RelayQueue}
    (hRule : Rule q o entry next) :
    Accounts capacity (entries ++ [entry]) next := by
  cases hRule with
  | accept hash hAlive hRoom =>
      exact hAccounts.snoc_accepted hash hAlive hRoom
  | receive hash rest hTaken hWaiting =>
      exact hAccounts.snoc_received hash rest hTaken hWaiting
  | take hKept => exact hAccounts.snoc_taken hKept
  | drop hTaken =>
      exact hAccounts.snoc_gone (.inl ⟨rfl, hTaken⟩)
  | close hKept =>
      exact hAccounts.snoc_gone (.inr ⟨rfl, hKept⟩)
  | closeLate hKept =>
      exact hAccounts.snoc_idle (by simp) (by simp)
        (fun _ => hKept) rfl rfl
  | _ =>
      exact hAccounts.snoc_idle (by simp) (by simp) (by simp)
        rfl rfl

end Accounts

------------------------------------------------------------
-- Whole Runs
------------------------------------------------------------

/- A step has an entry, which is what it adds to the log. -/
theorem step?_eq_some_iff
    {q next : RelayQueue}
    {o : Operation} :
    q.step? o = some next ↔
      ∃ entry, q.perform? o = some (entry, next) ∧
        q.note o = [entry] := by
  constructor
  · intro hStep
    rcases Option.map_eq_some_iff.mp hStep with
      ⟨⟨entry, last⟩, hPerform, hLast⟩
    cases hLast
    exact ⟨entry, hPerform, by simp [note, hPerform]⟩
  · rintro ⟨entry, hPerform, _⟩
    simp [step?, hPerform]

/- Every queue that is used from the start agrees with its log. -/
theorem accounts_of_run
    {capacity : Nat}
    {operations : List Operation}
    {q : RelayQueue}
    (hRun : (ofCapacity capacity).run? operations = some q) :
    Accounts capacity ((ofCapacity capacity).log operations) q := by
  refine Run.history_of_run
    (P := fun past q =>
      Accounts capacity ((ofCapacity capacity).log past) q)
    ?_ (accounts_ofCapacity capacity) hRun
  intro past q next o hPast hAccounts hStep
  rcases step?_eq_some_iff.mp hStep with
    ⟨entry, hPerform, hNote⟩
  rw [log, Run.outputs_snoc hPast hStep, hNote]
  exact hAccounts.snoc (rule_of_perform? hPerform)

/- A reading end that is not dropped stays where it is. -/
theorem taken_of_run
    {q next : RelayQueue}
    {operations : List Operation}
    (hTaken : q.readingEnd = .taken)
    (hHeld : .dropStream ∉ operations)
    (hRun : q.run? operations = some next) :
    next.readingEnd = .taken := by
  induction operations generalizing q with
  | nil =>
      cases hRun
      exact hTaken
  | cons o rest ih =>
      rcases Run.run_cons_eq_some_iff.mp hRun with
        ⟨middle, hStep, hRest⟩
      rw [List.mem_cons, not_or] at hHeld
      refine ih ?_ hHeld.2 hRest
      rcases step?_eq_some_iff.mp hStep with
        ⟨entry, hPerform, _⟩
      cases rule_of_perform? hPerform with
      | drop _ => exact absurd rfl hHeld.1
      | take _ => rfl
      | close hKept =>
          rw [hTaken] at hKept
          cases hKept
      | _ => exact hTaken

/- In a queue that nobody can read nothing waits. -/
theorem waiting_of_gone
    {capacity : Nat}
    {operations : List Operation}
    {q : RelayQueue}
    (hRun : (ofCapacity capacity).run? operations = some q)
    (hGone : q.readingEnd = .gone) :
    q.waiting = [] := by
  refine Run.invariant_of_run
    (P := fun q => q.readingEnd = .gone → q.waiting = [])
    ?_ (fun _ => rfl) hRun hGone
  intro q next o hNone hStep hGone
  rcases step?_eq_some_iff.mp hStep with ⟨entry, hPerform, _⟩
  cases rule_of_perform? hPerform with
  | accept hash hAlive hRoom => exact absurd hGone hAlive
  | take hKept => cases hGone
  | receive hash rest hTaken hWaiting =>
      rw [hTaken] at hGone
      cases hGone
  | drop hTaken => rfl
  | close hKept => rfl
  | _ => exact hNone hGone

/-
  If nobody drops or closes the reading end, it is there, and a
  hash is handed back only when the queue is full.
-/
theorem rejected_of_held
    {capacity : Nat}
    {operations : List Operation}
    {q : RelayQueue}
    (hHeld : .dropStream ∉ operations ∧ .close ∉ operations)
    (hRun : (ofCapacity capacity).run? operations = some q) :
    q.readingEnd ≠ .gone ∧
      ∀ e, .rejected e ∈ (ofCapacity capacity).log operations →
        e = .full (max capacity 1) e.hash := by
  have hNew :
      (ofCapacity capacity).readingEnd ≠ .gone ∧
        ∀ e, .rejected e ∈ (ofCapacity capacity).log [] →
          e = .full (max capacity 1) e.hash :=
    ⟨by simp [ofCapacity], by simp [log, Run.outputs]⟩
  refine Run.history_of_run
    (P := fun past q =>
      .dropStream ∉ past ∧ .close ∉ past →
        q.readingEnd ≠ .gone ∧
          ∀ e, .rejected e ∈ (ofCapacity capacity).log past →
            e = .full (max capacity 1) e.hash)
    ?_ (fun _ => hNew) hRun hHeld
  intro past q next o hPast hBefore hStep hMore
  have hCapacity := (accounts_of_run hPast).capacity_eq
  simp only [List.mem_append, List.mem_singleton, not_or]
    at hMore
  rcases hBefore ⟨hMore.1.1, hMore.2.1⟩ with ⟨hAlive, hFull⟩
  rcases step?_eq_some_iff.mp hStep with
    ⟨entry, hPerform, hNote⟩
  have hLog :
      (ofCapacity capacity).log (past ++ [o]) =
        (ofCapacity capacity).log past ++ [entry] := by
    rw [log, Run.outputs_snoc hPast hStep, hNote]
    rfl
  simp only [hLog, List.mem_append, List.mem_singleton]
  have hRule := rule_of_perform? hPerform
  constructor
  · cases hRule with
    | drop hTaken => exact absurd rfl hMore.1.2
    | close hKept => exact absurd rfl hMore.2.2
    | take hKept => simp
    | _ => exact hAlive
  · rintro e (hOld | rfl)
    · exact hFull e hOld
    · cases hRule with
      | full hash hOpen hNoRoom =>
          rw [hCapacity]
          rfl
      | unread hash hGone => exact absurd hGone hAlive

/- What was received or waits begins what was accepted. -/
theorem received_append_waiting
    {capacity : Nat}
    {operations : List Operation}
    {q : RelayQueue}
    (hRun : (ofCapacity capacity).run? operations = some q) :
    received ((ofCapacity capacity).log operations) ++ q.waiting
      <+: accepted ((ofCapacity capacity).log operations) := by
  have hAccounts := accounts_of_run hRun
  by_cases hGone : q.readingEnd = .gone
  · rw [waiting_of_gone hRun hGone, List.append_nil]
    exact hAccounts.delivered
  · exact hAccounts.fifo hGone ▸ List.prefix_rfl

/- The three results of a push, each with the queues it is for. -/
theorem push_trichotomy
    {q : RelayQueue}
    (hBounded : q.waiting.length ≤ q.capacity)
    (hash : String) :
    ((∃ next, q.push hash = .ok next) ↔
      q.readingEnd ≠ .gone ∧ q.waiting.length < q.capacity) ∧
    (q.push hash = .error (.full q.capacity hash) ↔
      q.readingEnd ≠ .gone ∧ q.waiting.length = q.capacity) ∧
    (q.push hash = .error (.closed hash) ↔
      q.readingEnd = .gone) := by
  by_cases hGone : q.readingEnd = .gone
  · simp [push_of_gone hGone, hGone]
  · by_cases hRoom : q.waiting.length < q.capacity
    · simp [push_of_room hGone hRoom, hGone, hRoom,
        Nat.ne_of_lt hRoom]
    · have hFull := Nat.not_lt.mp hRoom
      simp [push_of_full hGone hFull, hGone,
        Nat.le_antisymm hBounded hFull]

/- A hash that is rejected is handed back. -/
theorem push_error
    {q : RelayQueue}
    {hash : String}
    {e : RelayError}
    (hError : q.push hash = .error e) :
    e.hash = hash ∧
      q.perform? (.push hash) = some (.rejected e, q) := by
  refine ⟨?_, by simp only [perform?, hError]⟩
  by_cases hGone : q.readingEnd = .gone
  · rw [push_of_gone hGone] at hError
    cases hError
    rfl
  · by_cases hRoom : q.waiting.length < q.capacity
    · rw [push_of_room hGone hRoom] at hError
      cases hError
    · rw [push_of_full hGone (Nat.not_lt.mp hRoom)] at hError
      cases hError
      rfl

/-
  For all bounds and all orders in which a queue is used: the
  reading end is handed out once at most, and not after a close;
  while it is there, the hashes that were accepted are those
  that were received and then those that wait, no more than the
  bound; each result of a push says in which of three ways the
  queue is; and a hash that is rejected is handed back and
  leaves the queue as it was.
-/
theorem fifo_of_run
    (capacity : Nat)
    (operations : List Operation)
    (q : RelayQueue)
    (hRun : (ofCapacity capacity).run? operations = some q) :
    let entries := (ofCapacity capacity).log operations
    entries.count .taken ≤ 1 ∧
    (entries.Pairwise fun first second =>
      first = .closed → second ≠ .taken) ∧
    ((∃ next, q.takeStream = .ok next) ↔
      .taken ∉ entries ∧ .closed ∉ entries) ∧
    (q.readingEnd = .gone ↔
      .dropped ∈ entries ∨
        (.closed ∈ entries ∧ .taken ∉ entries)) ∧
    (q.readingEnd ≠ .gone →
      accepted entries = received entries ++ q.waiting ∧
      q.waiting.length ≤ max capacity 1) ∧
    received entries <+: accepted entries ∧
    ∀ hash,
      ((∃ next, q.push hash = .ok next) ↔
        q.readingEnd ≠ .gone ∧
          q.waiting.length < max capacity 1) ∧
      (q.push hash = .error (.full (max capacity 1) hash) ↔
        q.readingEnd ≠ .gone ∧
          q.waiting.length = max capacity 1) ∧
      (q.push hash = .error (.closed hash) ↔
        q.readingEnd = .gone) ∧
      ∀ e, q.push hash = .error e →
        e.hash = hash ∧
          q.perform? (.push hash) = some (.rejected e, q) := by
  intro entries
  have hAccounts : Accounts capacity entries q :=
    accounts_of_run hRun
  have hTake :
      (∃ next, q.takeStream = .ok next) ↔
        q.readingEnd = .kept := by
    by_cases hKept : q.readingEnd = .kept
    · simp [takeStream, hKept]
    · simp [takeStream, hKept]
  have hBounded := hAccounts.bounded
  rw [← hAccounts.capacity_eq]
  refine ⟨hAccounts.taken_once, hAccounts.taken_early,
    hTake.trans hAccounts.kept_iff, hAccounts.gone_iff,
    fun hAlive => ⟨hAccounts.fifo hAlive, hBounded⟩,
    hAccounts.delivered, ?_⟩
  intro hash
  rcases push_trichotomy hBounded hash with
    ⟨hOk, hFull, hClosed⟩
  exact ⟨hOk, hFull, hClosed, fun e hError => push_error hError⟩

/-
  A queue without room that is filled, taken, read, filled once
  more, closed too late and dropped.
-/
def crowded : List Operation :=
  [.push "aa", .push "bb", .takeStream, .takeStream, .receive,
   .push "cc", .close, .push "dd", .dropStream, .push "ee",
   .takeStream]

/- What came of it agrees with the history of the queue. -/
theorem fifo_of_run_crowded :
    ∃ q, (ofCapacity 0).run? crowded = some q ∧
      (ofCapacity 0).log crowded =
        [.accepted "aa", .rejected (.full 1 "bb"), .taken,
         .refused .streamTaken, .received "aa",
         .accepted "cc", .closed, .rejected (.full 1 "dd"),
         .dropped, .rejected (.closed "ee"),
         .refused .streamTaken] ∧
      ((ofCapacity 0).log crowded).count .taken ≤ 1 ∧
      received ((ofCapacity 0).log crowded) <+:
        accepted ((ofCapacity 0).log crowded) := by
  have hRun :
      (ofCapacity 0).run? crowded = some ⟨1, [], .gone⟩ := by
    decide
  rcases fifo_of_run 0 crowded _ hRun with
    ⟨hOnce, _, _, _, _, hDelivered, _⟩
  exact ⟨_, hRun, by decide, hOnce, hDelivered⟩

end RelayQueue

end LightningGateway.Relay
