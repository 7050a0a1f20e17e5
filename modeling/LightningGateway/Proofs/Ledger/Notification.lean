import LightningGateway.Proofs.Ledger.Settlement
import LightningGateway.Proofs.Listener.Webhook

/-
  A listener over a wallet in memory.

  The wallet is used by many at once, and settlements take two
  steps.  Whatever happens in between, the listener is told of
  an invoice only after that was settled, and once; and what the
  listener tells its host has a proof of payment.

  Key definitions include:
    * `Ledger.Watched`
    * `Ledger.Watched.step?`
    * `Ledger.Watched.Follows`

  Main results:
    * `Ledger.Watched.follows_of_step`
    * `Ledger.Watched.notified_of_paid`
-/

namespace LightningGateway

open Payment Relay Settings

namespace Ledger

------------------------------------------------------------
-- Listening
------------------------------------------------------------

/- A host of a wallet in memory, in the midst of settlements. -/
structure Watched where
  host : Host
  -- Marked as settled, and not offered to the reader yet.
  marked : List String

namespace Watched

/- What may happen to a listener and to its wallet. -/
inductive Event where
  -- The listener asks the wallet for its stream.
  | openStream
  -- The listener takes an id from its stream.
  | poll
  -- The wallet answers a lookup.
  | answer
  -- The listener moves otherwise.
  | listener (e : Listener.Event)
  -- Somebody else uses the wallet.
  | use (a : Act)

/- Whether a listener has an event without the wallet. -/
def isOwn : Listener.Event → Bool
  | .openStream _ => false
  | .item _ => false
  | .ended => false
  | .answer _ => false
  | _ => true

/- A new wallet and a listener that is about to open its stream. -/
def start
    (s : FakeSettings)
    (f : FundingSettings)
    (delay capacity : Nat) : Watched where
  host :=
    { wallet := .memory (.build s f)
      stream := none
      listener := .start delay capacity
      stage := .listening
      log := [] }
  marked := []

/- Whether others may do this: they cannot read a held stream. -/
def mayUse
    (w : Watched) : Act → Bool
  | .receive => w.host.stream.isNone
  | .dropStream => w.host.stream.isNone
  | _ => true

/- Somebody else uses the wallet. -/
def use?
    (w : Watched)
    (a : Act) : Option Watched :=
  match w.host.wallet with
  | .memory l =>
      (Shared.step? ⟨l, w.marked⟩ a).map fun s =>
        ⟨{ w.host with wallet := .memory s.ledger }, s.marked⟩
  | _ => none

/- The state after an event, if it is possible. -/
def step?
    (w : Watched) : Event → Option Watched
  | .openStream => w.host.openStream?.map (⟨·, w.marked⟩)
  | .poll => w.host.poll?.map (⟨·, w.marked⟩)
  | .answer => (w.host.answer? []).map (⟨·, w.marked⟩)
  | .listener e =>
      if isOwn e then
        (w.host.moveListener? e).map (⟨·, w.marked⟩)
      else none
  | .use a => if w.mayUse a then w.use? a else none

/- The state after some events, if they are possible. -/
def run?
    (w : Watched)
    (events : List Event) : Option Watched :=
  events.foldlM step? w

/- How an event uses the wallet. -/
def actsOf
    (w : Watched) : Event → List Act
  | .openStream => [.takeStream]
  | .poll => [.receive]
  | .answer => []
  | .listener e =>
      match w.host.stream, w.host.moveListener? e with
      | some _, some next =>
          if next.stream.isNone then [.dropStream] else []
      | _, _ => []
  | .use a => [a]

/- How some events use the wallet. -/
def acts
    (w : Watched)
    (events : List Event) : List Act :=
  Run.outputs step? actsOf w events

/- The invoice that an event forwards to the host. -/
def forwardOf
    (w : Watched) : Event → List SettledInvoice
  | .listener e => w.host.listener.forwardOf e
  | _ => []

/- The invoices that are forwarded to the host. -/
def forwarded
    (w : Watched)
    (events : List Event) : List SettledInvoice :=
  Run.outputs step? forwardOf w events

------------------------------------------------------------
-- One Step
------------------------------------------------------------

/-
  How a listener agrees with the acts on its wallet and with
  what it has forwarded: what it looks up was yielded, and what
  it has in hand or has forwarded has a proof of payment.
-/
structure Follows
    (start : Shared)
    (acts : List Act)
    (sent : List SettledInvoice)
    (w : Watched)
    (l : Ledger) : Prop where
  wallet : w.host.wallet = .memory l
  run : start.run? acts = some ⟨l, w.marked⟩
  stream :
    w.host.stream =
      if w.host.listener.phase.isSubscribed then some .relayed
      else none
  held :
    w.host.listener.phase.isSubscribed = true →
      l.relay.readingEnd = .taken
  asking :
    ∀ id, w.host.listener.phase = .lookingUp id →
      id ∈ start.yielded acts
  proved :
    (start.issued acts).Nodup →
      ∀ i ∈ sent ++ w.host.listener.phase.unsent,
        IsProof i.id i.status

/-
  An event of its own gives a listener no stream, no id and no
  invoice that it did not have.
-/
theorem isOwn_cases
    {e : Listener.Event}
    (hOwn : isOwn e = true)
    {l m : Listener}
    (hStep : Listener.Step l e m) :
    (m.phase.isSubscribed = true →
      l.phase.isSubscribed = true) ∧
    (∀ id, m.phase = .lookingUp id → l.phase = .lookingUp id) ∧
    l.forwardOf e ++ m.phase.unsent ⊆ l.phase.unsent := by
  cases hStep with
  | openStream r hPhase hGoOn => cases hOwn
  | item id hPhase => cases hOwn
  | ended hPhase => cases hOwn
  | answer id s hPhase => cases hOwn
  | abandon i hPhase hGone =>
      simp [Listener.afterPause, Listener.Phase.isSubscribed,
        Listener.forwardOf, hPhase, hGone,
        Listener.Phase.unsent]
  | send i hPhase hThere hRoom =>
      simp [Listener.Phase.isSubscribed, Listener.forwardOf,
        hPhase, hThere, Listener.Phase.unsent]
  | _ =>
      simp_all [Listener.afterPause,
        Listener.Phase.isSubscribed, Listener.forwardOf,
        Listener.Phase.unsent]

namespace Follows

variable {start : Shared} {acts : List Act}
variable {sent : List SettledInvoice}
variable {w next : Watched} {l m : Ledger}
variable {marked : List String} {a : Act}

/- A run of one act more. -/
theorem run_snoc
    (hFollows : Follows start acts sent w l)
    (hAct : Shared.step? ⟨l, w.marked⟩ a = some ⟨m, marked⟩) :
    start.run? (acts ++ [a]) = some ⟨m, marked⟩ :=
  Run.run_append hFollows.run
    (Run.run_cons_eq_some_iff.mpr ⟨_, hAct, rfl⟩)

/- What is looked up was yielded before another act. -/
theorem asking_snoc
    (hFollows : Follows start acts sent w l)
    {id : String}
    (hAsking : w.host.listener.phase = .lookingUp id) :
    id ∈ start.yielded (acts ++ [a]) := by
  rw [Shared.yielded_append hFollows.run]
  exact List.mem_append_left _ (hFollows.asking id hAsking)

/- Ids that are all different were so before another act. -/
theorem fresh_of_snoc
    (hFollows : Follows start acts sent w l)
    (hFresh : (start.issued (acts ++ [a])).Nodup) :
    (start.issued acts).Nodup := by
  rw [Shared.issued, Run.outputs_append hFollows.run] at hFresh
  exact (List.nodup_append.mp hFresh).1

/- A listener with nothing in hand has forwarded proofs only. -/
theorem proved_of_idle
    (hFollows : Follows start acts sent w l)
    {phase : Listener.Phase}
    (hIdle : phase.unsent = [])
    (hFresh : (start.issued (acts ++ [a])).Nodup) :
    ∀ i ∈ sent ++ phase.unsent, IsProof i.id i.status := by
  intro i hMem
  rw [hIdle, List.append_nil] at hMem
  exact hFollows.proved (hFollows.fresh_of_snoc hFresh) i
    (List.mem_append_left _ hMem)

/- The stream of a listener that holds one. -/
theorem stream_of_held
    (hFollows : Follows start acts sent w l)
    (hHeld : w.host.listener.phase.isSubscribed = true) :
    w.host.stream = some .relayed := by
  rw [hFollows.stream, if_pos hHeld]

/- A listener without a stream does not hold one. -/
theorem stream_of_unheld
    (hFollows : Follows start acts sent w l)
    (hUnheld : w.host.listener.phase.isSubscribed = false) :
    w.host.stream = none := by
  rw [hFollows.stream, hUnheld]
  rfl

/- A listener asks the wallet for its stream. -/
theorem openStream
    (hFollows : Follows start acts sent w l)
    (hStep : w.step? .openStream = some next) :
    ∃ m, Follows start (acts ++ [.takeStream]) sent next m := by
  rcases Option.map_eq_some_iff.mp hStep with ⟨h, hOpen, rfl⟩
  have hStream :
      w.host.wallet.openStream =
        l.relay.takeStream.map fun q =>
          (.relayed, .memory { l with relay := q }) := by
    rw [hFollows.wallet]
    rfl
  by_cases hKept : l.relay.readingEnd = .kept
  · rw [RelayQueue.takeStream, if_pos hKept] at hStream
    simp only [Host.openStream?, hStream, Except.map] at hOpen
    rcases Option.map_eq_some_iff.mp hOpen with
      ⟨listener, hMove, rfl⟩
    have hAct :
        Shared.step? ⟨l, w.marked⟩ .takeStream =
          some ⟨{ l with
            relay := { l.relay with readingEnd := .taken } },
            w.marked⟩ := by
      simp [Shared.step?, Shared.use?, RelayQueue.step?,
        RelayQueue.perform?, RelayQueue.takeStream, hKept]
    cases Listener.step_of_step? hMove
    refine ⟨_, rfl, hFollows.run_snoc hAct, rfl,
      fun _ => rfl, ?_, hFollows.proved_of_idle rfl⟩
    intro id hAsking
    cases hAsking
  · -- Somebody else has taken it, and the listener stops.
    rw [RelayQueue.takeStream, if_neg hKept] at hStream
    simp only [Host.openStream?, hStream, Except.map] at hOpen
    have hAct :
        Shared.step? ⟨l, w.marked⟩ .takeStream =
          some ⟨l, w.marked⟩ := by
      simp [Shared.step?, Shared.use?, RelayQueue.step?,
        RelayQueue.perform?, RelayQueue.takeStream, hKept]
    rcases Host.moveListener?_cases hOpen with
      ⟨listener, hMove, hNext⟩
    cases hMove with
    | openStream r hPhase hGoOn =>
        have hNone :=
          hFollows.stream_of_unheld (by rw [hPhase]; rfl)
        rcases hNext with ⟨_, rfl⟩ | ⟨stream, hSome, _⟩
        · refine ⟨l, hFollows.wallet, hFollows.run_snoc hAct,
            hNone, ?_, ?_, hFollows.proved_of_idle rfl⟩
          · intro hHeld
            cases hHeld
          · intro id hAsking
            cases hAsking
        · rw [hNone] at hSome
          cases hSome

/- A listener takes an id that was yielded. -/
theorem poll
    (hFollows : Follows start acts sent w l)
    (hStep : w.step? .poll = some next) :
    ∃ m, Follows start (acts ++ [.receive]) sent next m := by
  rcases Option.map_eq_some_iff.mp hStep with ⟨h, hPoll, rfl⟩
  by_cases hHeld : w.host.listener.phase.isSubscribed = true
  · have hStream := hFollows.stream_of_held hHeld
    have hTaken := hFollows.held hHeld
    cases hWaiting : l.relay.waiting with
    | nil =>
        simp [Host.poll?, hStream, Wallet.poll, hFollows.wallet,
          Wallet.relay?, RelayQueue.receive, hWaiting] at hPoll
    | cons id rest =>
        simp only [Host.poll?, hStream, Wallet.poll,
          hFollows.wallet, Wallet.relay?, Option.bind_some,
          RelayQueue.receive, hWaiting] at hPoll
        have hReceive :
            l.relay.perform? .receive =
              some (.received id,
                { l.relay with waiting := rest }) := by
          simp [RelayQueue.perform?, hTaken, RelayQueue.receive,
            hWaiting]
        have hAct :
            Shared.step? ⟨l, w.marked⟩ .receive =
              some ⟨{ l with
                relay := { l.relay with waiting := rest } },
                w.marked⟩ := by
          simp [Shared.step?, Shared.use?, RelayQueue.step?,
            hReceive]
        have hYielded :
            id ∈ start.yielded (acts ++ [.receive]) := by
          rw [Shared.yielded_append hFollows.run]
          refine List.mem_append_right _ ?_
          simp [Shared.yielded, Shared.entries, Act.operations,
            RelayQueue.log_singleton, RelayQueue.note, hReceive,
            RelayQueue.received]
        rcases Host.moveListener?_cases hPoll with
          ⟨listener, hMove, ⟨_, rfl⟩ | ⟨stream, _, hLeft, _⟩⟩
        · cases hMove with
          | item _ hPhase =>
              refine ⟨_, rfl, hFollows.run_snoc hAct, rfl,
                fun _ => hTaken, ?_, hFollows.proved_of_idle rfl⟩
              intro other hAsking
              cases hAsking
              exact hYielded
        · cases hMove
          cases hLeft
  · have hNone :=
      hFollows.stream_of_unheld (eq_false_of_ne_true hHeld)
    simp [Host.poll?, hNone] at hPoll

/- The answer to a lookup of a yielded id has a proof. -/
theorem answer
    {s : FakeSettings}
    {f : FundingSettings}
    (hFollows : Follows (.start s f) acts sent w l)
    (hStep : w.step? .answer = some next) :
    Follows (.start s f) acts sent next l := by
  rcases Option.map_eq_some_iff.mp hStep with ⟨h, hAnswer, rfl⟩
  unfold Host.answer? at hAnswer
  split at hAnswer
  · rename_i id hPhase
    have hStatus :
        (w.host.wallet.invoiceStatus id).resultOf? [] =
          some (l.invoiceStatus id) := by
      rw [hFollows.wallet]
      rfl
    rw [hStatus, Option.bind_some] at hAnswer
    have hHeld : w.host.listener.phase.isSubscribed = true := by
      rw [hPhase]
      rfl
    rcases Host.moveListener?_cases hAnswer with
      ⟨listener, hMove, ⟨_, rfl⟩ | ⟨stream, _, hLeft, _⟩⟩
    · cases hMove with
      | answer other status hSame =>
          rw [hPhase] at hSame
          cases hSame
          refine ⟨hFollows.wallet, hFollows.run,
            hFollows.stream_of_held hHeld,
            fun _ => hFollows.held hHeld, ?_, ?_⟩
          · intro other hAsking
            cases hAsking
          · intro hFresh i hMem
            rcases List.mem_append.mp hMem with hSent | hHand
            · exact hFollows.proved hFresh i
                (List.mem_append_left _ hSent)
            · have hOffered :=
                (Shared.offered_of_run hFresh hFollows.run).2 id
                  (List.mem_append_left _
                    (hFollows.asking id hPhase))
              rw [List.mem_singleton.mp hHand]
              exact hOffered.2
    · cases hMove
      cases hLeft
  · cases hAnswer

/- What a listener has in hand it forwards with its proof. -/
theorem proved_of_isOwn
    (hFollows : Follows start acts sent w l)
    {e : Listener.Event}
    (hOwn : isOwn e = true)
    {listener : Listener}
    (hMove : Listener.Step w.host.listener e listener)
    (hFresh : (start.issued acts).Nodup) :
    ∀ i ∈ (sent ++ w.forwardOf (.listener e)) ++
        listener.phase.unsent,
      IsProof i.id i.status := by
  intro i hMem
  rw [List.append_assoc] at hMem
  rcases List.mem_append.mp hMem with hSent | hHand
  · exact hFollows.proved hFresh i (List.mem_append_left _ hSent)
  · exact hFollows.proved hFresh i (List.mem_append_right _
      ((isOwn_cases hOwn hMove).2.2 hHand))

/- A listener that leaves its stream drops it. -/
theorem listener
    (hFollows : Follows start acts sent w l)
    {e : Listener.Event}
    (hStep : w.step? (.listener e) = some next) :
    ∃ m, Follows start (acts ++ w.actsOf (.listener e))
      (sent ++ w.forwardOf (.listener e)) next m := by
  rcases Option.ite_none_right_eq_some.mp hStep with
    ⟨hOwn, hMoved⟩
  rcases Option.map_eq_some_iff.mp hMoved with ⟨h, hMove, rfl⟩
  rcases Host.moveListener?_cases hMove with
    ⟨listener, hListener,
      ⟨hStay, rfl⟩ | ⟨stream, hSome, hLeft, rfl⟩⟩
  · rcases isOwn_cases hOwn hListener with ⟨hHold, hAsk, _⟩
    have hNone : w.actsOf (.listener e) = [] := by
      cases hStream : w.host.stream with
      | none => simp only [actsOf, hStream]
      | some stream => simp [actsOf, hStream, hMove]
    rw [hNone, List.append_nil]
    refine ⟨l, hFollows.wallet, hFollows.run, ?_,
      fun hHeld => hFollows.held (hHold hHeld),
      fun id hAsking => hFollows.asking id (hAsk id hAsking),
      hFollows.proved_of_isOwn hOwn hListener⟩
    show w.host.stream = _
    by_cases hHeld : listener.phase.isSubscribed = true
    · rw [if_pos hHeld]
      exact hFollows.stream_of_held (hHold hHeld)
    · rw [if_neg hHeld]
      exact hStay.resolve_right hHeld
  · have hHeld : w.host.listener.phase.isSubscribed = true := by
      by_contra hUnheld
      rw [hFollows.stream_of_unheld
        (eq_false_of_ne_true hUnheld)] at hSome
      cases hSome
    rw [hFollows.stream_of_held hHeld] at hSome
    cases hSome
    have hTaken := hFollows.held hHeld
    have hDrop : w.actsOf (.listener e) = [.dropStream] := by
      simp [actsOf, hMove, hFollows.stream_of_held hHeld]
    have hAct :
        Shared.step? ⟨l, w.marked⟩ .dropStream =
          some ⟨{ l with relay := l.relay.dropStream },
            w.marked⟩ := by
      simp [Shared.step?, Shared.use?, RelayQueue.step?,
        RelayQueue.perform?, hTaken]
    have hWallet :
        w.host.wallet.dropStream .relayed =
          .memory { l with relay := l.relay.dropStream } := by
      rw [hFollows.wallet]
      rfl
    rw [hDrop]
    refine ⟨_, hWallet, hFollows.run_snoc hAct, ?_, ?_, ?_, ?_⟩
    · rw [hLeft]
      rfl
    · intro hStill
      rw [hLeft] at hStill
      cases hStill
    · intro id hAsking
      rw [hAsking] at hLeft
      cases hLeft
    · intro hFresh
      exact hFollows.proved_of_isOwn hOwn hListener
        (hFollows.fresh_of_snoc hFresh)

/- Others use the wallet, whether or not the stream is held. -/
theorem use
    (hFollows : Follows start acts sent w l)
    (hStep : w.step? (.use a) = some next) :
    ∃ m, Follows start (acts ++ [a]) sent next m := by
  rcases Option.ite_none_right_eq_some.mp hStep with
    ⟨hMay, hUse⟩
  simp only [use?, hFollows.wallet] at hUse
  rcases Option.map_eq_some_iff.mp hUse with ⟨t, hAct, rfl⟩
  refine ⟨t.ledger, rfl, hFollows.run_snoc hAct,
    hFollows.stream, ?_, fun id => hFollows.asking_snoc,
    fun hFresh => hFollows.proved (hFollows.fresh_of_snoc hFresh)⟩
  intro hHeld
  have hStream := hFollows.stream_of_held hHeld
  have hKept : .dropStream ∉ a.operations := by
    cases a with
    | dropStream =>
        simp [mayUse, hStream] at hMay
    | _ => simp [Act.operations]
  exact RelayQueue.taken_of_run (hFollows.held hHeld) hKept
    (Shared.relay_of_step? hAct)

end Follows

/- Every event leaves a listener in agreement with its wallet. -/
theorem follows_of_step
    {s : FakeSettings}
    {f : FundingSettings}
    {acts : List Act}
    {sent : List SettledInvoice}
    {w next : Watched}
    {l : Ledger}
    {e : Event}
    (hFollows : Follows (.start s f) acts sent w l)
    (hStep : w.step? e = some next) :
    ∃ m, Follows (.start s f) (acts ++ w.actsOf e)
      (sent ++ w.forwardOf e) next m := by
  cases e with
  | openStream =>
      have hNone : w.forwardOf .openStream = [] := rfl
      rw [hNone, List.append_nil]
      exact hFollows.openStream hStep
  | poll =>
      have hNone : w.forwardOf .poll = [] := rfl
      rw [hNone, List.append_nil]
      exact hFollows.poll hStep
  | answer =>
      have hNone : w.forwardOf .answer = [] := rfl
      have hIdle : w.actsOf .answer = [] := rfl
      rw [hNone, hIdle, List.append_nil, List.append_nil]
      exact ⟨l, hFollows.answer hStep⟩
  | listener e => exact hFollows.listener hStep
  | use a =>
      have hNone : w.forwardOf (.use a) = [] := rfl
      rw [hNone, List.append_nil]
      exact hFollows.use hStep

------------------------------------------------------------
-- Whole Runs
------------------------------------------------------------

/- Every run leaves a listener in agreement with its wallet. -/
theorem follows_of_run
    {s : FakeSettings}
    {f : FundingSettings}
    {delay capacity : Nat}
    {events : List Event}
    {w : Watched}
    (hRun : (start s f delay capacity).run? events = some w) :
    ∃ l, Follows (.start s f)
      ((start s f delay capacity).acts events)
      ((start s f delay capacity).forwarded events) w l := by
  have hStart :
      Follows (.start s f) [] [] (start s f delay capacity)
        (.build s f) := by
    refine ⟨rfl, rfl, rfl, ?_, ?_, ?_⟩
    · intro hHeld
      cases hHeld
    · intro id hAsking
      cases hAsking
    · intro _ i hMem
      cases hMem
  refine Run.history_of_run
    (P := fun past w => ∃ l, Follows (.start s f)
      ((start s f delay capacity).acts past)
      ((start s f delay capacity).forwarded past) w l)
    ?_ ⟨_, hStart⟩ hRun
  intro past w next e hPast hFollows hStep
  rcases hFollows with ⟨l, hFollows⟩
  rw [acts, forwarded, Run.outputs_snoc hPast hStep,
    Run.outputs_snoc hPast hStep]
  exact follows_of_step hFollows hStep

/- What was yielded at some time was yielded ever after. -/
theorem yielded_subset_of_run
    {s : FakeSettings}
    {f : FundingSettings}
    {delay capacity : Nat}
    {past later : List Event}
    {w : Watched}
    (hRun :
      (start s f delay capacity).run? (past ++ later) = some w) :
    (Shared.start s f).yielded
        ((start s f delay capacity).acts past) ⊆
      (Shared.start s f).yielded
        ((start s f delay capacity).acts (past ++ later)) := by
  rcases Run.run_append_eq_some_iff.mp hRun with ⟨m, hPast, _⟩
  rcases follows_of_run hPast with ⟨l, hFollows⟩
  have hActs :
      (start s f delay capacity).acts (past ++ later) =
        (start s f delay capacity).acts past ++ m.acts later :=
    Run.outputs_append hPast later
  rw [hActs, Shared.yielded_append hFollows.run]
  exact List.subset_append_left _ _

/-
  For all settings, and all orders in which a listener and many
  others use a wallet in memory whose ids are all different: no
  id occurs twice among those that were yielded and those that
  wait, and all of these are settled; an id that was yielded at
  some time has a proof of payment ever after; and whatever the
  listener forwards to its host comes with such a proof.
-/
theorem notified_of_paid
    (s : FakeSettings)
    (f : FundingSettings)
    (delay capacity : Nat)
    (past later : List Event)
    (w : Watched)
    (hFresh :
      ((Shared.start s f).issued
        ((start s f delay capacity).acts (past ++ later))).Nodup)
    (hRun :
      (start s f delay capacity).run? (past ++ later) = some w) :
    let first := start s f delay capacity
    let yielded := fun events =>
      (Shared.start s f).yielded (first.acts events)
    ∃ l, w.host.wallet = .memory l ∧
      (yielded (past ++ later) ++ l.relay.waiting).Nodup ∧
      (∀ id ∈ yielded (past ++ later) ++ l.relay.waiting,
        id ∈ l.settledIds) ∧
      (∀ id ∈ yielded past, IsProof id (l.invoiceStatus id)) ∧
      ∀ i ∈ first.forwarded (past ++ later),
        IsProof i.id i.status := by
  intro first yielded
  rcases follows_of_run hRun with ⟨l, hFollows⟩
  rcases Shared.offered_of_run hFresh hFollows.run with
    ⟨hOnce, hSettled⟩
  refine ⟨l, hFollows.wallet, hOnce,
    fun id hMem => (hSettled id hMem).1, ?_, ?_⟩
  · intro id hMem
    have hStill := yielded_subset_of_run hRun hMem
    exact (hSettled id (List.mem_append_left _ hStill)).2
  · intro i hMem
    exact hFollows.proved hFresh i (List.mem_append_left _ hMem)

/-
  An invoice that is settled by hand while its timer runs out:
  the listener takes its id between two more settlements.
-/
def raced : List Event :=
  [.use (.createInvoice [1] (.ofSat 1)), .openStream,
   .use (.mark Shared.firstId), .use (.pass 10),
   .use (.wake ⟨10, Shared.firstId⟩), .use (.offer Shared.firstId),
   .use (.mark Shared.firstId), .poll, .answer, .listener .send]

/- The listener forwards it once, with a proof of payment. -/
theorem notified_of_paid_of_raced :
    let first := start ⟨some 10⟩ ⟨.fake, "agent", 5, 1⟩ 5000 256
    ((Shared.start ⟨some 10⟩ ⟨.fake, "agent", 5, 1⟩).issued
        (first.acts raced)).Nodup ∧
      (∃ w, first.run? raced = some w) ∧
      (first.forwarded raced).map (·.id) = [Shared.firstId] ∧
      ∀ i ∈ first.forwarded raced, IsProof i.id i.status := by
  intro first
  have hEvaluated :
      ((Shared.start ⟨some 10⟩ ⟨.fake, "agent", 5, 1⟩).issued
          (first.acts raced)).Nodup ∧
        (first.run? raced).isSome = true ∧
        (first.forwarded raced).map (·.id) = [Shared.firstId] := by
    decide +kernel
  rcases hEvaluated with ⟨hFresh, hPossible, hForwarded⟩
  rcases Option.isSome_iff_exists.mp hPossible with ⟨w, hRun⟩
  rcases notified_of_paid _ _ 5000 256 raced [] w hFresh hRun with
    ⟨l, _, _, _, _, hProved⟩
  exact ⟨hFresh, ⟨w, hRun⟩, hForwarded, hProved⟩

end Watched

end Ledger

end LightningGateway
