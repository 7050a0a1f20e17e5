import LightningGateway.Host
import LightningGateway.Proofs.Listener.Forwarding
import LightningGateway.Proofs.Relay.History

/-
  A listener whose wallet is fed by a webhook.

  Others use the queue of the wallet meanwhile: they push, take
  the reading end if they can, and close it; and they read it
  if they have taken it.  Whatever they do, the ids that the
  listener takes are a beginning of those that were pushed.

  Key definitions include:
    * `Host.Feed`
    * `Host.feed?`
    * `Host.listenerEvents`
    * `Host.pushed`
    * `Host.IsFed`

  Main results:
    * `Host.isFed_of_feed`
    * `Host.forwarded_in_order`
-/

namespace LightningGateway

open Payment Relay

namespace Wallet

/- The queue of a wallet is the one that it was given last. -/
theorem relay?_withRelay
    {w : Wallet}
    {q : RelayQueue}
    (hRelay : w.relay? = some q)
    (next : RelayQueue) :
    (w.withRelay next).relay? = some next := by
  cases w with
  | lnbits v => cases hRelay
  | _ => rfl

end Wallet

namespace Host

------------------------------------------------------------
-- Feeding
------------------------------------------------------------

/- What may happen to a listener and to the queue of its wallet. -/
inductive Feed where
  -- The listener asks the wallet for its stream.
  | openStream
  -- The listener takes an id from its stream.
  | poll
  -- The listener moves otherwise.
  | listener (e : Listener.Event)
  -- Somebody else uses the queue.
  | use (o : RelayQueue.Operation)
  -- The wallet changes, but not its queue.
  | change (w : Wallet)

/- Whether a listener has an event without the queue. -/
def isOwn : Listener.Event → Bool
  | .openStream _ => false
  | .item _ => false
  | _ => true

/- Whether others may do this: they cannot read a held stream. -/
def mayUse
    (h : Host) : RelayQueue.Operation → Bool
  | .receive => h.stream.isNone
  | .dropStream => h.stream.isNone
  | _ => true

/- The host after a feed, if it is possible. -/
def feed?
    (h : Host) : Feed → Option Host
  | .openStream => h.openStream?
  | .poll => h.poll?
  | .listener e => if isOwn e then h.moveListener? e else none
  | .use o =>
      if h.mayUse o then
        (h.wallet.relay?.bind fun q => q.step? o).map fun q =>
          { h with wallet := h.wallet.withRelay q }
      else none
  | .change w =>
      if w.relay? = h.wallet.relay? then
        some { h with wallet := w }
      else none

/- How a feed moves the listener. -/
def listenerEventsOf
    (h : Host) : Feed → List Listener.Event
  | .openStream =>
      [.openStream (h.wallet.openStream.map fun _ => ())]
  | .poll =>
      match h.stream.map h.wallet.poll with
      | some (.item id, _) => [.item id]
      | some (.ended, _) => [.ended]
      | _ => []
  | .listener e => [e]
  | _ => []

/- The hash that a feed has pushed, if it was accepted. -/
def pushedOf
    (h : Host) : Feed → List String
  | .use o =>
      match h.wallet.relay? with
      | some q => RelayQueue.accepted (q.note o)
      | none => []
  | _ => []

/- What happens to the listener in the course of some feeds. -/
def listenerEvents
    (h : Host)
    (feeds : List Feed) : List Listener.Event :=
  Run.outputs feed? listenerEventsOf h feeds

/- The hashes that were pushed in the course of some feeds. -/
def pushed
    (h : Host)
    (feeds : List Feed) : List String :=
  Run.outputs feed? pushedOf h feeds

------------------------------------------------------------
-- The Listener Alone
------------------------------------------------------------

/-
  To move a listener leaves the rest of its host as it is, but
  that a stream which the listener does not hold any more is
  dropped.
-/
theorem moveListener?_cases
    {h next : Host}
    {e : Listener.Event}
    (hMove : h.moveListener? e = some next) :
    ∃ l, Listener.Step h.listener e l ∧
      (((h.stream = none ∨ l.phase.isSubscribed = true) ∧
          next = { h with listener := l }) ∨
        ∃ s, h.stream = some s ∧
          l.phase.isSubscribed = false ∧
          next =
            { h with
              listener := l
              wallet := h.wallet.dropStream s
              stream := none }) := by
  rcases Option.map_eq_some_iff.mp hMove with ⟨l, hStep, hNext⟩
  refine ⟨l, Listener.step_of_step? hStep, ?_⟩
  cases hStream : h.stream with
  | none =>
      simp only [hStream] at hNext
      exact .inl ⟨.inl rfl, hNext.symm⟩
  | some s =>
      simp only [hStream] at hNext
      by_cases hHeld : l.phase.isSubscribed = true
      · rw [if_pos hHeld] at hNext
        exact .inl ⟨.inr hHeld, hNext.symm⟩
      · rw [if_neg hHeld] at hNext
        exact .inr
          ⟨s, rfl, eq_false_of_ne_true hHeld, hNext.symm⟩

/- To move a listener in its host is to move it alone. -/
theorem listener_of_moveListener?
    {h next : Host}
    {e : Listener.Event}
    (hMove : h.moveListener? e = some next) :
    h.listener.run? [e] = some next.listener := by
  rcases moveListener?_cases hMove with ⟨l, hStep, hNext⟩
  have hListener : next.listener = l := by
    rcases hNext with ⟨_, rfl⟩ | ⟨_, _, _, rfl⟩ <;> rfl
  rw [hListener]
  exact Run.run_cons_eq_some_iff.mpr
    ⟨l, Listener.step?_of_step hStep, rfl⟩

/- A feed moves the listener by its events. -/
theorem listener_of_feed?
    {h next : Host}
    {f : Feed}
    (hFeed : h.feed? f = some next) :
    h.listener.run? (h.listenerEventsOf f) =
      some next.listener := by
  cases f with
  | openStream =>
      simp only [feed?, openStream?] at hFeed
      cases hOpen : h.wallet.openStream with
      | error e =>
          simp only [hOpen] at hFeed
          simp only [listenerEventsOf, hOpen]
          exact listener_of_moveListener? hFeed
      | ok r =>
          simp only [hOpen] at hFeed
          rcases Option.map_eq_some_iff.mp hFeed with
            ⟨l, hStep, rfl⟩
          simp only [listenerEventsOf, hOpen]
          exact Run.run_cons_eq_some_iff.mpr ⟨l, hStep, rfl⟩
  | poll =>
      simp only [feed?, poll?] at hFeed
      cases hStream : h.stream with
      | none => simp [hStream] at hFeed
      | some s =>
          rcases hPoll : h.wallet.poll s with ⟨p, t, w⟩
          cases p with
          | item id =>
              simp only [hStream, hPoll] at hFeed
              simp only [listenerEventsOf, hStream, hPoll,
                Option.map_some]
              have hMoved := listener_of_moveListener? hFeed
              exact hMoved
          | ended =>
              simp only [hStream, hPoll] at hFeed
              simp only [listenerEventsOf, hStream, hPoll,
                Option.map_some]
              exact listener_of_moveListener? hFeed
          | empty => simp [hStream, hPoll] at hFeed
  | listener e =>
      rcases Option.ite_none_right_eq_some.mp hFeed with
        ⟨_, hMove⟩
      exact listener_of_moveListener? hMove
  | use o =>
      rcases Option.ite_none_right_eq_some.mp hFeed with
        ⟨_, hUse⟩
      rcases Option.map_eq_some_iff.mp hUse with ⟨q, _, rfl⟩
      rfl
  | change w =>
      rcases Option.ite_none_right_eq_some.mp hFeed with
        ⟨_, hSome⟩
      cases hSome
      rfl

/- In a run of feeds, the listener runs by its events. -/
theorem listener_of_feeds
    {h last : Host}
    {feeds : List Feed}
    (hRun : feeds.foldlM feed? h = some last) :
    h.listener.run? (h.listenerEvents feeds) =
      some last.listener :=
  Run.run_outputs (p := Host.listener) listener_of_feed? hRun

/-
  A listener that does not begin to hold the reading end goes on
  to hold it or not, or drops it.
-/
theorem moveListener?_relayed
    {h next : Host}
    {e : Listener.Event}
    (hStream :
      h.stream =
        if h.listener.phase.isSubscribed then some .relayed
        else none)
    (hUnopened :
      ∀ {l}, Listener.Step h.listener e l →
        l.phase.isSubscribed = true →
        h.listener.phase.isSubscribed = true)
    (hMove : h.moveListener? e = some next) :
    ∃ l : Listener,
      (l.phase.isSubscribed = h.listener.phase.isSubscribed ∧
          next = { h with listener := l }) ∨
        (h.listener.phase.isSubscribed = true ∧
          l.phase.isSubscribed = false ∧
          next =
            { h with
              listener := l
              wallet := h.wallet.dropStream .relayed
              stream := none }) := by
  rcases moveListener?_cases hMove with ⟨l, hStep, hNext⟩
  refine ⟨l, ?_⟩
  cases hBefore : h.listener.phase.isSubscribed with
  | true =>
      rw [hBefore, if_pos rfl] at hStream
      rcases hNext with ⟨hStay, hSame⟩ | ⟨s, hSome, hLeft, hNext⟩
      · refine .inl ⟨hStay.resolve_left ?_, hSame⟩
        rw [hStream]
        nofun
      · rw [hStream] at hSome
        cases hSome
        exact .inr ⟨rfl, hLeft, hNext⟩
  | false =>
      rw [hBefore, if_neg nofun] at hStream
      rcases hNext with ⟨_, hSame⟩ | ⟨s, hSome, _, _⟩
      · refine .inl ⟨eq_false_of_ne_true fun hHeld => ?_, hSame⟩
        rw [hUnopened hStep hHeld] at hBefore
        cases hBefore
      · rw [hStream] at hSome
        cases hSome

/-
  A listener that asks for the reading end gets it, or finds that
  somebody else has it and stops.
-/
theorem openStream?_cases
    {h next : Host}
    {q : RelayQueue}
    (hRelay : h.wallet.relay? = some q)
    (hOpen : h.openStream? = some next) :
    (q.readingEnd = .kept ∧
        next =
          { h with
            wallet :=
              h.wallet.withRelay { q with readingEnd := .taken }
            stream := some .relayed
            listener := { h.listener with phase := .waiting } }) ∨
      (q.readingEnd ≠ .kept ∧
        h.moveListener? (.openStream (.error .streamTaken)) =
          some next) := by
  have hStream :
      h.wallet.openStream =
        q.takeStream.map fun r =>
          (.relayed, h.wallet.withRelay r) := by
    simp only [Wallet.openStream, hRelay]
  by_cases hKept : q.readingEnd = .kept
  · rw [RelayQueue.takeStream, if_pos hKept] at hStream
    simp only [openStream?, hStream, Except.map] at hOpen
    rcases Option.map_eq_some_iff.mp hOpen with ⟨l, hStep, rfl⟩
    cases Listener.step_of_step? hStep
    exact .inl ⟨hKept, rfl⟩
  · rw [RelayQueue.takeStream, if_neg hKept] at hStream
    simp only [openStream?, hStream, Except.map] at hOpen
    exact .inr ⟨hKept, hOpen⟩

/- A listener whose stream was taken holds none after that. -/
theorem unopened_of_streamTaken
    {l m : Listener}
    (hStep : Listener.Step l (.openStream (.error .streamTaken)) m)
    (hHeld : m.phase.isSubscribed = true) :
    l.phase.isSubscribed = true := by
  cases hStep
  cases hHeld

/- A listener that holds the reading end reads the oldest hash. -/
theorem poll?_cases
    {h next : Host}
    {q : RelayQueue}
    (hRelay : h.wallet.relay? = some q)
    (hStream : h.stream = some .relayed)
    (hPoll : h.poll? = some next) :
    ∃ id rest, q.waiting = id :: rest ∧
      h.listenerEventsOf .poll = [.item id] ∧
      next =
        { h with
          wallet := h.wallet.withRelay { q with waiting := rest }
          stream := some .relayed
          listener :=
            { h.listener with phase := .lookingUp id } } := by
  cases hWaiting : q.waiting with
  | nil =>
      simp [poll?, hStream, Wallet.poll, hRelay,
        RelayQueue.receive, hWaiting] at hPoll
  | cons id rest =>
      simp only [poll?, hStream, Wallet.poll, hRelay,
        Option.bind_some, RelayQueue.receive, hWaiting] at hPoll
      refine ⟨id, rest, rfl, ?_, ?_⟩
      · simp [listenerEventsOf, hStream, Wallet.poll, hRelay,
          RelayQueue.receive, hWaiting]
      · rcases moveListener?_cases hPoll with
          ⟨l, hStep, ⟨_, rfl⟩ | ⟨_, _, hLeft, _⟩⟩
        · cases hStep
          rfl
        · cases hStep
          cases hLeft

------------------------------------------------------------
-- One Feed
------------------------------------------------------------

/-
  How a host agrees with what its listener took and with what
  was pushed.  While the listener holds the stream, what it has
  not taken waits in the queue.
-/
structure IsFed
    (taken pushed : List String)
    (h : Host)
    (q : RelayQueue) : Prop where
  relay : h.wallet.relay? = some q
  started : taken <+: pushed
  kept :
    q.readingEnd = .kept → taken = [] ∧ pushed = q.waiting
  held :
    h.listener.phase.isSubscribed = true →
      q.readingEnd = .taken ∧ pushed = taken ++ q.waiting
  stream :
    h.stream =
      if h.listener.phase.isSubscribed then some .relayed
      else none

namespace IsFed

variable {taken pushed : List String} {h next : Host}
variable {q : RelayQueue}

/-
  A listener that does not begin to hold a stream keeps what was
  taken and pushed.
-/
theorem moveListener?
    (hFed : IsFed taken pushed h q)
    {e : Listener.Event}
    (hUnopened :
      ∀ {l}, Listener.Step h.listener e l →
        l.phase.isSubscribed = true →
        h.listener.phase.isSubscribed = true)
    (hMove : h.moveListener? e = some next) :
    ∃ r, IsFed taken pushed next r := by
  rcases moveListener?_relayed hFed.stream hUnopened hMove with
    ⟨l, ⟨hSame, rfl⟩ | ⟨hHeld, hLeft, rfl⟩⟩
  · refine ⟨q, hFed.relay, hFed.started, hFed.kept, ?_, ?_⟩
    · intro hHeld
      exact hFed.held (hSame.symm.trans hHeld)
    · show h.stream = if l.phase.isSubscribed then _ else _
      rw [hSame]
      exact hFed.stream
  · -- The reading end goes away, with all that waits.
    have hTaken := (hFed.held hHeld).1
    have hDropped : q.dropStream.readingEnd = .gone := by
      rw [RelayQueue.dropStream, if_pos hTaken]
      rfl
    refine ⟨q.dropStream, ?_, hFed.started, ?_, ?_, ?_⟩
    · simp only [Wallet.dropStream, hFed.relay]
      exact Wallet.relay?_withRelay hFed.relay _
    · intro hKept
      rw [hDropped] at hKept
      cases hKept
    · intro hStill
      rw [hLeft] at hStill
      cases hStill
    · rw [hLeft]
      rfl

/- A stream that opens begins with the hashes that wait. -/
theorem openStream?
    (hFed : IsFed taken pushed h q)
    (hOpen : h.openStream? = some next) :
    ∃ r, IsFed taken pushed next r := by
  rcases openStream?_cases hFed.relay hOpen with
    ⟨hKept, rfl⟩ | ⟨_, hMove⟩
  · rcases hFed.kept hKept with ⟨rfl, hWaiting⟩
    refine ⟨{ q with readingEnd := .taken },
      Wallet.relay?_withRelay hFed.relay _, hFed.started,
      ?_, ?_, rfl⟩
    · intro hStill
      cases hStill
    · intro _
      exact ⟨rfl, hWaiting⟩
  · exact hFed.moveListener? unopened_of_streamTaken hMove

/- The listener takes the hash that waits first. -/
theorem poll?
    (hFed : IsFed taken pushed h q)
    (hPoll : h.poll? = some next) :
    ∃ r, IsFed
      (taken ++ Listener.dequeued (h.listenerEventsOf .poll))
      pushed next r := by
  have hStream := hFed.stream
  by_cases hHeld : h.listener.phase.isSubscribed = true
  · rw [if_pos hHeld] at hStream
    rcases hFed.held hHeld with ⟨hTaken, hPushed⟩
    rcases poll?_cases hFed.relay hStream hPoll with
      ⟨id, rest, hWaiting, hEvents, rfl⟩
    have hAll : pushed = (taken ++ [id]) ++ rest := by
      rw [hPushed, hWaiting, List.append_assoc]
      rfl
    rw [hEvents]
    refine ⟨{ q with waiting := rest },
      Wallet.relay?_withRelay hFed.relay _, ?_, ?_,
      fun _ => ⟨hTaken, hAll⟩, rfl⟩
    · rw [hAll]
      exact List.prefix_append _ _
    · intro hKept
      rw [hTaken] at hKept
      cases hKept
  · rw [if_neg hHeld] at hStream
    simp [Host.poll?, hStream] at hPoll

/- Others use the queue, whether or not the stream is held. -/
theorem use
    (hFed : IsFed taken pushed h q)
    {o : RelayQueue.Operation}
    (hMay : h.mayUse o = true)
    {entry : RelayQueue.Entry}
    {r : RelayQueue}
    (hRule : RelayQueue.Rule q o entry r) :
    IsFed taken (pushed ++ RelayQueue.accepted [entry])
      { h with wallet := h.wallet.withRelay r } r := by
  have hRelay := Wallet.relay?_withRelay hFed.relay r
  have hStarted :
      taken <+: pushed ++ RelayQueue.accepted [entry] :=
    hFed.started.trans (List.prefix_append _ _)
  have hUnheld :
      h.stream.isNone = true →
        h.listener.phase.isSubscribed = true → False := by
    intro hNone hHeld
    rw [hFed.stream, if_pos hHeld] at hNone
    cases hNone
  cases hRule with
  | accept hash hAlive hRoom =>
      refine ⟨hRelay, hStarted, ?_, ?_, hFed.stream⟩
      · intro hKept
        rcases hFed.kept hKept with ⟨hNone, hWaiting⟩
        refine ⟨hNone, ?_⟩
        rw [hWaiting]
        rfl
      · intro hHeld
        rcases hFed.held hHeld with ⟨hTaken, hPushed⟩
        refine ⟨hTaken, ?_⟩
        rw [hPushed, List.append_assoc]
        rfl
  | take hKept =>
      refine ⟨hRelay, hStarted, ?_, ?_, hFed.stream⟩
      · intro hStill
        cases hStill
      · intro hHeld
        rw [(hFed.held hHeld).1] at hKept
        cases hKept
  | receive hash rest hTaken hWaiting =>
      refine ⟨hRelay, hStarted, ?_,
        fun hHeld => (hUnheld hMay hHeld).elim, hFed.stream⟩
      intro hKept
      rw [hTaken] at hKept
      cases hKept
  | drop hTaken =>
      refine ⟨hRelay, hStarted, ?_,
        fun hHeld => (hUnheld hMay hHeld).elim, hFed.stream⟩
      intro hKept
      cases hKept
  | close hKept =>
      refine ⟨hRelay, hStarted, ?_, ?_, hFed.stream⟩
      · intro hStill
        cases hStill
      · intro hHeld
        rw [(hFed.held hHeld).1] at hKept
        cases hKept
  | _ =>
      refine ⟨hRelay, hStarted, ?_, ?_, hFed.stream⟩
      · intro hKept
        simpa [RelayQueue.accepted] using hFed.kept hKept
      · intro hHeld
        simpa [RelayQueue.accepted] using hFed.held hHeld

end IsFed

/- An event without the queue takes no id and opens no stream. -/
theorem isOwn_cases
    {e : Listener.Event}
    (hOwn : isOwn e = true) :
    Listener.dequeued [e] = [] ∧
      ∀ {l m : Listener}, Listener.Step l e m →
        m.phase.isSubscribed = true →
        l.phase.isSubscribed = true := by
  constructor
  · cases e with
    | item id => cases hOwn
    | _ => rfl
  intro l m hStep hHeld
  cases hStep with
  | openStream r hPhase hGoOn => cases hOwn
  | item id hPhase => cases hOwn
  | answer id s hPhase => rw [hPhase]; rfl
  | send i hPhase hThere hRoom => rw [hPhase]; rfl
  | receive i rest hQueue => exact hHeld
  | dropHost hThere => exact hHeld
  | cancel => exact hHeld
  | pass ms hMay => exact hHeld
  | _ => cases hHeld

/- Every feed goes on to agree with what was taken and pushed. -/
theorem isFed_of_feed
    {taken pushed : List String}
    {h next : Host}
    {q : RelayQueue}
    {f : Feed}
    (hFed : IsFed taken pushed h q)
    (hFeed : h.feed? f = some next) :
    ∃ r, IsFed
      (taken ++ Listener.dequeued (h.listenerEventsOf f))
      (pushed ++ h.pushedOf f) next r := by
  cases f with
  | openStream =>
      have hNone :
          Listener.dequeued (h.listenerEventsOf .openStream) =
            [] := rfl
      have hIdle : h.pushedOf .openStream = [] := rfl
      rw [hNone, hIdle, List.append_nil, List.append_nil]
      exact hFed.openStream? hFeed
  | poll =>
      have hIdle : h.pushedOf .poll = [] := rfl
      rw [hIdle, List.append_nil]
      exact hFed.poll? hFeed
  | listener e =>
      rcases Option.ite_none_right_eq_some.mp hFeed with
        ⟨hOwn, hMove⟩
      rcases isOwn_cases hOwn with ⟨hNone, hUnopened⟩
      have hIdle : h.pushedOf (.listener e) = [] := rfl
      rw [listenerEventsOf, hNone, hIdle, List.append_nil,
        List.append_nil]
      exact hFed.moveListener? hUnopened hMove
  | use o =>
      rcases Option.ite_none_right_eq_some.mp hFeed with
        ⟨hMay, hUse⟩
      rcases Option.map_eq_some_iff.mp hUse with ⟨r, hBind, rfl⟩
      simp only [hFed.relay, Option.bind_some] at hBind
      rcases RelayQueue.step?_eq_some_iff.mp hBind with
        ⟨entry, hPerform, hNote⟩
      have hPushed :
          h.pushedOf (.use o) =
            RelayQueue.accepted [entry] := by
        simp only [pushedOf, hFed.relay, hNote]
      have hNone :
          Listener.dequeued (h.listenerEventsOf (.use o)) =
            [] := rfl
      rw [hNone, hPushed, List.append_nil]
      exact ⟨r, hFed.use hMay
        (RelayQueue.rule_of_perform? hPerform)⟩
  | change w =>
      rcases Option.ite_none_right_eq_some.mp hFeed with
        ⟨hSame, hSome⟩
      cases hSome
      have hNone :
          Listener.dequeued (h.listenerEventsOf (.change w)) =
            [] := rfl
      have hIdle : h.pushedOf (.change w) = [] := rfl
      rw [hNone, hIdle, List.append_nil, List.append_nil]
      exact ⟨q, hSame.trans hFed.relay, hFed.started, hFed.kept,
        hFed.held, hFed.stream⟩

------------------------------------------------------------
-- Whole Runs
------------------------------------------------------------

/- Every run of feeds agrees with what was taken and pushed. -/
theorem isFed_of_feeds
    {start last : Host}
    {feeds : List Feed}
    {q : RelayQueue}
    (hStart : IsFed [] [] start q)
    (hRun : feeds.foldlM feed? start = some last) :
    ∃ r, IsFed
      (Listener.dequeued (start.listenerEvents feeds))
      (start.pushed feeds) last r := by
  refine Run.history_of_run
    (P := fun past h => ∃ r, IsFed
      (Listener.dequeued (start.listenerEvents past))
      (start.pushed past) h r)
    ?_ ⟨q, hStart⟩ hRun
  intro past h next f hPast hFed hFeed
  rcases hFed with ⟨r, hFed⟩
  rw [listenerEvents, pushed, Run.outputs_snoc hPast hFeed,
    Run.outputs_snoc hPast hFeed, Listener.dequeued_append]
  exact isFed_of_feed hFed hFeed

/-
  For all behaviours of a wallet and of a host, and all moments
  at which the listener is cancelled: the ids that the listener
  forwarded are those that it took, but for one at most, which
  is in hand or was lost as the host went away; each goes with
  an answer to a lookup of that very id; an id in hand can still
  be forwarded; and nothing is in hand of a listener that has
  stopped.

  If a webhook feeds the wallet, then whatever else happens to
  its queue, the ids that the listener took are a beginning of
  the hashes that were pushed.
-/
theorem forwarded_in_order :
    (∀ (delay capacity : Nat)
        (events : List Listener.Event)
        (l : Listener),
      let start := Listener.start delay capacity
      start.run? events = some l →
        (start.forwarded events).map (·.id) <+:
            Listener.dequeued events ∧
          (Listener.dequeued events).length ≤
            (start.forwarded events).length + 1 ∧
          (∀ number i,
            (start.forwarded events)[number]? = some i →
              Listener.IsAnswered start events number i) ∧
          (l.hostGone = false →
            Listener.dequeued events =
                (start.forwarded events).map (·.id) ++
                  l.phase.inHand ∧
              ∀ id, l.phase.inHand = [id] → 0 < capacity →
                ∃ later m status, l.run? later = some m ∧
                  l.forwarded later = [⟨id, status⟩]) ∧
          (l.phase = .stopped → l.hostGone = false →
            (start.forwarded events).map (·.id) =
              Listener.dequeued events)) ∧
    (∀ (delay capacity size : Nat)
        (start last : Host)
        (feeds : List Feed),
      start.listener = .start delay capacity →
      start.stream = none →
      start.wallet.relay? = some (.ofCapacity size) →
      feeds.foldlM feed? start = some last →
        start.listener.run? (start.listenerEvents feeds) =
            some last.listener ∧
          Listener.dequeued (start.listenerEvents feeds) <+:
            start.pushed feeds) := by
  constructor
  · intro delay capacity events l start hRun
    have hForwards : Listener.Forwards start events l :=
      Listener.forwards_of_run rfl hRun
    refine ⟨hForwards.ids_prefix.1, hForwards.ids_prefix.2,
      ?_, ?_, ?_⟩
    · intro number i hAt
      refine hForwards.answered number i ?_
      rw [List.getElem?_append_left
        (List.getElem?_eq_some_iff.mp hAt).1]
      exact hAt
    · intro hHost
      refine ⟨hForwards.ids_of_there hHost, ?_⟩
      intro id hHand hRoom
      refine Listener.exists_forwarded_inHand hHand hHost ?_
      rw [Listener.capacity_of_run hRun]
      exact hRoom
    · intro hStopped hHost
      rw [hForwards.ids_of_there hHost, hStopped]
      exact (List.append_nil _).symm
  · intro delay capacity size start last feeds hListener hStream
      hRelay hRun
    have hStart :
        IsFed [] [] start (.ofCapacity size) := by
      refine ⟨hRelay, List.prefix_rfl, fun _ => ⟨rfl, rfl⟩,
        ?_, ?_⟩
      · intro hHeld
        rw [hListener] at hHeld
        cases hHeld
      · rw [hStream, hListener]
        rfl
    rcases isFed_of_feeds hStart hRun with ⟨r, hFed⟩
    exact ⟨listener_of_feeds hRun, hFed.started⟩

/- A host of a wallet in memory, about to listen. -/
def fresh : Host where
  wallet := .memory ⟨[], [], .ofCapacity 2, none, [], 0, false⟩
  stream := none
  listener := .start 10 1
  stage := .built
  log := []

/- A listener that is cancelled while it looks an id up. -/
def cancelledInLookup : List Feed :=
  [.use (.push "aa"), .openStream, .poll, .listener .cancel,
   .listener (.answer .pending), .listener .send,
   .use (.push "bb"), .listener .leave, .listener .stop,
   .use (.push "cc")]

/- The listener forwards the id that it had in hand, and stops. -/
theorem forwarded_in_order_of_cancelledInLookup :
    ∃ last, cancelledInLookup.foldlM feed? fresh = some last ∧
      last.listener.phase = .stopped ∧
      (fresh.listener.forwarded
          (fresh.listenerEvents cancelledInLookup)).map (·.id) =
        Listener.dequeued
          (fresh.listenerEvents cancelledInLookup) ∧
      Listener.dequeued
          (fresh.listenerEvents cancelledInLookup) <+:
        fresh.pushed cancelledInLookup ∧
      fresh.pushed cancelledInLookup = ["aa", "bb"] := by
  let stopped : Host :=
    { fresh with
      wallet := .memory
        ⟨[], [], ⟨2, [], .gone⟩, none, [], 0, false⟩
      listener :=
        ⟨10, 1, 0, .stopped, [⟨"aa", .pending⟩], false, true⟩ }
  have hRun :
      cancelledInLookup.foldlM feed? fresh = some stopped := rfl
  rcases forwarded_in_order.2 10 1 2 fresh stopped
      cancelledInLookup rfl rfl rfl hRun with
    ⟨hListener, hPushed⟩
  rcases forwarded_in_order.1 10 1 _ stopped.listener
      hListener with
    ⟨_, _, _, _, hStopped⟩
  exact ⟨stopped, hRun, rfl, hStopped rfl rfl, hPushed, rfl⟩

end Host

end LightningGateway
