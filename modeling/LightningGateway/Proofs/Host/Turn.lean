import LightningGateway.Proofs.Listener.Webhook

/-
  A host among others that use its wallet.

  A turn is an event of the host, or something that others do
  with the wallet.  What a turn changes is read off once, from
  the events of the host, the listener and the wallet: the stage
  of the host, its log, and the events of its listener.

  Key definitions include:
    * `Host.Turn`
    * `Host.turn?`
    * `Host.movesOf`
    * `Host.Rule`
    * `Host.Uses`

  Main results:
    * `Host.rule_of_turn?`
    * `Host.listener_of_turn?`
-/

namespace LightningGateway

open Payment Provider Relay

namespace Host

------------------------------------------------------------
-- Turns
------------------------------------------------------------

/- What may happen to a host and, by others, to its wallet. -/
inductive Turn where
  | event (e : Event)
  -- Somebody else uses the queue.
  | use (o : RelayQueue.Operation)
  -- The wallet changes, but not its queue.
  | change (w : Wallet)

/- The host after a turn, if it is possible. -/
def turn?
    (h : Host) : Turn → Option Host
  | .event e => h.step? e
  | .use o => h.feed? (.use o)
  | .change w => h.feed? (.change w)

/- The status that outcomes give the id that is looked up. -/
def answer
    (h : Host)
    (outcomes : List Outcome) : Option SettlementStatus :=
  match h.listener.phase with
  | .lookingUp id =>
      (h.wallet.invoiceStatus id).resultOf? outcomes
  | _ => none

/- How a turn moves the listener. -/
def movesOf
    (h : Host) : Turn → List Listener.Event
  | .event .openStream => h.listenerEventsOf .openStream
  | .event .poll => h.listenerEventsOf .poll
  | .event (.answer outcomes) =>
      ((h.answer outcomes).map .answer).toList
  | .event (.listener e) => [e]
  | .event .settled => [.receive]
  | .event .channelEnded => [.cancel]
  | .event (.shutdown _) => [.cancel]
  | .event .finish => [.dropHost]
  | .event (.pass ms) => [.pass ms]
  | _ => []

/- What happens to the listener in the course of some turns. -/
def moves
    (h : Host)
    (turns : List Turn) : List Listener.Event :=
  Run.outputs turn? movesOf h turns

/- Whether the host itself does something for its own ends. -/
def Turn.isDeed : Turn → Bool
  | .event .listen => true
  | .event .settled => true
  | .event .channelEnded => true
  | .event (.shutdown _) => true
  | .event .join => true
  | .event .timeOut => true
  | .event .closeWallet => true
  | .event .finish => true
  | _ => false

/- Whether an event of a listener is not caused by its host. -/
def isUncaused : Listener.Event → Bool
  | .receive => false
  | .dropHost => false
  | .cancel => false
  | _ => true

------------------------------------------------------------
-- Departures
------------------------------------------------------------

/- Why a host leaves its loop. -/
inductive Departure where
  | shutdown (s : Option Signal)
  | channelEnded
  deriving DecidableEq, Repr

namespace Departure

/- The event by which a host leaves its loop. -/
def event : Departure → Event
  | .shutdown s => .shutdown s
  | .channelEnded => .channelEnded

/- The failure that the host keeps in mind. -/
def failure : Departure → Option Failure
  | .shutdown _ => none
  | .channelEnded => some .listenerStopped

/- What is logged about it. -/
def lines : Departure → List LogLine
  | .shutdown (some s) => [signalLine s]
  | _ => []

end Departure

------------------------------------------------------------
-- Rules
------------------------------------------------------------

/-
  What a turn changes apart from the wallet, one rule for each
  deed of the host, one for turns that move the listener, and
  one for all others.
-/
inductive Rule (h next : Host) : Turn → Prop
  | idle
      {t : Turn}
      (hOther : t.isDeed = false)
      (hMoves : h.movesOf t = [])
      (hListener : next.listener = h.listener)
      (hStage : next.stage = h.stage)
      (hLog : next.log = h.log) :
      Rule h next t
  | move
      {t : Turn}
      (e : Listener.Event)
      (hOther : t.isDeed = false)
      (hUncaused : isUncaused e = true)
      (hMoves : h.movesOf t = [e])
      (hStep : Listener.Step h.listener e next.listener)
      (hStage : next.stage = h.stage)
      (hLog : next.log = h.log) :
      Rule h next t
  | listen
      (hBuilt : h.stage = .built)
      (hListener : next.listener = h.listener)
      (hStage : next.stage = .listening)
      (hLog :
        next.log =
          h.log ++ [.info "Listening for settled invoices..."]) :
      Rule h next (.event .listen)
  | settled
      (s : SettledInvoice)
      (rest : List SettledInvoice)
      (hListening : h.stage = .listening)
      (hQueue : h.listener.queue = s :: rest)
      (hListener :
        next.listener = { h.listener with queue := rest })
      (hStage : next.stage = .listening)
      (hLog : next.log = h.log ++ [settledLine s]) :
      Rule h next (.event .settled)
  | leave
      (d : Departure)
      (hListening : h.stage = .listening)
      (hEnded :
        d = .channelEnded →
          h.listener.phase = .stopped ∧ h.listener.queue = [])
      (hListener :
        next.listener = { h.listener with cancelled := true })
      (hStage :
        next.stage = .stopping d.failure h.listener.now)
      (hLog :
        next.log =
          h.log ++ d.lines ++ [.info "Shutdown initiated"]) :
      Rule h next (.event d.event)
  | join
      (failure : Option Failure)
      (since : Nat)
      (hStopping : h.stage = .stopping failure since)
      (hStopped : h.listener.phase = .stopped)
      (hListener : next.listener = h.listener)
      (hStage : next.stage = .closing failure)
      (hLog :
        next.log =
          h.log ++
            [.info "Background tasks completed gracefully"]) :
      Rule h next (.event .join)
  | timeOut
      (failure : Option Failure)
      (since : Nat)
      (hStopping : h.stage = .stopping failure since)
      (hOver : since + window ≤ h.listener.now)
      (hListener : next.listener = h.listener)
      (hStage : next.stage = .closing failure)
      (hLog :
        next.log =
          h.log ++
            [⟨.warn,
              "Background tasks timed out during shutdown"⟩]) :
      Rule h next (.event .timeOut)
  | closeWallet
      (failure : Option Failure)
      (hClosing : h.stage = .closing failure)
      (hWallet : next.wallet = h.wallet.close)
      (hListener : next.listener = h.listener)
      (hStage : next.stage = .closed failure)
      (hLog : next.log = h.log) :
      Rule h next (.event .closeWallet)
  | finish
      (failure : Option Failure)
      (hClosed : h.stage = .closed failure)
      (hThere : h.listener.hostGone = false)
      (hListener :
        next.listener =
          { h.listener with queue := [], hostGone := true })
      (hStage : next.stage = .finished failure)
      (hLog :
        next.log = h.log ++ [.info "Shutdown complete"]) :
      Rule h next (.event .finish)

/-
  How the wallet is used in the course of an event that leaves
  everything else in the host alone.
-/
inductive Uses : Wallet → Event → Wallet → Prop
  | push
      {w next : Wallet}
      {hash : String}
      (hPush : w.push? hash = some (.ok next)) :
      Uses w (.push hash) next
  | settle
      {l m : Ledger}
      {id : String}
      (hSettle : l.settle id = .ok m) :
      Uses (.memory l) (.settle id) (.memory m)
  | createInvoice
      (l : Ledger)
      (random : List UInt8)
      (r : InvoiceRequest) :
      Uses (.memory l) (.createInvoice random r)
        (.memory (l.createInvoice random r).2)
  | payInvoice
      (l : Ledger)
      (random : List UInt8)
      (paymentRequest : String) :
      Uses (.memory l) (.payInvoice random paymentRequest)
        (.memory (l.payInvoice random paymentRequest).2)

/- Whether an event only uses the wallet. -/
def Event.isUse : Event → Bool
  | .push _ => true
  | .settle _ => true
  | .createInvoice _ _ => true
  | .payInvoice _ _ => true
  | _ => false

/- To use the wallet leaves everything else alone. -/
theorem exists_uses_of_step?
    {h next : Host}
    {e : Event}
    (hUse : e.isUse = true)
    (hStep : h.step? e = some next) :
    ∃ w, Uses h.wallet e w ∧ next = { h with wallet := w } := by
  cases e with
  | push hash =>
      simp only [step?] at hStep
      split at hStep
      · rename_i w hPush
        cases hStep
        exact ⟨w, .push hPush, rfl⟩
      · cases hStep
  | settle id =>
      simp only [step?] at hStep
      split at hStep
      · rename_i l hWallet
        split at hStep
        · rename_i m hSettle
          cases hStep
          exact ⟨.memory m, hWallet ▸ .settle hSettle, rfl⟩
        · cases hStep
      · cases hStep
  | createInvoice random r =>
      simp only [step?] at hStep
      split at hStep
      · rename_i l hWallet
        cases hStep
        exact ⟨_, hWallet ▸ .createInvoice l random r, rfl⟩
      · cases hStep
  | payInvoice random paymentRequest =>
      simp only [step?] at hStep
      split at hStep
      · rename_i l hWallet
        cases hStep
        exact ⟨_, hWallet ▸ .payInvoice l random paymentRequest,
          rfl⟩
      · cases hStep
  | _ => cases hUse

/- To move the listener is all that the host notices of it. -/
theorem step_of_moveListener?
    {h next : Host}
    {e : Listener.Event}
    (hMove : h.moveListener? e = some next) :
    Listener.Step h.listener e next.listener ∧
      next.stage = h.stage ∧
      next.log = h.log := by
  rcases moveListener?_cases hMove with
    ⟨l, hStep, ⟨_, rfl⟩ | ⟨_, _, _, rfl⟩⟩
  · exact ⟨hStep, rfl, rfl⟩
  · exact ⟨hStep, rfl, rfl⟩

/- To ask for the stream is a move of the listener. -/
theorem rule_of_openStream?
    {h next : Host}
    (hOpen : h.openStream? = some next) :
    Rule h next (.event .openStream) := by
  unfold openStream? at hOpen
  have hMoves :
      h.movesOf (.event .openStream) =
        [.openStream (h.wallet.openStream.map fun _ => ())] :=
    rfl
  cases hStream : h.wallet.openStream with
  | error e =>
      simp only [hStream] at hOpen
      rw [hStream] at hMoves
      rcases step_of_moveListener? hOpen with
        ⟨hStep, hStage, hLog⟩
      exact .move _ rfl rfl hMoves hStep hStage hLog
  | ok opened =>
      simp only [hStream] at hOpen
      rw [hStream] at hMoves
      rcases Option.map_eq_some_iff.mp hOpen with
        ⟨l, hStep, rfl⟩
      exact .move _ rfl rfl hMoves
        (Listener.step_of_step? hStep) rfl rfl

/- To look at the stream is a move of the listener. -/
theorem rule_of_poll?
    {h next : Host}
    (hPoll : h.poll? = some next) :
    Rule h next (.event .poll) := by
  unfold poll? at hPoll
  cases hStream : h.stream with
  | none => simp [hStream] at hPoll
  | some s =>
      rcases hFound : h.wallet.poll s with ⟨p, t, w⟩
      cases p with
      | item id =>
          simp only [hStream, hFound] at hPoll
          rcases step_of_moveListener? hPoll with
            ⟨hStep, hStage, hLog⟩
          refine .move (.item id) rfl rfl ?_ hStep hStage hLog
          simp [movesOf, listenerEventsOf, hStream, hFound]
      | ended =>
          simp only [hStream, hFound] at hPoll
          rcases step_of_moveListener? hPoll with
            ⟨hStep, hStage, hLog⟩
          refine .move .ended rfl rfl ?_ hStep hStage hLog
          simp [movesOf, listenerEventsOf, hStream, hFound]
      | empty => simp [hStream, hFound] at hPoll

/- To go on after a lookup is a move of the listener. -/
theorem rule_of_answer?
    {h next : Host}
    {outcomes : List Outcome}
    (hAnswer : h.answer? outcomes = some next) :
    Rule h next (.event (.answer outcomes)) := by
  unfold answer? at hAnswer
  cases hPhase : h.listener.phase with
  | lookingUp id =>
      simp only [hPhase] at hAnswer
      rcases Option.bind_eq_some_iff.mp hAnswer with
        ⟨s, hResult, hMove⟩
      rcases step_of_moveListener? hMove with
        ⟨hStep, hStage, hLog⟩
      refine .move (.answer s) rfl rfl ?_ hStep hStage hLog
      simp [movesOf, answer, hPhase, hResult]
  | _ => simp [hPhase] at hAnswer

/- A settled invoice is taken from the queue and logged. -/
theorem rule_of_settled?
    {h next : Host}
    (hSettled : h.settled? = some next) :
    Rule h next (.event .settled) := by
  unfold settled? at hSettled
  split at hSettled
  · rename_i s rest hListening hQueue
    rcases Option.map_eq_some_iff.mp hSettled with
      ⟨m, hMove, rfl⟩
    rcases step_of_moveListener? hMove with
      ⟨hStep, hStage, hLog⟩
    have hListener :
        m.listener = { h.listener with queue := rest } := by
      generalize m.listener = l at hStep ⊢
      cases hStep with
      | receive i others hHead =>
          rw [hQueue] at hHead
          cases hHead
          rfl
    exact .settled s rest hListening hQueue hListener
      (hStage.trans hListening) (by rw [← hLog]; rfl)
  · cases hSettled

/- A host that winds up has cancelled its listener. -/
theorem wind_cases
    {h next : Host}
    {failure : Option Failure}
    (hWind : h.wind failure = some next) :
    next.listener = { h.listener with cancelled := true } ∧
      next.stage = .stopping failure h.listener.now ∧
      next.log = h.log ++ [.info "Shutdown initiated"] := by
  rcases Option.map_eq_some_iff.mp hWind with ⟨m, hMove, rfl⟩
  rcases step_of_moveListener? hMove with ⟨hStep, _, hLog⟩
  have hListener :
      m.listener = { h.listener with cancelled := true } := by
    generalize m.listener = l at hStep ⊢
    cases hStep
    rfl
  refine ⟨hListener, ?_, by rw [← hLog]; rfl⟩
  show Stage.stopping failure m.listener.now = _
  rw [hListener]

/- A host that is told to shut down leaves its loop. -/
theorem rule_of_shutdown
    {h next : Host}
    {s : Option Signal}
    (hStep : h.step? (.shutdown s) = some next) :
    Rule h next (.event (.shutdown s)) := by
  rcases Option.ite_none_right_eq_some.mp hStep with
    ⟨hListening, hWind⟩
  cases s with
  | none =>
      rcases wind_cases hWind with ⟨hListener, hStage, hLog⟩
      exact .leave (.shutdown none) hListening nofun hListener
        hStage (by rw [hLog]; simp [Departure.lines])
  | some s =>
      rcases wind_cases hWind with ⟨hListener, hStage, hLog⟩
      exact .leave (.shutdown (some s)) hListening nofun
        hListener hStage hLog

/- A host whose queue has ended leaves its loop. -/
theorem rule_of_channelEnded
    {h next : Host}
    (hStep : h.step? .channelEnded = some next) :
    Rule h next (.event .channelEnded) := by
  rcases Option.ite_none_right_eq_some.mp hStep with
    ⟨⟨hListening, hStopped, hQueue⟩, hWind⟩
  rcases wind_cases hWind with ⟨hListener, hStage, hLog⟩
  exact .leave .channelEnded hListening
    (fun _ => ⟨hStopped, hQueue⟩) hListener hStage
    (by rw [hLog]; simp [Departure.lines])

/- A host whose listener has stopped waits no more. -/
theorem rule_of_join?
    {h next : Host}
    (hJoin : h.join? = some next) :
    Rule h next (.event .join) := by
  unfold join? at hJoin
  split at hJoin
  · rename_i failure since hStopping
    rcases Option.ite_none_right_eq_some.mp hJoin with
      ⟨hStopped, hSome⟩
    cases hSome
    exact .join failure since hStopping hStopped rfl rfl rfl
  · cases hJoin

/- A host that has waited for its window waits no more. -/
theorem rule_of_timeOut?
    {h next : Host}
    (hTimeOut : h.timeOut? = some next) :
    Rule h next (.event .timeOut) := by
  unfold timeOut? at hTimeOut
  split at hTimeOut
  · rename_i failure since hStopping
    rcases Option.ite_none_right_eq_some.mp hTimeOut with
      ⟨hOver, hSome⟩
    cases hSome
    exact .timeOut failure since hStopping hOver rfl rfl rfl
  · cases hTimeOut

/- A host that waits no more closes the wallet. -/
theorem rule_of_closeWallet?
    {h next : Host}
    (hClose : h.closeWallet? = some next) :
    Rule h next (.event .closeWallet) := by
  unfold closeWallet? at hClose
  split at hClose
  · rename_i failure hClosing
    cases hClose
    exact .closeWallet failure hClosing rfl rfl rfl rfl
  · cases hClose

/- A host whose wallet is closed returns. -/
theorem rule_of_finish?
    {h next : Host}
    (hFinish : h.finish? = some next) :
    Rule h next (.event .finish) := by
  unfold finish? at hFinish
  split at hFinish
  · rename_i failure hClosed
    rcases Option.map_eq_some_iff.mp hFinish with
      ⟨m, hMove, rfl⟩
    rcases step_of_moveListener? hMove with ⟨hStep, _, hLog⟩
    have hLeft :
        h.listener.hostGone = false ∧
          m.listener =
            { h.listener with queue := [], hostGone := true } := by
      generalize m.listener = l at hStep ⊢
      cases hStep with
      | dropHost hThere => exact ⟨hThere, rfl⟩
    exact .finish failure hClosed hLeft.1 hLeft.2 rfl
      (by rw [← hLog]; rfl)
  · cases hFinish

/- An event of the host follows a rule. -/
theorem rule_of_step?
    {h next : Host}
    {e : Event}
    (hStep : h.step? e = some next) :
    Rule h next (.event e) := by
  cases e with
  | listen =>
      rcases Option.ite_none_right_eq_some.mp hStep with
        ⟨hBuilt, hSome⟩
      cases hSome
      exact .listen hBuilt rfl rfl rfl
  | openStream => exact rule_of_openStream? hStep
  | poll => exact rule_of_poll? hStep
  | answer outcomes => exact rule_of_answer? hStep
  | settled => exact rule_of_settled? hStep
  | channelEnded => exact rule_of_channelEnded hStep
  | shutdown s => exact rule_of_shutdown hStep
  | join => exact rule_of_join? hStep
  | timeOut => exact rule_of_timeOut? hStep
  | closeWallet => exact rule_of_closeWallet? hStep
  | finish => exact rule_of_finish? hStep
  | listener e =>
      rcases Option.ite_none_right_eq_some.mp hStep with
        ⟨hInner, hMove⟩
      rcases step_of_moveListener? hMove with
        ⟨hMoved, hStage, hLog⟩
      have hUncaused : isUncaused e = true := by
        cases e <;> first | rfl | cases hInner
      exact .move e rfl hUncaused rfl hMoved hStage hLog
  | pass ms =>
      rcases Option.ite_none_right_eq_some.mp hStep with
        ⟨_, hPass⟩
      rcases Option.map_eq_some_iff.mp hPass with
        ⟨m, hMove, rfl⟩
      rcases step_of_moveListener? hMove with
        ⟨hMoved, hStage, hLog⟩
      exact .move (.pass ms) rfl rfl rfl hMoved hStage hLog
  | provide id =>
      simp only [step?] at hStep
      split at hStep
      · cases hStep
        exact .idle rfl rfl rfl rfl rfl
      · cases hStep
  | push _ | settle _ | createInvoice _ _ | payInvoice _ _ =>
      rcases exists_uses_of_step? rfl hStep with ⟨w, _, rfl⟩
      exact .idle rfl rfl rfl rfl rfl

/- Every turn follows a rule. -/
theorem rule_of_turn?
    {h next : Host}
    {t : Turn}
    (hTurn : h.turn? t = some next) :
    Rule h next t := by
  cases t with
  | event e => exact rule_of_step? hTurn
  | use o =>
      rcases Option.ite_none_right_eq_some.mp hTurn with
        ⟨_, hUse⟩
      rcases Option.map_eq_some_iff.mp hUse with ⟨q, _, rfl⟩
      exact .idle rfl rfl rfl rfl rfl
  | change w =>
      rcases Option.ite_none_right_eq_some.mp hTurn with
        ⟨_, hSome⟩
      cases hSome
      exact .idle rfl rfl rfl rfl rfl

/- A turn moves the listener by its events. -/
theorem listener_of_turn?
    {h next : Host}
    {t : Turn}
    (hTurn : h.turn? t = some next) :
    h.listener.run? (h.movesOf t) = some next.listener := by
  have hOne {e : Listener.Event}
      (hStep : Listener.Step h.listener e next.listener) :
      h.listener.run? [e] = some next.listener :=
    Run.run_cons_eq_some_iff.mpr
      ⟨_, Listener.step?_of_step hStep, rfl⟩
  cases rule_of_turn? hTurn with
  | move e hOther hUncaused hMoves hStep hStage hLog =>
      rw [hMoves]
      exact hOne hStep
  | settled s rest hListening hQueue hListener hStage hLog =>
      exact hOne (hListener ▸ .receive s rest hQueue)
  | leave d hListening hEnded hListener hStage hLog =>
      have hMoves : h.movesOf (.event d.event) = [.cancel] := by
        cases d <;> rfl
      rw [hMoves]
      exact hOne (hListener ▸ .cancel)
  | finish failure hClosed hThere hListener hStage hLog =>
      exact hOne (hListener ▸ .dropHost hThere)
  | idle hOther hMoves hListener hStage hLog =>
      rw [hMoves, hListener]
      rfl
  | listen hBuilt hListener hStage hLog =>
      rw [hListener]
      rfl
  | join failure since hStopping hStopped hListener hStage hLog =>
      rw [hListener]
      rfl
  | timeOut failure since hStopping hOver hListener hStage hLog =>
      rw [hListener]
      rfl
  | closeWallet failure hClosing hWallet hListener hStage
      hLog =>
      rw [hListener]
      rfl

/- In a run of turns, the listener runs by its events. -/
theorem listener_of_turns
    {h last : Host}
    {turns : List Turn}
    (hRun : turns.foldlM turn? h = some last) :
    h.listener.run? (h.moves turns) = some last.listener :=
  Run.run_outputs (p := Host.listener) listener_of_turn? hRun

end Host

end LightningGateway
