import LightningGateway.Proofs.Backend.Closing
import LightningGateway.Proofs.Host.Turn
import LightningGateway.Proofs.Ledger.Settlement

/-
  Who holds the reading end of a queue that a webhook feeds.

  If nobody but the listener takes it, it is lent out exactly
  while the listener holds the stream; and a listener that lets
  go of the stream drops it.  So when the wallet is closed after
  the listener has stopped, nobody can read the queue any more.

  Key definitions include:
    * `Wallet.readingEnd?`
    * `Host.noted`
    * `Host.IsLent`

  Main results:
    * `Host.lent_of_turn?`
    * `Host.lent_of_run`
    * `Host.push?_of_isLent`
-/

namespace LightningGateway

open Payment Relay

------------------------------------------------------------
-- Reading Ends
------------------------------------------------------------

namespace Ledger

/- To offer an id leaves the reading end where it is. -/
theorem readingEnd_offer
    (l : Ledger)
    (id : String) :
    (l.offer id).relay.readingEnd = l.relay.readingEnd := by
  unfold offer
  split
  · rename_i q hPush
    exact Wallet.InUse.readingEnd_push hPush
  · rfl

/- To settle an invoice leaves the reading end where it is. -/
theorem readingEnd_settle
    {l m : Ledger}
    {id : String}
    (hSettle : l.settle id = .ok m) :
    m.relay.readingEnd = l.relay.readingEnd := by
  unfold settle at hSettle
  split at hSettle
  · cases hSettle
  · split at hSettle
    · cases hSettle
      rfl
    · cases hSettle
      exact readingEnd_offer _ _

/- A timer leaves the reading end where it is. -/
theorem readingEnd_fire
    (l : Ledger)
    (t : Timer) :
    (l.fire t).relay.readingEnd = l.relay.readingEnd := by
  unfold fire
  split
  · rename_i m hSettle
    exact readingEnd_settle hSettle
  · rfl

/- Timers leave the reading end where it is. -/
theorem readingEnd_fires
    (timers : List Timer)
    (l : Ledger) :
    (timers.foldl fire l).relay.readingEnd =
      l.relay.readingEnd := by
  induction timers generalizing l with
  | nil => rfl
  | cons t rest ih =>
      rw [List.foldl_cons, ih, readingEnd_fire]

end Ledger

namespace Wallet

/- Where the reading end of the queue is, if there is one. -/
def readingEnd? (w : Wallet) : Option ReadingEnd :=
  w.relay?.map (·.readingEnd)

/- The queue of a wallet whose reading end is somewhere. -/
theorem exists_relay?
    {w : Wallet}
    {e : ReadingEnd}
    (hEnd : w.readingEnd? = some e) :
    ∃ q, w.relay? = some q ∧ q.readingEnd = e :=
  Option.map_eq_some_iff.mp hEnd

/- Another state of the queue may have its reading end elsewhere. -/
theorem readingEnd?_withRelay
    {w : Wallet}
    {q : RelayQueue}
    (hRelay : w.relay? = some q)
    (next : RelayQueue) :
    (w.withRelay next).readingEnd? = some next.readingEnd := by
  rw [readingEnd?, relay?_withRelay hRelay]
  rfl

/- An accepted hash leaves the reading end where it is. -/
theorem readingEnd?_push
    {w v : Wallet}
    {hash : String}
    (hPush : w.push? hash = some (.ok v)) :
    v.readingEnd? = w.readingEnd? := by
  rcases Option.map_eq_some_iff.mp hPush with ⟨q, hRelay, hOk⟩
  rcases exists_of_map_eq_ok hOk with ⟨next, hNext, rfl⟩
  rw [readingEnd?_withRelay hRelay, readingEnd?, hRelay,
    InUse.readingEnd_push hNext]
  rfl

/- Time leaves the reading end where it is. -/
theorem readingEnd?_advance
    (ms : Nat)
    (w : Wallet) :
    (Host.advance ms w).readingEnd? = w.readingEnd? := by
  cases w with
  | memory l => exact congrArg some (Ledger.readingEnd_fires _ _)
  | _ => rfl

end Wallet

namespace Host

------------------------------------------------------------
-- Others
------------------------------------------------------------

/- What came of the use that others make of the queue. -/
def notedOf
    (h : Host) : Turn → List RelayQueue.Entry
  | .use o =>
      match h.wallet.relay? with
      | some q => q.note o
      | none => []
  | _ => []

/- What came of it in the course of some turns. -/
def noted
    (h : Host)
    (turns : List Turn) : List RelayQueue.Entry :=
  Run.outputs turn? notedOf h turns

------------------------------------------------------------
-- One Turn
------------------------------------------------------------

/-
  The reading end of a host's wallet is lent out exactly if the
  listener holds the stream.
-/
structure IsLent
    (h : Host)
    (e : ReadingEnd) : Prop where
  relay : h.wallet.readingEnd? = some e
  taken :
    e = .taken ↔ h.listener.phase.isSubscribed = true
  stream :
    h.stream =
      if h.listener.phase.isSubscribed then some .relayed
      else none

/-
  A host after which the reading end is still lent out by that
  rule; and it does not come back.
-/
def StaysLent
    (e : ReadingEnd)
    (next : Host) : Prop :=
  ∃ f, next.IsLent f ∧ (e ≠ .kept → f ≠ .kept)

namespace IsLent

variable {h next : Host} {e : ReadingEnd}

/- Only the wallet changes, and not its reading end. -/
theorem change
    (hLent : h.IsLent e)
    {w : Wallet}
    (hSame : w.readingEnd? = h.wallet.readingEnd?) :
    StaysLent e { h with wallet := w } :=
  ⟨e, ⟨hSame.trans hLent.relay, hLent.taken, hLent.stream⟩, id⟩

/- A listener that does not begin to hold a stream. -/
theorem moveListener?
    (hLent : h.IsLent e)
    {event : Listener.Event}
    (hUnopened :
      ∀ {l}, Listener.Step h.listener event l →
        l.phase.isSubscribed = true →
        h.listener.phase.isSubscribed = true)
    (hMove : h.moveListener? event = some next) :
    StaysLent e next := by
  rcases moveListener?_relayed hLent.stream hUnopened hMove with
    ⟨l, ⟨hSame, rfl⟩ | ⟨hHeld, hLeft, rfl⟩⟩
  · refine ⟨e, ⟨hLent.relay, ?_, ?_⟩, id⟩
    · show _ ↔ l.phase.isSubscribed = true
      rw [hSame]
      exact hLent.taken
    · show h.stream = if l.phase.isSubscribed then _ else _
      rw [hSame]
      exact hLent.stream
  · -- The reading end goes away with the stream.
    rcases Wallet.exists_relay? hLent.relay with
      ⟨q, hRelay, rfl⟩
    have hTaken := hLent.taken.mpr hHeld
    refine ⟨.gone, ⟨?_, ?_, ?_⟩, fun _ hGone => by cases hGone⟩
    · simp only [Wallet.dropStream, hRelay]
      rw [Wallet.readingEnd?_withRelay hRelay,
        RelayQueue.dropStream, if_pos hTaken]
      rfl
    · rw [hLeft]
      exact iff_of_false (fun hGone => by cases hGone)
        Bool.false_ne_true
    · rw [hLeft]
      rfl

/- A move of the listener that neither opens a stream nor reads. -/
theorem own
    (hLent : h.IsLent e)
    {event : Listener.Event}
    (hOwn : isOwn event = true)
    (hMove : h.moveListener? event = some next) :
    StaysLent e next :=
  hLent.moveListener? (isOwn_cases hOwn).2 hMove

/- A stream that opens takes the reading end. -/
theorem openStream?
    (hLent : h.IsLent e)
    (hOpen : h.openStream? = some next) :
    StaysLent e next := by
  rcases Wallet.exists_relay? hLent.relay with ⟨q, hRelay, rfl⟩
  rcases openStream?_cases hRelay hOpen with
    ⟨hKept, rfl⟩ | ⟨_, hMove⟩
  · exact ⟨.taken,
      ⟨Wallet.readingEnd?_withRelay hRelay _,
        iff_of_true rfl rfl, rfl⟩,
      fun hGiven => absurd hKept hGiven⟩
  · exact hLent.moveListener? unopened_of_streamTaken hMove

/- To read from the stream leaves the reading end where it is. -/
theorem poll?
    (hLent : h.IsLent e)
    (hPoll : h.poll? = some next) :
    StaysLent e next := by
  have hStream := hLent.stream
  by_cases hHeld : h.listener.phase.isSubscribed = true
  · rw [if_pos hHeld] at hStream
    rcases Wallet.exists_relay? hLent.relay with
      ⟨q, hRelay, rfl⟩
    rcases poll?_cases hRelay hStream hPoll with
      ⟨id, rest, _, _, rfl⟩
    exact ⟨q.readingEnd,
      ⟨Wallet.readingEnd?_withRelay hRelay _,
        iff_of_true (hLent.taken.mpr hHeld) rfl, rfl⟩,
      fun hGiven => hGiven⟩
  · rw [if_neg hHeld] at hStream
    simp [Host.poll?, hStream] at hPoll

/- To close the wallet gives up a reading end that was kept. -/
theorem close
    (hLent : h.IsLent e)
    (stage : Stage) :
    ∃ f, IsLent
        { h with wallet := h.wallet.close, stage := stage } f ∧
      f ≠ .kept := by
  rcases Wallet.exists_relay? hLent.relay with ⟨q, hRelay, rfl⟩
  refine ⟨q.close.readingEnd, ⟨?_, ?_, hLent.stream⟩,
    q.readingEnd_close_ne_kept⟩
  · show h.wallet.close.readingEnd? = _
    rw [Wallet.readingEnd?, Wallet.relay?_close, hRelay]
    rfl
  · rw [q.readingEnd_close_eq_taken_iff]
    exact hLent.taken

/- Others use the queue, and cannot read what the listener holds. -/
theorem use
    (hLent : h.IsLent e)
    {o : RelayQueue.Operation}
    (hUntaken : .taken ∉ h.notedOf (.use o))
    (hUse : h.turn? (.use o) = some next) :
    StaysLent e next := by
  rcases Wallet.exists_relay? hLent.relay with ⟨q, hRelay, rfl⟩
  rcases Option.ite_none_right_eq_some.mp hUse with
    ⟨hMay, hQueue⟩
  rcases Option.map_eq_some_iff.mp hQueue with ⟨r, hBind, rfl⟩
  simp only [hRelay, Option.bind_some] at hBind
  rcases RelayQueue.step?_eq_some_iff.mp hBind with
    ⟨entry, hPerform, hNote⟩
  have hUnread (hNone : h.stream.isNone = true) :
      q.readingEnd ≠ .taken := by
    intro hTaken
    rw [hLent.stream, if_pos (hLent.taken.mp hTaken)] at hNone
    cases hNone
  have hSame := Wallet.readingEnd?_withRelay hRelay
  cases RelayQueue.rule_of_perform? hPerform with
  | take hKept =>
      simp only [notedOf, hRelay, hNote] at hUntaken
      exact absurd List.mem_cons_self hUntaken
  | receive hash rest hTaken hWaiting =>
      exact absurd hTaken (hUnread hMay)
  | drop hTaken => exact absurd hTaken (hUnread hMay)
  | close hKept =>
      refine ⟨.gone, ⟨hSame _, ?_, hLent.stream⟩,
        fun _ => nofun⟩
      refine iff_of_false nofun fun hHeld => ?_
      rw [hLent.taken.mpr hHeld] at hKept
      cases hKept
  | _ =>
      exact ⟨q.readingEnd, ⟨hSame _, hLent.taken, hLent.stream⟩,
        fun hGiven => hGiven⟩

end IsLent

/- Only the log and the stage change after a turn. -/
theorem StaysLent.of_same
    {m next : Host}
    {e : ReadingEnd}
    (hStays : StaysLent e m)
    (hWallet : next.wallet = m.wallet)
    (hListener : next.listener = m.listener)
    (hStream : next.stream = m.stream) :
    StaysLent e next := by
  rcases hStays with ⟨f, hLent, hGiven⟩
  refine ⟨f, ⟨?_, ?_, ?_⟩, hGiven⟩
  · rw [hWallet]
    exact hLent.relay
  · rw [hListener]
    exact hLent.taken
  · rw [hListener, hStream]
    exact hLent.stream

/- A host that winds up lets the listener hold its stream. -/
theorem IsLent.wind
    {h next : Host}
    {e : ReadingEnd}
    (hLent : h.IsLent e)
    {failure : Option Failure}
    (hWind : h.wind failure = some next) :
    StaysLent e next := by
  rcases Option.map_eq_some_iff.mp hWind with ⟨m, hMove, rfl⟩
  exact (hLent.own rfl hMove).of_same rfl rfl rfl

/- To use the wallet leaves the reading end where it is. -/
theorem readingEnd?_of_uses
    {w next : Wallet}
    {event : Event}
    (hUses : Uses w event next) :
    next.readingEnd? = w.readingEnd? := by
  cases hUses with
  | push hPush => exact Wallet.readingEnd?_push hPush
  | settle hSettle =>
      exact congrArg some (Ledger.readingEnd_settle hSettle)
  | createInvoice l random r =>
      have hRelay := Ledger.Shared.relay_createInvoice l random r
      exact congrArg (fun q => some q.readingEnd) hRelay
  | payInvoice l random paymentRequest =>
      have hRelay :=
        (Ledger.Shared.payInvoice_frame l random paymentRequest).1
      exact congrArg (fun q => some q.readingEnd) hRelay

/- Every event leaves the reading end with who holds the stream. -/
theorem lent_of_step?
    {h next : Host}
    {e : ReadingEnd}
    {event : Event}
    (hLent : h.IsLent e)
    (hStep : h.step? event = some next) :
    StaysLent e next := by
  have hSelf : StaysLent e h := ⟨e, hLent, id⟩
  cases event with
  | listen =>
      rcases Option.ite_none_right_eq_some.mp hStep with
        ⟨_, hSome⟩
      cases hSome
      exact hSelf.of_same rfl rfl rfl
  | openStream => exact hLent.openStream? hStep
  | provide id =>
      -- The stream of such a wallet is the reading end.
      simp only [step?] at hStep
      split at hStep
      · rename_i waiting hPushed
        rw [hLent.stream] at hPushed
        split at hPushed <;> cases hPushed
      · cases hStep
  | poll => exact hLent.poll? hStep
  | answer outcomes =>
      simp only [step?, answer?] at hStep
      split at hStep
      · rcases Option.bind_eq_some_iff.mp hStep with
          ⟨s, _, hMove⟩
        exact hLent.own rfl hMove
      · cases hStep
  | listener event =>
      rcases Option.ite_none_right_eq_some.mp hStep with
        ⟨hInner, hMove⟩
      have hOwn : isOwn event = true := by
        cases event <;> first | rfl | cases hInner
      exact hLent.own hOwn hMove
  | settled =>
      simp only [step?, settled?] at hStep
      split at hStep
      · rcases Option.map_eq_some_iff.mp hStep with
          ⟨m, hMove, rfl⟩
        exact (hLent.own rfl hMove).of_same rfl rfl rfl
      · cases hStep
  | channelEnded =>
      rcases Option.ite_none_right_eq_some.mp hStep with
        ⟨_, hWind⟩
      exact hLent.wind hWind
  | shutdown s =>
      rcases Option.ite_none_right_eq_some.mp hStep with
        ⟨_, hWind⟩
      cases s with
      | none => exact hLent.wind hWind
      | some s =>
          have hNoted : IsLent (h.note (signalLine s)) e :=
            ⟨hLent.relay, hLent.taken, hLent.stream⟩
          exact hNoted.wind hWind
  | join =>
      simp only [step?, join?] at hStep
      split at hStep
      · rcases Option.ite_none_right_eq_some.mp hStep with
          ⟨_, hSome⟩
        cases hSome
        exact hSelf.of_same rfl rfl rfl
      · cases hStep
  | timeOut =>
      simp only [step?, timeOut?] at hStep
      split at hStep
      · rcases Option.ite_none_right_eq_some.mp hStep with
          ⟨_, hSome⟩
        cases hSome
        exact hSelf.of_same rfl rfl rfl
      · cases hStep
  | closeWallet =>
      simp only [step?, closeWallet?] at hStep
      split at hStep
      · cases hStep
        rcases hLent.close (.closed _) with ⟨f, hNext, hGiven⟩
        exact ⟨f, hNext, fun _ => hGiven⟩
      · cases hStep
  | finish =>
      simp only [step?, finish?] at hStep
      split at hStep
      · rcases Option.map_eq_some_iff.mp hStep with
          ⟨m, hMove, rfl⟩
        exact (hLent.own rfl hMove).of_same rfl rfl rfl
      · cases hStep
  | push _ | settle _ | createInvoice _ _ | payInvoice _ _ =>
      rcases exists_uses_of_step? rfl hStep with ⟨w, hUses, rfl⟩
      exact hLent.change (readingEnd?_of_uses hUses)
  | pass ms =>
      rcases Option.ite_none_right_eq_some.mp hStep with
        ⟨_, hPass⟩
      rcases Option.map_eq_some_iff.mp hPass with
        ⟨m, hMove, rfl⟩
      rcases hLent.own rfl hMove with ⟨f, hNext, hGiven⟩
      rcases hNext.change (Wallet.readingEnd?_advance ms m.wallet)
        with ⟨g, hLast, hKept⟩
      exact ⟨g, hLast, fun h => hKept (hGiven h)⟩

/-
  Every turn leaves the reading end with who holds the stream,
  if nobody else takes it.
-/
theorem lent_of_turn?
    {h next : Host}
    {e : ReadingEnd}
    {t : Turn}
    (hLent : h.IsLent e)
    (hTurn : h.turn? t = some next)
    (hUntaken : .taken ∉ h.notedOf t) :
    StaysLent e next := by
  cases t with
  | event event => exact lent_of_step? hLent hTurn
  | use o => exact hLent.use hUntaken hTurn
  | change w =>
      rcases Option.ite_none_right_eq_some.mp hTurn with
        ⟨hSame, hSome⟩
      cases hSome
      refine hLent.change ?_
      rw [Wallet.readingEnd?, hSame]
      rfl

------------------------------------------------------------
-- Whole Runs
------------------------------------------------------------

/- Whether the host has closed its wallet. -/
def Stage.isShut : Stage → Bool
  | .closed _ => true
  | .finished _ => true
  | _ => false

/- A wallet that is closed was closed before, or is it now. -/
theorem shut_of_rule
    {h next : Host}
    {t : Turn}
    (hRule : Rule h next t)
    (hShut : next.stage.isShut = true) :
    h.stage.isShut = true ∨ t = .event .closeWallet := by
  cases hRule with
  | idle hOther hMoves hListener hStage hLog =>
      exact .inl (hStage ▸ hShut)
  | move e hOther hUncaused hMoves hStep hStage hLog =>
      exact .inl (hStage ▸ hShut)
  | closeWallet failure hClosing hWallet hListener hStage
      hLog =>
      exact .inr rfl
  | finish failure hClosed hThere hListener hStage hLog =>
      rw [hClosed]
      exact .inl rfl
  | _ => simp_all [Stage.isShut]

/- To close the wallet gives the reading end up. -/
theorem exists_lent_of_closeWallet
    {h next : Host}
    {e : ReadingEnd}
    (hLent : h.IsLent e)
    (hClose : h.turn? (.event .closeWallet) = some next) :
    ∃ f, next.IsLent f ∧ f ≠ .kept := by
  simp only [turn?, step?, closeWallet?] at hClose
  split at hClose
  · cases hClose
    exact hLent.close _
  · cases hClose

/-
  If nobody but the listener takes the reading end in a run, it
  is with who holds the stream, and given up if the wallet is
  closed.
-/
theorem lent_of_run
    {start last : Host}
    {turns : List Turn}
    {e : ReadingEnd}
    (hLent : start.IsLent e)
    (hOpen : start.stage.isShut = false)
    (hRun : turns.foldlM turn? start = some last)
    (hUntaken : .taken ∉ start.noted turns) :
    ∃ f, last.IsLent f ∧
      (last.stage.isShut = true → f ≠ .kept) := by
  refine Run.history_of_run
    (P := fun past h => .taken ∉ start.noted past →
      ∃ f, IsLent h f ∧ (h.stage.isShut = true → f ≠ .kept))
    ?_ ?_ hRun hUntaken
  · intro past h next t hPast hBefore hTurn hFree
    rw [noted, Run.outputs_snoc hPast hTurn, List.mem_append,
      not_or] at hFree
    rcases hBefore hFree.1 with ⟨f, hHeld, hShut⟩
    rcases lent_of_turn? hHeld hTurn hFree.2 with
      ⟨g, hNext, hGiven⟩
    by_cases hClose : t = .event .closeWallet
    · subst hClose
      rcases exists_lent_of_closeWallet hHeld hTurn with
        ⟨k, hLast, hKept⟩
      exact ⟨k, hLast, fun _ => hKept⟩
    · refine ⟨g, hNext, fun hEnd => hGiven (hShut ?_)⟩
      exact (shut_of_rule (rule_of_turn? hTurn) hEnd).resolve_right
        hClose
  · intro _
    refine ⟨e, hLent, fun hShut => ?_⟩
    rw [hOpen] at hShut
    cases hShut

/- A queue with nobody to read it hands every hash back. -/
theorem push?_of_isLent
    {h : Host}
    {e : ReadingEnd}
    (hLent : h.IsLent e)
    (hKept : e ≠ .kept)
    (hLeft : h.listener.phase.isSubscribed = false)
    (hash : String) :
    h.wallet.push? hash = some (.error (.closed hash)) := by
  rcases Wallet.exists_relay? hLent.relay with ⟨q, hRelay, rfl⟩
  have hGone : q.readingEnd = .gone := by
    cases hEnd : q.readingEnd with
    | kept => exact absurd hEnd hKept
    | taken =>
        rw [hLent.taken.mp hEnd] at hLeft
        cases hLeft
    | gone => rfl
  simp only [Wallet.push?, hRelay, Option.map_some,
    RelayQueue.push_of_gone hGone]
  rfl

end Host

end LightningGateway
