import LightningGateway.Proofs.Host.Turn

/-
  The course of a host that shuts down.

  What matters of a run is marked: that the host leaves its loop
  and cancels the listener, that the listener ends, that the
  host finds this out, closes the wallet and returns.  If the
  host does not wait in vain, the marks come in one of three
  orders: the listener is first, and the host finds out or is
  told to shut down; or the host is told to shut down first.

  Key definitions include:
    * `Host.Mark`
    * `Host.marks`
    * `Host.Winding`
    * `Host.Course`

  Main results:
    * `Host.Course.snoc`
-/

namespace LightningGateway

open Payment Relay

------------------------------------------------------------
-- Listeners that Have Stopped
------------------------------------------------------------

namespace Listener

/- A listener that has stopped forwards nothing. -/
theorem forwarded_of_stopped
    {l : Listener}
    (hStopped : l.phase = .stopped)
    (events : List Event) :
    l.forwarded events = [] := by
  induction events generalizing l with
  | nil => rfl
  | cons e rest ih =>
      cases hStep : l.step? e with
      | none => simp only [forwarded, Run.outputs, hStep]
      | some m =>
          have hFirst : l.forwardOf e = [] :=
            forwardOf_of_inHand (by rw [hStopped]; rfl) e
          have hOne : l.run? [e] = some m :=
            Run.run_cons_eq_some_iff.mpr ⟨m, hStep, rfl⟩
          have hStill := phase_of_stopped hStopped hOne
          simp only [forwarded, Run.outputs, hStep, hFirst]
          exact ih hStill

/- What a listener forwards by one step. -/
theorem forwarded_singleton
    {l m : Listener}
    {e : Event}
    (hStep : Step l e m) :
    l.forwarded [e] = l.forwardOf e := by
  simp only [forwarded, Run.outputs, step?_of_step hStep,
    List.append_nil]

/-
  A step that the host does not cause leaves its token as it is,
  and puts what it forwards into the queue.
-/
theorem frame_of_isUncaused
    {l m : Listener}
    {e : Event}
    (hStep : Step l e m)
    (hUncaused : Host.isUncaused e = true) :
    m.cancelled = l.cancelled ∧
      m.hostGone = l.hostGone ∧
      m.queue = l.queue ++ l.forwardOf e := by
  cases hStep with
  | receive i rest hQueue => cases hUncaused
  | dropHost hThere => cases hUncaused
  | cancel => cases hUncaused
  | send i hPhase hThere hRoom =>
      simp [forwardOf, hPhase, hThere]
  | abandon i hPhase hGone => simp [forwardOf, hPhase, hGone]
  | _ => simp [forwardOf]

end Listener

namespace Host

------------------------------------------------------------
-- Marks
------------------------------------------------------------

/- What a host returns. -/
def Stage.result? : Stage → Option (Except String Unit)
  | .finished none => some (.ok ())
  | .finished (some failure) => some (.error failure.message)
  | _ => none

/- What a host returns after it has left its loop. -/
def Departure.result : Departure → Except String Unit
  | .shutdown _ => .ok ()
  | .channelEnded =>
      .error "Invoice listener stopped unexpectedly"

/- What matters for the end of a host. -/
inductive Mark where
  | listenerEnded
  | left (d : Departure)
  | cancelled
  | joined
  | timedOut
  | walletClosed
  | returned (r : Except String Unit)

/- What is logged of it. -/
def Mark.lines : Mark → List LogLine
  | .listenerEnded => []
  | .left d => d.lines
  | .cancelled => [.info "Shutdown initiated"]
  | .joined => [.info "Background tasks completed gracefully"]
  | .timedOut =>
      [⟨.warn, "Background tasks timed out during shutdown"⟩]
  | .walletClosed => []
  | .returned _ => [.info "Shutdown complete"]

/- What the host does for its end by a turn. -/
def deedMarks (h next : Host) : Turn → List Mark
  | .event (.shutdown s) => [.left (.shutdown s)]
  | .event .channelEnded => [.left .channelEnded]
  | .event .join => [.joined]
  | .event .timeOut => [.timedOut]
  | .event .closeWallet =>
      if next.wallet = h.wallet.close then [.walletClosed]
      else []
  | _ => []

/- That the token was cancelled meanwhile. -/
def cancelMarks (h next : Host) : List Mark :=
  if h.listener.cancelled = false ∧
      next.listener.cancelled = true then [.cancelled]
  else []

/- That the listener has ended meanwhile. -/
def endMarks (h next : Host) : List Mark :=
  if h.listener.phase ≠ .stopped ∧
      next.listener.phase = .stopped then [.listenerEnded]
  else []

/- That the host has returned meanwhile. -/
def returnMarks (h next : Host) : List Mark :=
  match h.stage.result?, next.stage.result? with
  | none, some r => [.returned r]
  | _, _ => []

/- What a turn marks from one state to the other. -/
def marksTo
    (h : Host)
    (t : Turn)
    (next : Host) : List Mark :=
  deedMarks h next t ++ cancelMarks h next ++
    endMarks h next ++ returnMarks h next

/- What a turn marks. -/
def marksOf
    (h : Host)
    (t : Turn) : List Mark :=
  match h.turn? t with
  | some next => h.marksTo t next
  | none => []

/- What is marked in the course of some turns. -/
def marks
    (h : Host)
    (turns : List Turn) : List Mark :=
  Run.outputs turn? marksOf h turns

/- The settled invoice that a turn logs. -/
def loggedOf
    (h : Host) : Turn → List SettledInvoice
  | .event .settled => h.listener.queue.take 1
  | _ => []

/- The settled invoices that are logged by some turns. -/
def logged
    (h : Host)
    (turns : List Turn) : List SettledInvoice :=
  Run.outputs turn? loggedOf h turns

/- What the listener forwards in the course of some turns. -/
def forwarded
    (h : Host)
    (turns : List Turn) : List SettledInvoice :=
  h.listener.forwarded (h.moves turns)

/- A turn that is no deed of the host marks none. -/
theorem deedMarks_of_isDeed
    {t : Turn}
    (hOther : t.isDeed = false)
    (h next : Host) :
    deedMarks h next t = [] := by
  cases t with
  | event e =>
      cases e <;> first | rfl | cases hOther
  | _ => rfl

/- A turn that is no deed of the host logs no invoice. -/
theorem loggedOf_of_isDeed
    {t : Turn}
    (hOther : t.isDeed = false)
    (h : Host) :
    h.loggedOf t = [] := by
  cases t with
  | event e =>
      cases e <;> first | rfl | cases hOther
  | _ => rfl

------------------------------------------------------------
-- The Course of a Shutdown
------------------------------------------------------------

/-
  How a host that has left its loop and its listener come to an
  end: the listener is first, for whatever reason, or it is
  cancelled when the host is told to shut down.
-/
inductive Winding : Departure → List Mark → Prop
  | listenerFirst (d : Departure) :
      Winding d [.listenerEnded, .left d, .cancelled]
  | hostFirst (s : Option Signal) :
      Winding (.shutdown s)
        [.left (.shutdown s), .cancelled, .listenerEnded]

/- What is left to do for a host whose listener has ended. -/
def Departure.ending (d : Departure) : List Mark :=
  [.joined, .walletClosed, .returned d.result]

/- What of it was done in a stage. -/
inductive Ending (d : Departure) : Stage → List Mark → Prop
  | stopping (since : Nat) :
      Ending d (.stopping d.failure since) []
  | closing : Ending d (.closing d.failure) [.joined]
  | closed : Ending d (.closed d.failure) [.joined, .walletClosed]
  | finished : Ending d (.finished d.failure) d.ending

/- What was marked of a host that has not left its loop. -/
def openMarks (h : Host) : List Mark :=
  if h.listener.phase = .stopped then [.listenerEnded] else []

/- How a host agrees with the marks so far. -/
inductive Course (h : Host) : List Mark → Prop
  | unended
      (hStage : h.stage = .built ∨ h.stage = .listening)
      (hUncancelled : h.listener.cancelled = false) :
      Course h h.openMarks
  | waiting
      (s : Option Signal)
      (since : Nat)
      (hStage : h.stage = .stopping none since)
      (hPhase : h.listener.phase ≠ .stopped)
      (hCancelled : h.listener.cancelled = true) :
      Course h [.left (.shutdown s), .cancelled]
  | ended
      {d : Departure}
      {winding ending marks : List Mark}
      (hWinding : Winding d winding)
      (hEnding : Ending d h.stage ending)
      (hPhase : h.listener.phase = .stopped)
      (hCancelled : h.listener.cancelled = true)
      (hMarks : marks = winding ++ ending) :
      Course h marks

namespace Ending

variable {d : Departure} {stage : Stage} {ending : List Mark}

/- Only a host that has finished returns something. -/
theorem result?_eq_some_iff
    (hEnding : Ending d stage ending)
    {r : Except String Unit} :
    stage.result? = some r ↔
      ending = d.ending ∧ r = d.result := by
  cases hEnding with
  | finished =>
      cases d <;> simp [Stage.result?, Departure.failure,
        Departure.result, Failure.message, eq_comm]
  | _ => simp [Stage.result?, Departure.ending]

/- A host that comes to its end has left its loop. -/
theorem left
    (hEnding : Ending d stage ending) :
    stage ≠ .built ∧ stage ≠ .listening := by
  cases hEnding <;> exact ⟨nofun, nofun⟩

/- What was done is a beginning of what is to be done. -/
theorem prefix_ending
    (hEnding : Ending d stage ending) :
    ending <+: d.ending := by
  cases hEnding with
  | finished => exact List.prefix_rfl
  | stopping since => exact List.nil_prefix
  | closing => exact ⟨[.walletClosed, .returned d.result], rfl⟩
  | closed => exact ⟨[.returned d.result], rfl⟩

end Ending

namespace Course

variable {h next : Host} {marks : List Mark}

/- A host that has not left its loop has done nothing for that. -/
theorem eq_openMarks
    (hCourse : Course h marks)
    (hStage : h.stage = .built ∨ h.stage = .listening) :
    marks = h.openMarks ∧ h.listener.cancelled = false := by
  cases hCourse with
  | unended _ hUncancelled => exact ⟨rfl, hUncancelled⟩
  | waiting s since hStopping hPhase hCancelled =>
      simp [hStopping] at hStage
  | ended hWinding hEnding hPhase hCancelled hMarks =>
      exact absurd hStage
        (not_or.mpr ⟨hEnding.left.1, hEnding.left.2⟩)

/- A host that begins to listen, or goes on to. -/
theorem snoc_open
    (hCourse : Course h marks)
    (hStage : h.stage = .built ∨ h.stage = .listening)
    (hListening : next.stage = .listening)
    (hPhase : next.listener.phase = h.listener.phase)
    (hCancelled :
      next.listener.cancelled = h.listener.cancelled) :
    Course next marks := by
  rcases hCourse.eq_openMarks hStage with
    ⟨rfl, hUncancelled⟩
  have hMarks : h.openMarks = next.openMarks := by
    simp only [openMarks, hPhase]
  rw [hMarks]
  exact .unended (.inr hListening)
    (hCancelled.trans hUncancelled)

/- A turn after which stage and listener are the same. -/
theorem snoc_idle
    (hCourse : Course h marks)
    (hListener : next.listener = h.listener)
    (hStage : next.stage = h.stage) :
    Course next marks := by
  cases hCourse with
  | unended hOpen hUncancelled =>
      have hMarks : h.openMarks = next.openMarks := by
        simp only [openMarks, hListener]
      rw [hMarks]
      exact .unended (by rwa [hStage]) (by rwa [hListener])
  | waiting s since hStopping hPhase hCancelled =>
      exact .waiting s since (hStage.trans hStopping)
        (by rwa [hListener]) (by rwa [hListener])
  | ended hWinding hEnding hPhase hCancelled hMarks =>
      exact .ended hWinding (by rwa [hStage])
        (by rwa [hListener]) (by rwa [hListener]) hMarks

/- A move of the listener may be its last one. -/
theorem snoc_move
    (hCourse : Course h marks)
    {e : Listener.Event}
    (hUncaused : isUncaused e = true)
    (hStep : Listener.Step h.listener e next.listener)
    (hStage : next.stage = h.stage) :
    Course next (marks ++ endMarks h next) := by
  have hSame := (Listener.frame_of_isUncaused hStep hUncaused).1
  have hStill :
      h.listener.phase = .stopped →
        next.listener.phase = .stopped :=
    fun hStopped =>
      Listener.phase_of_stopped hStopped
        (Listener.run?_singleton hStep)
  cases hCourse with
  | unended hOpen hUncancelled =>
      have hMarks :
          h.openMarks ++ endMarks h next = next.openMarks := by
        unfold openMarks endMarks
        by_cases hStopped : h.listener.phase = .stopped
        · simp [hStopped, hStill hStopped]
        · simp [hStopped]
      rw [hMarks]
      exact .unended (by rwa [hStage]) (hSame.trans hUncancelled)
  | waiting s since hStopping hPhase hCancelled =>
      by_cases hStopped : next.listener.phase = .stopped
      · have hMarks : endMarks h next = [.listenerEnded] :=
          if_pos ⟨hPhase, hStopped⟩
        rw [hMarks]
        refine .ended (.hostFirst s) ?_ hStopped
          (hSame.trans hCancelled) (List.append_nil _).symm
        rw [hStage, hStopping]
        exact .stopping since
      · have hMarks : endMarks h next = [] :=
          if_neg fun hBoth => hStopped hBoth.2
        rw [hMarks]
        exact .waiting s since (hStage.trans hStopping) hStopped
          (hSame.trans hCancelled)
  | ended hWinding hEnding hPhase hCancelled hAll =>
      have hMarks : endMarks h next = [] :=
        if_neg fun hBoth => hBoth.1 hPhase
      rw [hMarks, List.append_nil]
      exact .ended hWinding (by rwa [hStage]) (hStill hPhase)
        (hSame.trans hCancelled) hAll

/- A host that leaves its loop cancels the listener. -/
theorem snoc_leave
    (hCourse : Course h marks)
    {d : Departure}
    (hListening : h.stage = .listening)
    (hEnded :
      d = .channelEnded → h.listener.phase = .stopped)
    (hListener :
      next.listener = { h.listener with cancelled := true })
    (hStage :
      next.stage = .stopping d.failure h.listener.now) :
    Course next (marks ++ [.left d, .cancelled]) := by
  rw [(hCourse.eq_openMarks (.inr hListening)).1, openMarks]
  have hCancelled : next.listener.cancelled = true := by
    rw [hListener]
  have hPhase : next.listener.phase = h.listener.phase := by
    rw [hListener]
  by_cases hStopped : h.listener.phase = .stopped
  · rw [if_pos hStopped]
    refine .ended (.listenerFirst d) ?_ (hPhase.trans hStopped)
      hCancelled (List.append_nil _).symm
    rw [hStage]
    exact .stopping _
  · rw [if_neg hStopped]
    cases d with
    | channelEnded => exact absurd (hEnded rfl) hStopped
    | shutdown s =>
        exact .waiting s _ hStage (by rwa [hPhase]) hCancelled

/- A host whose listener has ended goes on to its end. -/
theorem snoc_ending
    (hCourse : Course h marks)
    (hLeft : h.stage ≠ .built ∧ h.stage ≠ .listening)
    (hOver :
      h.listener.phase = .stopped ∨
        ∀ since, h.stage ≠ .stopping none since)
    (hPhase : next.listener.phase = h.listener.phase)
    (hCancelled :
      next.listener.cancelled = h.listener.cancelled)
    {more : List Mark}
    (hMore :
      ∀ {d ending}, Ending d h.stage ending →
        Ending d next.stage (ending ++ more)) :
    Course next (marks ++ more) := by
  cases hCourse with
  | unended hOpen hUncancelled =>
      exact absurd hOpen (not_or.mpr hLeft)
  | waiting s since hStopping hRuns _ =>
      exact (hOver.elim hRuns (· since hStopping)).elim
  | ended hWinding hEnding hEnded hToken hMarks =>
      refine .ended hWinding (hMore hEnding)
        (hPhase.trans hEnded) (hCancelled.trans hToken) ?_
      rw [hMarks, List.append_assoc]

/- The marks come in order, and end when the host returns. -/
theorem in_order
    (hCourse : Course h marks) :
    ∃ d winding, Winding d winding ∧
      marks <+: winding ++ d.ending ∧
      ∀ r, h.stage.result? = some r ↔
        r = d.result ∧ marks = winding ++ d.ending := by
  cases hCourse with
  | unended hOpen hUncancelled =>
      refine ⟨.channelEnded, _, .listenerFirst _, ?_, ?_⟩
      · unfold openMarks
        split
        · exact ⟨_, rfl⟩
        · exact List.nil_prefix
      · intro r
        refine iff_of_false ?_ ?_
        · rcases hOpen with hBuilt | hListening
          · rw [hBuilt]
            nofun
          · rw [hListening]
            nofun
        · rintro ⟨_, hAll⟩
          unfold openMarks at hAll
          split at hAll <;> cases hAll
  | waiting s since hStage hPhase hCancelled =>
      refine ⟨.shutdown s, _, .hostFirst s, ⟨_, rfl⟩, ?_⟩
      intro r
      rw [hStage]
      exact iff_of_false nofun (fun hBoth => nomatch hBoth.2)
  | ended hWinding hEnding hPhase hCancelled hMarks =>
      refine ⟨_, _, hWinding, ?_, ?_⟩
      · rw [hMarks]
        exact (List.prefix_append_right_inj _).mpr
          hEnding.prefix_ending
      · intro r
        rw [hEnding.result?_eq_some_iff, hMarks,
          List.append_cancel_left_eq, and_comm]

/- A host that has left its loop has cancelled its listener. -/
theorem cancelled_of_left
    (hCourse : Course h marks)
    (hLeft : h.stage ≠ .built ∧ h.stage ≠ .listening) :
    h.listener.cancelled = true := by
  cases hCourse with
  | unended hOpen hUncancelled =>
      exact absurd hOpen (not_or.mpr hLeft)
  | waiting s since hStage hPhase hCancelled => exact hCancelled
  | ended hWinding hEnding hPhase hCancelled hMarks =>
      exact hCancelled

/- A host that has returned has waited for its listener. -/
theorem stopped_of_result
    (hCourse : Course h marks)
    {r : Except String Unit}
    (hReturned : h.stage.result? = some r) :
    h.listener.phase = .stopped := by
  cases hCourse with
  | unended hOpen hUncancelled =>
      rcases hOpen with hBuilt | hListening
      · rw [hBuilt] at hReturned
        cases hReturned
      · rw [hListening] at hReturned
        cases hReturned
  | waiting s since hStage hPhase hCancelled =>
      rw [hStage] at hReturned
      cases hReturned
  | ended hWinding hEnding hPhase hCancelled hMarks =>
      exact hPhase

end Course

------------------------------------------------------------
-- One Turn
------------------------------------------------------------

variable {h next : Host} {t : Turn}

/- A turn with the same token marks no cancellation. -/
theorem cancelMarks_of_same
    (hSame : next.listener.cancelled = h.listener.cancelled) :
    cancelMarks h next = [] := by
  simp [cancelMarks, hSame]

/- A turn with the same phase marks no end of the listener. -/
theorem endMarks_of_same
    (hSame : next.listener.phase = h.listener.phase) :
    endMarks h next = [] := by
  simp [endMarks, hSame]

/- A host that does not finish returns nothing. -/
theorem returnMarks_of_none
    (hNone : next.stage.result? = none) :
    returnMarks h next = [] := by
  simp [returnMarks, hNone]

/- A host in the same stage returns nothing more. -/
theorem returnMarks_of_same
    (hSame : next.stage = h.stage) :
    returnMarks h next = [] := by
  unfold returnMarks
  rw [hSame]
  cases h.stage.result? <;> rfl

/- What a turn that is no deed marks. -/
theorem marksTo_of_isDeed
    (hOther : t.isDeed = false)
    (hSame : next.listener.cancelled = h.listener.cancelled)
    (hStage : next.stage = h.stage) :
    h.marksTo t next = endMarks h next := by
  rw [marksTo, deedMarks_of_isDeed hOther,
    cancelMarks_of_same hSame, returnMarks_of_same hStage,
    List.nil_append, List.append_nil]
  rfl

/- What a turn marks that leaves the listener as it is. -/
theorem marksTo_of_listener
    (hListener : next.listener = h.listener) :
    h.marksTo t next =
      deedMarks h next t ++ returnMarks h next := by
  rw [marksTo, cancelMarks_of_same (by rw [hListener]),
    endMarks_of_same (by rw [hListener]), List.append_nil,
    List.append_nil]

/- What a host marks that leaves its loop. -/
theorem marksTo_of_leave
    {d : Departure}
    (hUncancelled : h.listener.cancelled = false)
    (hListener :
      next.listener = { h.listener with cancelled := true })
    (hStage :
      next.stage = .stopping d.failure h.listener.now) :
    h.marksTo (.event d.event) next = [.left d, .cancelled] := by
  have hEnd : endMarks h next = [] :=
    endMarks_of_same (by rw [hListener])
  have hReturn : returnMarks h next = [] :=
    returnMarks_of_none (by rw [hStage]; rfl)
  have hCancel : cancelMarks h next = [.cancelled] :=
    if_pos ⟨hUncancelled, by rw [hListener]⟩
  rw [marksTo, hEnd, hReturn, hCancel]
  cases d <;> rfl

/- A host that begins to listen marks nothing. -/
theorem marksTo_of_listen
    (hListener : next.listener = h.listener)
    (hStage : next.stage = .listening) :
    h.marksTo (.event .listen) next = [] := by
  rw [marksTo_of_listener hListener,
    returnMarks_of_none (by rw [hStage]; rfl)]
  rfl

/- A host that logs a settled invoice marks nothing. -/
theorem marksTo_of_settled
    {rest : List SettledInvoice}
    (hListener :
      next.listener = { h.listener with queue := rest })
    (hStage : next.stage = .listening) :
    h.marksTo (.event .settled) next = [] := by
  rw [marksTo, cancelMarks_of_same (by rw [hListener]),
    endMarks_of_same (by rw [hListener]),
    returnMarks_of_none (by rw [hStage]; rfl)]
  rfl

/- A host that closes its wallet marks just that. -/
theorem marksTo_of_closeWallet
    {failure : Option Failure}
    (hWallet : next.wallet = h.wallet.close)
    (hListener : next.listener = h.listener)
    (hStage : next.stage = .closed failure) :
    h.marksTo (.event .closeWallet) next = [.walletClosed] := by
  rw [marksTo_of_listener hListener,
    returnMarks_of_none (by rw [hStage]; rfl),
    List.append_nil]
  exact if_pos hWallet

/- What a host marks that returns. -/
theorem marksTo_of_finish
    {failure : Option Failure}
    (hClosed : h.stage = .closed failure)
    (hListener :
      next.listener =
        { h.listener with queue := [], hostGone := true })
    (hStage : next.stage = .finished failure) :
    ∃ r, next.stage.result? = some r ∧
      h.marksTo (.event .finish) next = [.returned r] := by
  have hEnd : endMarks h next = [] :=
    endMarks_of_same (by rw [hListener])
  have hCancel : cancelMarks h next = [] :=
    cancelMarks_of_same (by rw [hListener])
  have hResult : ∃ r, next.stage.result? = some r := by
    rw [hStage]
    cases failure <;> exact ⟨_, rfl⟩
  rcases hResult with ⟨r, hResult⟩
  refine ⟨r, hResult, ?_⟩
  rw [marksTo, hEnd, hCancel, returnMarks, hClosed, hResult]
  rfl

/- Every turn goes on with the course, if it is in time. -/
theorem Course.snoc
    {marks : List Mark}
    (hCourse : Course h marks)
    (hRule : Rule h next t)
    (hInTime : t ≠ .event .timeOut) :
    Course next (marks ++ h.marksTo t next) := by
  cases hRule with
  | idle hOther hMoves hListener hStage hLog =>
      rw [marksTo_of_isDeed hOther (by rw [hListener]) hStage,
        endMarks_of_same (by rw [hListener]), List.append_nil]
      exact hCourse.snoc_idle hListener hStage
  | move e hOther hUncaused hMoves hStep hStage hLog =>
      have hSame :=
        (Listener.frame_of_isUncaused hStep hUncaused).1
      rw [marksTo_of_isDeed hOther hSame hStage]
      exact hCourse.snoc_move hUncaused hStep hStage
  | listen hBuilt hListener hStage hLog =>
      rw [marksTo_of_listen hListener hStage, List.append_nil]
      exact hCourse.snoc_open (.inl hBuilt) hStage
        (by rw [hListener]) (by rw [hListener])
  | settled s rest hListening hQueue hListener hStage hLog =>
      rw [marksTo_of_settled hListener hStage, List.append_nil]
      exact hCourse.snoc_open (.inr hListening) hStage
        (by rw [hListener]) (by rw [hListener])
  | leave d hListening hEnded hListener hStage hLog =>
      have hUncancelled :=
        (hCourse.eq_openMarks (.inr hListening)).2
      rw [marksTo_of_leave hUncancelled hListener hStage]
      exact hCourse.snoc_leave hListening
        (fun hEnd => (hEnded hEnd).1) hListener hStage
  | join failure since hStopping hStopped hListener hStage
      hLog =>
      have hNone : returnMarks h next = [] :=
        returnMarks_of_none (by rw [hStage]; rfl)
      rw [marksTo_of_listener hListener, hNone]
      refine hCourse.snoc_ending (by simp [hStopping])
        (.inl hStopped) (by rw [hListener]) (by rw [hListener])
        ?_
      intro d ending hEnding
      rw [hStopping] at hEnding
      rw [hStage]
      cases hEnding
      exact .closing
  | timeOut failure since hStopping hOver hListener hStage
      hLog =>
      exact absurd rfl hInTime
  | closeWallet failure hClosing hWallet hListener hStage
      hLog =>
      rw [marksTo_of_closeWallet hWallet hListener hStage]
      refine hCourse.snoc_ending (by simp [hClosing])
        (.inr (by simp [hClosing])) (by rw [hListener])
        (by rw [hListener]) ?_
      intro d ending hEnding
      rw [hClosing] at hEnding
      rw [hStage]
      cases hEnding
      exact .closed
  | finish failure hClosed hThere hListener hStage hLog =>
      refine hCourse.snoc_ending (by simp [hClosed])
        (.inr (by simp [hClosed])) (by rw [hListener])
        (by rw [hListener]) ?_
      intro d ending hEnding
      rw [hClosed] at hEnding
      cases hEnding
      rcases marksTo_of_finish hClosed hListener hStage with
        ⟨r, hResult, hMarks⟩
      have hSame :=
        Ending.finished.result?_eq_some_iff.mp (hStage ▸ hResult)
      rw [hMarks, hStage, hSame.2]
      exact .finished

end Host

end LightningGateway
