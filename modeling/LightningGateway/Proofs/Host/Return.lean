import LightningGateway.Proofs.Host.Turn

/-
  What a host can still do, so that it returns.

  A listener that is cancelled has a way to its end, whatever it
  does, if the id that it has in hand finds room in the queue; a
  host whose listener has ended has a way to return.  No time
  passes on these ways.

  Key definitions include:
    * `Host.Leads`
    * `Host.CanReturn`

  Main results:
    * `Host.leads_stopped`
    * `Host.leads_of_stopping`
    * `Host.leads_of_listening`
    * `Host.canReturn`
-/

namespace LightningGateway

open Payment Provider

/- Every dialogue comes to an end. -/
theorem Provider.Dialogue.exists_resultOf?
    {α : Type}
    (d : Dialogue α) :
    ∃ outcomes a, d.resultOf? outcomes = some a := by
  induction d with
  | done a => exact ⟨[], a, rfl⟩
  | ask call next ih =>
      rcases ih .closed with ⟨outcomes, a, hResult⟩
      exact ⟨.closed :: outcomes, a, hResult⟩

namespace Host

------------------------------------------------------------
-- Ways
------------------------------------------------------------

/- Whether an event takes no time. -/
def Event.isPrompt : Event → Bool
  | .pass _ => false
  | .timeOut => false
  | _ => true

/- Whether events that take no time lead to such a host. -/
def Leads
    (h : Host)
    (P : Host → Prop) : Prop :=
  ∃ events next,
    (∀ e ∈ events, e.isPrompt = true) ∧
      h.run? events = some next ∧ P next

namespace Leads

variable {h m : Host} {P Q : Host → Prop}

/- There is nothing left to do. -/
theorem here (hHere : P h) : h.Leads P :=
  ⟨[], h, List.forall_mem_nil _, rfl, hHere⟩

/- One event more at the beginning of a way. -/
theorem step
    {e : Event}
    (hPrompt : e.isPrompt = true)
    (hStep : h.step? e = some m)
    (hLeads : m.Leads P) :
    h.Leads P := by
  rcases hLeads with ⟨events, next, hAll, hRun, hThere⟩
  exact ⟨e :: events, next,
    List.forall_mem_cons.mpr ⟨hPrompt, hAll⟩,
    Run.run_cons_eq_some_iff.mpr ⟨m, hStep, hRun⟩, hThere⟩

/- A way may go on. -/
theorem trans
    (hLeads : h.Leads P)
    (hOn : ∀ {m}, P m → m.Leads Q) :
    h.Leads Q := by
  rcases hLeads with ⟨events, m, hAll, hRun, hMid⟩
  rcases hOn hMid with ⟨more, next, hMore, hRest, hThere⟩
  refine ⟨events ++ more, next, ?_, Run.run_append hRun hRest,
    hThere⟩
  intro e hMem
  exact (List.mem_append.mp hMem).elim (hAll e) (hMore e)

end Leads

variable {h : Host}

------------------------------------------------------------
-- The End of the Listener
------------------------------------------------------------

/- What a listener can do alone, it can do in its host. -/
theorem exists_moveListener?
    {e : Listener.Event}
    {l : Listener}
    (hStep : Listener.Step h.listener e l) :
    ∃ next, h.moveListener? e = some next ∧
      next.listener = l ∧ next.stage = h.stage := by
  have hSome := Listener.step?_of_step hStep
  unfold moveListener?
  rw [hSome, Option.map_some]
  cases h.stream with
  | none => exact ⟨_, rfl, rfl, rfl⟩
  | some s =>
      by_cases hHeld : l.phase.isSubscribed = true
      · exact ⟨_, rfl, by simp only [hHeld]; rfl,
          by simp only [hHeld]; rfl⟩
      · exact ⟨_, rfl, by simp only [hHeld]; rfl,
          by simp only [hHeld]; rfl⟩

/- Whether a host of some stage has a listener that has ended. -/
def HasEnded
    (stage : Stage)
    (gone : Bool)
    (next : Host) : Prop :=
  next.stage = stage ∧
    next.listener.hostGone = gone ∧
    next.listener.phase = .stopped

/- A step of the listener on a way to its end. -/
theorem leads_of_listener
    {e : Listener.Event}
    {l : Listener}
    (hInner : isInner e = true)
    (hStep : Listener.Step h.listener e l)
    (hHost : l.hostGone = h.listener.hostGone)
    (hOn :
      ∀ {m : Host}, m.listener = l →
        m.Leads (HasEnded m.stage m.listener.hostGone)) :
    h.Leads (HasEnded h.stage h.listener.hostGone) := by
  rcases exists_moveListener? hStep with
    ⟨m, hMove, hListener, hStage⟩
  have hEvent : h.step? (.listener e) = some m := by
    simp only [step?, if_pos hInner, hMove]
  rw [← hStage, ← hHost, ← hListener]
  exact .step rfl hEvent (hOn hListener)

/- A cancelled listener stops in its pause. -/
theorem leads_of_pausing
    {due : Nat}
    (hCancelled : h.listener.cancelled = true)
    (hPhase : h.listener.phase = .pausing due) :
    h.Leads (HasEnded h.stage h.listener.hostGone) := by
  refine leads_of_listener rfl (.stop due hPhase hCancelled) rfl
    ?_
  intro m hListener
  exact .here ⟨rfl, rfl, by rw [hListener]⟩

/- A cancelled listener leaves the stream. -/
theorem leads_of_waiting
    (hCancelled : h.listener.cancelled = true)
    (hPhase : h.listener.phase = .waiting) :
    h.Leads (HasEnded h.stage h.listener.hostGone) := by
  refine leads_of_listener rfl (.leave hPhase hCancelled) rfl ?_
  intro m hListener
  exact leads_of_pausing (by rw [hListener]; exact hCancelled)
    (by rw [hListener]; rfl)

/- An id in hand that finds room is sent before the end. -/
theorem leads_of_sending
    {i : SettledInvoice}
    (hCancelled : h.listener.cancelled = true)
    (hPhase : h.listener.phase = .sending i)
    (hRoom : h.listener.queue.length < h.listener.capacity) :
    h.Leads (HasEnded h.stage h.listener.hostGone) := by
  by_cases hGone : h.listener.hostGone = true
  · refine leads_of_listener rfl (.abandon i hPhase hGone) rfl ?_
    intro m hListener
    exact leads_of_pausing (by rw [hListener]; exact hCancelled)
      (by rw [hListener]; rfl)
  · refine leads_of_listener rfl
      (.send i hPhase (eq_false_of_ne_true hGone) hRoom) rfl ?_
    intro m hListener
    exact leads_of_waiting (by rw [hListener]; exact hCancelled)
      (by rw [hListener])

/- A lookup comes to its end first. -/
theorem leads_of_lookingUp
    {id : String}
    (hCancelled : h.listener.cancelled = true)
    (hPhase : h.listener.phase = .lookingUp id)
    (hRoom : h.listener.queue.length < h.listener.capacity) :
    h.Leads (HasEnded h.stage h.listener.hostGone) := by
  rcases (h.wallet.invoiceStatus id).exists_resultOf? with
    ⟨outcomes, s, hResult⟩
  rcases exists_moveListener? (h := h) (.answer id s hPhase) with
    ⟨m, hMove, hListener, hStage⟩
  have hEvent : h.step? (.answer outcomes) = some m := by
    simp only [step?, answer?, hPhase, hResult, Option.bind_some,
      hMove]
  have hHost : m.listener.hostGone = h.listener.hostGone := by
    rw [hListener]
  rw [← hStage, ← hHost]
  exact .step rfl hEvent
    (leads_of_sending (by rw [hListener]; exact hCancelled)
      (by rw [hListener]) (by rw [hListener]; exact hRoom))

/- A cancelled listener does not open the stream. -/
theorem leads_of_opening
    (hCancelled : h.listener.cancelled = true)
    (hPhase : h.listener.phase = .opening) :
    h.Leads (HasEnded h.stage h.listener.hostGone) := by
  have hStop : h.listener.mustStop = true := by
    rw [Listener.mustStop, hCancelled]
    rfl
  refine leads_of_listener rfl (.giveUp hPhase hStop) rfl ?_
  intro m hListener
  exact .here ⟨rfl, rfl, by rw [hListener]⟩

/-
  A cancelled listener can come to its end, if it has no id in
  hand or there is room for it.
-/
theorem leads_stopped
    (hCancelled : h.listener.cancelled = true)
    (hRoom :
      h.listener.phase.inHand = [] ∨
        h.listener.queue.length < h.listener.capacity) :
    h.Leads (HasEnded h.stage h.listener.hostGone) := by
  cases hPhase : h.listener.phase with
  | opening => exact leads_of_opening hCancelled hPhase
  | waiting => exact leads_of_waiting hCancelled hPhase
  | lookingUp id =>
      rw [hPhase] at hRoom
      exact leads_of_lookingUp hCancelled hPhase
        (hRoom.resolve_left (List.cons_ne_nil _ _))
  | sending i =>
      rw [hPhase] at hRoom
      exact leads_of_sending hCancelled hPhase
        (hRoom.resolve_left (List.cons_ne_nil _ _))
  | pausing due => exact leads_of_pausing hCancelled hPhase
  | stopped => exact .here ⟨rfl, rfl, hPhase⟩

------------------------------------------------------------
-- The Return of the Host
------------------------------------------------------------

/- A host whose wallet is closed can return. -/
theorem leads_of_closed
    {failure : Option Failure}
    (hStage : h.stage = .closed failure)
    (hThere : h.listener.hostGone = false) :
    h.Leads (·.stage = .finished failure) := by
  rcases exists_moveListener? (h := h) (.dropHost hThere) with
    ⟨m, hMove, -, -⟩
  have hEvent :
      h.step? .finish =
        some
          { m.note (.info "Shutdown complete") with
            stage := .finished failure } := by
    simp only [step?, finish?, hStage, hMove, Option.map_some]
  exact .step rfl hEvent (.here rfl)

/- A host that waits no more can close its wallet. -/
theorem leads_of_closing
    {failure : Option Failure}
    (hStage : h.stage = .closing failure)
    (hThere : h.listener.hostGone = false) :
    h.Leads (·.stage = .finished failure) := by
  have hEvent :
      h.step? .closeWallet =
        some
          { h with
            wallet := h.wallet.close
            stage := .closed failure } := by
    simp only [step?, closeWallet?, hStage]
  exact .step rfl hEvent (leads_of_closed rfl hThere)

/- A host whose listener has ended can go on to return. -/
theorem leads_finished
    {failure : Option Failure}
    {since : Nat}
    (hStage : h.stage = .stopping failure since)
    (hStopped : h.listener.phase = .stopped)
    (hThere : h.listener.hostGone = false) :
    h.Leads (·.stage = .finished failure) := by
  have hEvent :
      h.step? .join =
        some
          { h.note (.info "Background tasks completed gracefully")
            with stage := .closing failure } := by
    simp only [step?, join?, hStage, if_pos hStopped]
  exact .step rfl hEvent (leads_of_closing rfl hThere)

/-
  A host that stops can return, if the listener has no id in
  hand or there is room for it.
-/
theorem leads_of_stopping
    {failure : Option Failure}
    {since : Nat}
    (hStage : h.stage = .stopping failure since)
    (hCancelled : h.listener.cancelled = true)
    (hThere : h.listener.hostGone = false)
    (hRoom :
      h.listener.phase.inHand = [] ∨
        h.listener.queue.length < h.listener.capacity) :
    h.Leads (·.stage = .finished failure) := by
  refine (leads_stopped hCancelled hRoom).trans ?_
  rintro m ⟨hSame, hHost, hStopped⟩
  exact leads_finished (hSame.trans hStage) hStopped
    (hHost.trans hThere)

/- A host can always begin to wind up. -/
theorem exists_wind
    (h : Host)
    (failure : Option Failure) :
    ∃ next, h.wind failure = some next := by
  rcases exists_moveListener? (h := h) .cancel with
    ⟨m, hMove, -, -⟩
  rw [wind, hMove]
  exact ⟨_, rfl⟩

/- A host that listens can be told to shut down at any time. -/
theorem exists_shutdown
    (hListening : h.stage = .listening)
    (s : Option Signal) :
    ∃ next, h.step? (.shutdown s) = some next := by
  rcases exists_wind (s.elim h fun s => h.note (signalLine s))
    none with ⟨next, hWind⟩
  exact ⟨next, (if_pos hListening).trans hWind⟩

/- A host can take all that waits before it leaves its loop. -/
theorem leads_of_listening
    {h : Host}
    (hListening : h.stage = .listening)
    (hStopped : h.listener.phase = .stopped)
    (hThere : h.listener.hostGone = false) :
    h.Leads (·.stage = .finished (some .listenerStopped)) := by
  rcases hQueue : h.listener.queue with _ | ⟨s, rest⟩
  · rcases h.exists_wind (some .listenerStopped) with
      ⟨m, hWind⟩
    have hEvent : h.step? .channelEnded = some m :=
      (if_pos ⟨hListening, hStopped, hQueue⟩).trans hWind
    rcases wind_cases hWind with ⟨hListener, hStage, -⟩
    refine .step rfl hEvent (leads_finished hStage ?_ ?_)
    · rw [hListener]
      exact hStopped
    · rw [hListener]
      exact hThere
  · rcases exists_moveListener? (.receive s rest hQueue) with
      ⟨m, hMove, hListener, hSame⟩
    have hEvent :
        h.step? .settled = some (m.note (settledLine s)) := by
      simp only [step?, settled?, hListening, hQueue, hMove,
        Option.map_some]
    have hNext :
        (m.note (settledLine s)).listener =
          { h.listener with queue := rest } := hListener
    refine .step rfl hEvent (leads_of_listening ?_ ?_ ?_)
    · exact hSame.trans hListening
    · rw [hNext]
      exact hStopped
    · rw [hNext]
      exact hThere
  termination_by h.listener.queue.length
  decreasing_by
    rw [hNext, hQueue]
    exact Nat.lt_succ_self rest.length

/-
  A host that can return, whatever it does: in its loop it can
  be told to shut down, or take all that a listener which has
  ended has left; after its loop it can wait for the listener,
  unless that has an id in hand for which there is no room, and
  go on to its end.
-/
structure CanReturn (h : Host) : Prop where
  shutdown :
    h.stage = .listening →
      ∀ s, ∃ next, h.step? (.shutdown s) = some next
  listening :
    h.stage = .listening → h.listener.phase = .stopped →
      h.Leads (·.stage = .finished (some .listenerStopped))
  stopping :
    ∀ failure since, h.stage = .stopping failure since →
      h.listener.phase.inHand = [] ∨
          h.listener.queue.length < h.listener.capacity →
        h.Leads (·.stage = .finished failure)
  closing :
    ∀ failure, h.stage = .closing failure →
      h.Leads (·.stage = .finished failure)
  closed :
    ∀ failure, h.stage = .closed failure →
      h.Leads (·.stage = .finished failure)

/-
  A host can return if it cancels its listener on leaving its
  loop, and is there until it returns.
-/
theorem canReturn
    (hCancelled :
      h.stage ≠ .built ∧ h.stage ≠ .listening →
        h.listener.cancelled = true)
    (hThere :
      (∀ failure, h.stage ≠ .finished failure) →
        h.listener.hostGone = false) :
    h.CanReturn where
  shutdown hListening := exists_shutdown hListening
  listening hListening hStopped :=
    leads_of_listening hListening hStopped
      (hThere (by simp [hListening]))
  stopping _ _ hStopping hRoom :=
    leads_of_stopping hStopping
      (hCancelled (by simp [hStopping]))
      (hThere (by simp [hStopping])) hRoom
  closing _ hClosing :=
    leads_of_closing hClosing (hThere (by simp [hClosing]))
  closed _ hClosed :=
    leads_of_closed hClosed (hThere (by simp [hClosed]))

end Host

end LightningGateway
