import LightningGateway.Proofs.PushStream.Delivery
import Mathlib.Data.List.Chain

/-
  When a runner connects.

  An attempt begins with a request.  It ends when no connection
  comes about, when an answer that is no stream has been read,
  and when a body ends or breaks off.  While nobody cancels the
  runner and its reader is there, the next attempt begins
  exactly one pause after the end of the attempt before.

  Key definitions include:
    * `Mark`
    * `Mark.Follows`
    * `Runner.attempts`
    * `Runner.IsAt`
    * `Runner.Schedule`

  Main results:
    * `Runner.Step.turn`
    * `Runner.schedule_of_run`
    * `Runner.attempts_spaced`
-/

namespace LightningGateway.PushStream

------------------------------------------------------------
-- Marks
------------------------------------------------------------

/- What is noted of the attempts to connect, with its time. -/
inductive Mark where
  -- A request was sent.
  | began (time : Nat)
  -- No connection came about, or its body is over.
  | ended (time : Nat)
  deriving DecidableEq, Repr

namespace Mark

/- Whether a mark is the beginning of an attempt. -/
def isBegan : Mark → Bool
  | .began _ => true
  | .ended _ => false

/- Whether a mark is the end of an attempt. -/
def isEnded : Mark → Bool
  | .began _ => false
  | .ended _ => true

/-
  Whether a mark may come right after another one: an attempt
  ends before the next begins, which is after a whole pause.
-/
def Follows (pause : Nat) : Mark → Mark → Prop
  | .began t, .ended u => t ≤ u
  | .ended t, .began u => u = t + pause
  | _, _ => False

end Mark

/- Whether an attempt is underway. -/
def Phase.isOpen : Phase → Bool
  | .connecting => true
  | .declined => true
  | .reading _ _ => true
  | .pausing _ => false
  | .stopped => false

namespace Runner

/- The attempt that a runner begins with. -/
def begun (r : Runner) : List Mark :=
  match r.phase with
  | .connecting => [.began r.now]
  | _ => []

/- What is noted when an event happens. -/
def marksOf (r : Runner) : Event → List Mark
  | .refused => [.ended r.now]
  | .bodyEnded _ => [.ended r.now]
  | .retry => [.began r.now]
  | _ => []

/- What is noted in the course of some events. -/
def attempts
    (r : Runner)
    (events : List Event) : List Mark :=
  r.begun ++ Run.outputs step? marksOf r events

/- Whether a mark is the latest that a runner can have. -/
def IsAt
    (pause : Nat)
    (r : Runner) : Mark → Prop
  | .began t => t ≤ r.now ∧ r.phase.isOpen = true
  | .ended t =>
      t ≤ r.now ∧ r.now ≤ t + pause ∧
        r.phase = .pausing (t + pause)

/-
  The attempts of a runner: the first one is made at a given
  time, each later one a pause after the end of the one before,
  and none is made while another is underway.
-/
structure Schedule
    (pause first : Nat)
    (marks : List Mark)
    (r : Runner) : Prop where
  first_eq : marks.head? = some (.began first)
  spaced : marks.IsChain (Mark.Follows pause)
  latest : ∃ m, marks.getLast? = some m ∧ r.IsAt pause m
  alone :
    marks.countP Mark.isBegan =
      marks.countP Mark.isEnded + r.phase.isOpen.toNat

------------------------------------------------------------
-- One Step
------------------------------------------------------------

/- How a step changes the attempts of a runner. -/
inductive Turn
    (pause : Nat)
    (r s : Runner) : List Mark → Prop
  -- The attempt goes on, or the pause does.
  | stay
      (hOpen : s.phase.isOpen = r.phase.isOpen)
      (hAt : ∀ m, r.IsAt pause m → s.IsAt pause m) :
      Turn pause r s []
  -- The attempt is over, and the pause begins.
  | rest
      (hOpen : r.phase.isOpen = true)
      (hNow : s.now = r.now)
      (hPhase : s.phase = .pausing (r.now + pause)) :
      Turn pause r s [.ended r.now]
  -- The pause is over, and the next attempt begins.
  | again
      (due : Nat)
      (hPause : r.phase = .pausing due)
      (hDue : due ≤ r.now)
      (hNow : s.now = r.now)
      (hPhase : s.phase = .connecting) :
      Turn pause r s [.began r.now]

/- Without a change of time, only the phase matters. -/
theorem IsAt.of_phase
    {pause : Nat}
    {r s : Runner}
    {m : Mark}
    (hNow : s.now = r.now)
    (hPhase : s.phase = r.phase)
    (hAt : r.IsAt pause m) :
    s.IsAt pause m := by
  cases m <;> simpa only [IsAt, hNow, hPhase] using hAt

/- An attempt goes on in whatever phase it comes to. -/
theorem IsAt.of_isOpen
    {pause : Nat}
    {r s : Runner}
    {m : Mark}
    (hNow : s.now = r.now)
    (hBefore : r.phase.isOpen = true)
    (hAfter : s.phase.isOpen = true)
    (hAt : r.IsAt pause m) :
    s.IsAt pause m := by
  cases m with
  | began t => exact ⟨hNow ▸ hAt.1, hAfter⟩
  | ended t =>
      rw [hAt.2.2] at hBefore
      cases hBefore

/- Time passes in an attempt, and in a pause up to its end. -/
theorem IsAt.of_mayPass
    {pause ms : Nat}
    {r : Runner}
    {m : Mark}
    (hMay : r.mayPass ms = true)
    (hAt : r.IsAt pause m) :
    IsAt pause { r with now := r.now + ms } m := by
  cases m with
  | began t =>
      exact ⟨Nat.le_trans hAt.1 (Nat.le_add_right _ _), hAt.2⟩
  | ended t =>
      rcases hAt with ⟨hSince, -, hPhase⟩
      simp only [mayPass, hPhase, decide_eq_true_eq] at hMay
      exact
        ⟨Nat.le_trans hSince (Nat.le_add_right _ _), hMay,
          hPhase⟩

/- The phase after the head of an answer belongs to the attempt. -/
theorem isOpen_afterHead (status : Nat) :
    (afterHead status).isOpen = true := by
  unfold afterHead
  split <;> rfl

/-
  A step of a runner that is not cancelled goes on with what the
  runner does, ends an attempt, or begins the next one.
-/
theorem Step.turn
    {r s : Runner}
    {e : Event}
    (hStep : Step r e s)
    (hConsistent : r.IsConsistent)
    (hCancelled : s.cancelled = false) :
    Turn (Pause.length r.delay) r s (r.marksOf e) := by
  have hThere : r.readerGone = false := by
    apply eq_false_of_ne_true
    intro hGone
    have hEarlier := hStep.not_cancelled hCancelled
    rw [(hConsistent.leaver hGone).1] at hEarlier
    cases hEarlier
  cases hStep with
  | refused hPhase => exact .rest (by rw [hPhase]; rfl) rfl rfl
  | answered status hPhase =>
      have hOpen : r.phase.isOpen = true := by rw [hPhase]; rfl
      exact
        .stay ((isOpen_afterHead status).trans hOpen.symm)
          fun m => .of_isOpen rfl hOpen (isOpen_afterHead status)
  | skip bytes hPhase => exact .stay rfl fun m hAt => hAt
  | feed bytes reader hPhase =>
      have hOpen : r.phase.isOpen = true := by rw [hPhase]; rfl
      exact .stay hOpen.symm fun m => .of_isOpen rfl hOpen rfl
  | skipped whole hPhase =>
      exact .rest (by rw [hPhase]; rfl) rfl rfl
  | bodyEnded whole reader hPhase =>
      -- A body whose reader went away would stop the runner.
      exact
        .rest (by rw [hPhase]; rfl) rfl
          (by simp [afterBody, afterPause, hThere])
  | abandon reader hash rest hPhase hGone =>
      rw [hThere] at hGone
      cases hGone
  | send reader hash rest hPhase hHere hRoom =>
      have hOpen : r.phase.isOpen = true := by rw [hPhase]; rfl
      exact .stay hOpen.symm fun m => .of_isOpen rfl hOpen rfl
  | retry due hPhase hDue => exact .again due hPhase hDue rfl rfl
  | stop hStopped hRunning =>
      rw [hStopped] at hCancelled
      cases hCancelled
  | read hash rest hQueue =>
      exact .stay rfl fun m => .of_phase rfl rfl
  | dropReader hHere => cases hCancelled
  | cancel => cases hCancelled
  | pass ms hMay => exact .stay rfl fun m => .of_mayPass hMay

/- A mark is put at the end if it may follow the latest one. -/
theorem Schedule.concat
    {pause first : Nat}
    {marks : List Mark}
    {m next : Mark}
    {r s : Runner}
    (hSchedule : Schedule pause first marks r)
    (hLast : marks.getLast? = some m)
    (hFollows : Mark.Follows pause m next)
    (hAt : s.IsAt pause next)
    (hAlone :
      [next].countP Mark.isBegan + r.phase.isOpen.toNat =
        [next].countP Mark.isEnded + s.phase.isOpen.toNat) :
    Schedule pause first (marks ++ [next]) s where
  first_eq := by
    rw [List.head?_append, hSchedule.first_eq]
    rfl
  spaced := by
    refine List.isChain_append.mpr
      ⟨hSchedule.spaced, List.isChain_singleton next, ?_⟩
    intro x hx y hy
    rw [hLast] at hx
    cases hx
    cases hy
    exact hFollows
  latest := ⟨next, List.getLast?_concat, hAt⟩
  alone := by
    have hBefore := hSchedule.alone
    rw [List.countP_append, List.countP_append]
    omega

/- Every turn keeps the attempts on schedule. -/
theorem Schedule.turn
    {pause first : Nat}
    {marks new : List Mark}
    {r s : Runner}
    (hSchedule : Schedule pause first marks r)
    (hTurn : Turn pause r s new) :
    Schedule pause first (marks ++ new) s := by
  rcases hSchedule.latest with
    ⟨m, hLast, hAt⟩
  cases hTurn with
  | stay hOpen hKeep =>
      rw [List.append_nil]
      exact
        { hSchedule with
          latest := ⟨m, hLast, hKeep m hAt⟩
          alone := hOpen ▸ hSchedule.alone }
  | rest hOpen hNow hPhase =>
      cases m with
      | began t =>
          refine hSchedule.concat hLast hAt.1 ?_ ?_
          · rw [IsAt, hNow]
            exact
              ⟨Nat.le_refl _, Nat.le_add_right _ _, hPhase⟩
          · rw [hOpen, hPhase]
            rfl
      | ended t =>
          rw [hAt.2.2] at hOpen
          cases hOpen
  | again due hPause hDue hNow hPhase =>
      cases m with
      | began t =>
          have hOpen := hAt.2
          rw [hPause] at hOpen
          cases hOpen
      | ended t =>
          -- No pause is overslept, so the next attempt is not late.
          rcases hAt with ⟨-, hInTime, hSame⟩
          rw [hPause] at hSame
          cases hSame
          refine hSchedule.concat hLast
            (Nat.le_antisymm hInTime hDue) ?_ ?_
          · rw [IsAt, hNow, hPhase]
            exact ⟨Nat.le_refl _, rfl⟩
          · rw [hPause, hPhase]
            rfl

------------------------------------------------------------
-- Whole Runs
------------------------------------------------------------

/- What is kept on the way, as long as nobody cancels. -/
structure OnSchedule
    (delay first : Nat)
    (marks : List Mark)
    (r : Runner) : Prop where
  consistent : r.IsConsistent
  delay_eq : r.delay = delay
  schedule :
    r.cancelled = false →
      Schedule (Pause.length delay) first marks r

/- The pause between attempts never changes. -/
theorem Step.delay_eq
    {r s : Runner}
    {e : Event}
    (hStep : Step r e s) :
    s.delay = r.delay := by
  cases hStep <;> rfl

/- A runner that has just been started is on schedule. -/
theorem onSchedule_start
    (delay capacity now : Nat) :
    OnSchedule delay now (start delay capacity now).begun
      (start delay capacity now) where
  consistent := isConsistent_start delay capacity now
  delay_eq := rfl
  schedule := fun _ =>
    { first_eq := rfl
      spaced := List.isChain_singleton _
      latest := ⟨_, rfl, Nat.le_refl _, rfl⟩
      alone := rfl }

/- The attempts of a run that is not cancelled are on schedule. -/
theorem onSchedule_of_run
    {delay capacity now : Nat}
    {events : List Event}
    {r : Runner}
    (hRun : (start delay capacity now).run? events = some r) :
    OnSchedule delay now
      ((start delay capacity now).attempts events) r := by
  refine Run.history_of_run
    (P := fun past s =>
      OnSchedule delay now
        ((start delay capacity now).attempts past) s)
    ?_ (onSchedule_start delay capacity now) hRun
  intro past s t e hPast hOn hLast
  have hStep := step_of_step? hLast
  rw [attempts, Run.outputs_snoc hPast hLast,
    ← List.append_assoc]
  refine
    { consistent := hStep.isConsistent hOn.consistent
      delay_eq := hStep.delay_eq.trans hOn.delay_eq
      schedule := ?_ }
  intro hCancelled
  have hTurn := hStep.turn hOn.consistent hCancelled
  rw [hOn.delay_eq] at hTurn
  exact
    (hOn.schedule (hStep.not_cancelled hCancelled)).turn hTurn

/- A runner is cancelled only if somebody does so. -/
theorem Step.cancelled_eq_false
    {r s : Runner}
    {e : Event}
    (hStep : Step r e s)
    (hCancel : e ≠ .cancel)
    (hDrop : e ≠ .dropReader)
    (hCancelled : r.cancelled = false) :
    s.cancelled = false := by
  cases hStep <;> first | exact hCancelled | contradiction

/- A run in which nobody cancels ends with a runner that goes on. -/
theorem cancelled_eq_false_of_run
    {r s : Runner}
    {events : List Event}
    (hCancel : Event.cancel ∉ events)
    (hDrop : Event.dropReader ∉ events)
    (hCancelled : r.cancelled = false)
    (hRun : r.run? events = some s) :
    s.cancelled = false := by
  induction events generalizing r with
  | nil =>
      cases hRun
      exact hCancelled
  | cons e rest ih =>
      rcases Run.run_cons_eq_some_iff.mp hRun with
        ⟨m, hFirst, hRest⟩
      refine ih (fun h => hCancel (.tail e h))
        (fun h => hDrop (.tail e h)) ?_ hRest
      refine (step_of_step? hFirst).cancelled_eq_false
        ?_ ?_ hCancelled
      · rintro rfl
        exact hCancel (.head rest)
      · rintro rfl
        exact hDrop (.head rest)

------------------------------------------------------------
-- The Next Attempt
------------------------------------------------------------

/- Two runs, one after the other. -/
theorem run?_append
    {r m s : Runner}
    {past later : List Event}
    (hPast : r.run? past = some m)
    (hLater : m.run? later = some s) :
    r.run? (past ++ later) = some s :=
  Run.run_append hPast hLater

/- An attempt can end, and a pause begins with its end. -/
theorem exists_run_pausing
    {r : Runner}
    (hOpen : r.phase.isOpen = true)
    (hThere : r.readerGone = false)
    (hRoom : 0 < r.capacity) :
    ∃ later s, r.run? later = some s ∧
      s.phase = .pausing (s.now + Pause.length s.delay) ∧
      s.cancelled = r.cancelled := by
  cases hPhase : r.phase with
  | connecting =>
      exact ⟨[.refused], _,
        Run.run_cons_eq_some_iff.mpr
          ⟨_, step?_of_step (.refused hPhase), rfl⟩, rfl, rfl⟩
  | declined =>
      exact ⟨[.bodyEnded true], _,
        Run.run_cons_eq_some_iff.mpr
          ⟨_, step?_of_step (.skipped true hPhase), rfl⟩, rfl,
        rfl⟩
  | reading reader hashes =>
      let empty : Runner := { r with queue := [] }
      let done : Runner :=
        { empty with phase := .reading reader [] }
      rcases exists_run_unsent_nil (r := empty) hPhase rfl
          hThere hRoom with
        ⟨later, hLater, _⟩
      have hEnd :=
        step?_of_step
          (Step.bodyEnded (r := done) true reader rfl)
      refine ⟨_ ++ later ++ [.bodyEnded true],
        { done with phase := done.afterBody },
        run?_append (run?_append r.run?_reads hLater)
          (Run.run_cons_eq_some_iff.mpr ⟨_, hEnd, rfl⟩), ?_,
        rfl⟩
      simp [afterBody, afterPause, done, empty, hThere]
  | pausing due =>
      rw [hPhase] at hOpen
      cases hOpen
  | stopped =>
      rw [hPhase] at hOpen
      cases hOpen

/- A pause can go by, and then the next attempt begins. -/
theorem exists_run_retry_of_pausing
    {r : Runner}
    {due : Nat}
    (hPhase : r.phase = .pausing due)
    (hInTime : r.now ≤ due) :
    ∃ ms s, r.run? [.pass ms, .retry] = some s ∧
      s.cancelled = r.cancelled := by
  have hDue : r.now + (due - r.now) = due :=
    Nat.add_sub_cancel' hInTime
  have hMay : r.mayPass (due - r.now) = true := by
    simp only [mayPass, hPhase, hDue, Nat.le_refl,
      decide_true]
  exact ⟨due - r.now, _,
    Run.run_cons_eq_some_iff.mpr
      ⟨_, step?_of_step (.pass _ hMay),
        Run.run_cons_eq_some_iff.mpr
          ⟨_, step?_of_step
            (.retry due hPhase (Nat.le_of_eq hDue.symm)),
            rfl⟩⟩,
    rfl⟩

/- Whatever a runner does, it can come to its next attempt. -/
theorem exists_run_retry
    {pause : Nat}
    {m : Mark}
    {r : Runner}
    (hAt : r.IsAt pause m)
    (hThere : r.readerGone = false)
    (hRoom : 0 < r.capacity) :
    ∃ later s, r.run? (later ++ [.retry]) = some s ∧
      s.cancelled = r.cancelled := by
  cases m with
  | began t =>
      rcases exists_run_pausing hAt.2 hThere hRoom with
        ⟨past, resting, hPast, hPhase, hCancelled⟩
      rcases exists_run_retry_of_pausing hPhase
          (Nat.le_add_right _ _) with
        ⟨ms, s, hRun, hSame⟩
      refine ⟨past ++ [.pass ms], s, ?_,
        hSame.trans hCancelled⟩
      rw [List.append_assoc]
      exact run?_append hPast hRun
  | ended t =>
      rcases exists_run_retry_of_pausing hAt.2.2 hAt.2.1 with
        ⟨ms, s, hRun, hSame⟩
      exact ⟨[.pass ms], s, hRun, hSame⟩

/- In a pause, the next attempt is made when it is over. -/
theorem IsAt.isSome_retry_iff
    {pause t : Nat}
    {r : Runner}
    (hAt : r.IsAt pause (.ended t)) :
    (r.step? .retry).isSome ↔ r.now = t + pause := by
  rcases hAt with ⟨-, hInTime, hPhase⟩
  simp only [step?, hPhase]
  split
  · rename_i hDue
    exact iff_of_true rfl (Nat.le_antisymm hInTime hDue)
  · rename_i hEarly
    refine iff_of_false (by simp) ?_
    intro hDue
    exact hEarly (Nat.le_of_eq hDue.symm)

/- In a pause, no time passes beyond its end. -/
theorem IsAt.isSome_pass_iff
    {pause t : Nat}
    {r : Runner}
    (hAt : r.IsAt pause (.ended t))
    (ms : Nat) :
    (r.step? (.pass ms)).isSome ↔ r.now + ms ≤ t + pause := by
  simp only [step?, mayPass, hAt.2.2, decide_eq_true_eq]
  split
  · rename_i hMay
    exact iff_of_true rfl hMay
  · rename_i hLate
    exact iff_of_false (by simp) hLate

/- A runner that is at a mark has not stopped. -/
theorem IsAt.phase_ne_stopped
    {pause : Nat}
    {m : Mark}
    {r : Runner}
    (hAt : r.IsAt pause m) :
    r.phase ≠ .stopped := by
  intro hStopped
  cases m with
  | began t =>
      have hOpen := hAt.2
      rw [hStopped] at hOpen
      cases hOpen
  | ended t =>
      have hPhase := hAt.2.2
      rw [hStopped] at hPhase
      cases hPhase

/-
  For all connections that the provider offers and all delays,
  while nobody cancels a runner and its reader is there: the
  first attempt is made at once, and each later one exactly one
  pause after the end of the one before; at most one is underway
  at any time.  After the end of an attempt no time passes
  beyond the pause without the next one, and before that the
  next one is not possible.  The runner never stops, its stream
  is never at its end, and another attempt can always come.
-/
theorem attempts_spaced
    (delay capacity now : Nat)
    (events : List Event)
    (r : Runner)
    (hCancel : Event.cancel ∉ events)
    (hDrop : Event.dropReader ∉ events)
    (hRun : (start delay capacity now).run? events = some r) :
    Schedule (Pause.length delay) now
        ((start delay capacity now).attempts events) r ∧
      ((start delay capacity now).attempts events).countP
          Mark.isBegan ≤
        ((start delay capacity now).attempts events).countP
          Mark.isEnded + 1 ∧
      (∀ t,
        ((start delay capacity now).attempts events).getLast? =
            some (.ended t) →
          ((r.step? .retry).isSome ↔
            r.now = t + Pause.length delay) ∧
          ∀ ms, (r.step? (.pass ms)).isSome ↔
            r.now + ms ≤ t + Pause.length delay) ∧
      r.phase ≠ .stopped ∧
      r.isAtEnd = false ∧
      ∃ later s, r.run? (later ++ [.retry]) = some s ∧
        s.cancelled = false := by
  have hOn := onSchedule_of_run hRun
  have hCancelled : r.cancelled = false :=
    cancelled_eq_false_of_run hCancel hDrop rfl hRun
  have hThere : r.readerGone = false := by
    apply eq_false_of_ne_true
    intro hGone
    rw [(hOn.consistent.leaver hGone).1] at hCancelled
    cases hCancelled
  have hRoom : 0 < r.capacity := by
    rw [(queue_length_le_of_run (Nat.zero_le _) hRun).1]
    exact Nat.le_max_right capacity 1
  have hSchedule := hOn.schedule hCancelled
  rcases hSchedule.latest with
    ⟨m, hLast, hAt⟩
  refine ⟨hSchedule, ?_, ?_, hAt.phase_ne_stopped, ?_, ?_⟩
  · rw [hSchedule.alone]
    exact Nat.add_le_add_left (Bool.toNat_le _) _
  · intro t hEnded
    rw [hLast] at hEnded
    cases hEnded
    exact ⟨hAt.isSome_retry_iff, hAt.isSome_pass_iff⟩
  · simp [isAtEnd, hAt.phase_ne_stopped]
  · rcases exists_run_retry hAt hThere hRoom with
      ⟨later, s, hLater, hSame⟩
    exact ⟨later, s, hLater, hSame.trans hCancelled⟩

/-
  A run over three attempts that come to nothing: one is
  refused, one is answered with an error that is read, and the
  body of the third breaks off while a hash waits in the queue.
-/
def threeFailures : List Event :=
  [.pass 40, .refused, .pass 3000, .retry,
   .pass 10, .answered 503, .chunk [110, 111], .pass 5,
   .bodyEnded true, .pass 1000, .pass 2000, .retry,
   .answered 200,
   .chunk (Text.Utf8.encode "event:payment-received\n"),
   .chunk (Text.Utf8.encode
     "data:\x7b\"payment_hash\":\"aa\"\x7d\n"),
   .send, .pass 7, .bodyEnded false, .pass 2999]

/- After the third attempt, the next one is a millisecond off. -/
theorem attempts_spaced_of_threeFailures :
    ∃ r,
      (start 3000 1 0).run? threeFailures = some r ∧
      (start 3000 1 0).attempts threeFailures =
        [.began 0, .ended 40, .began 3040, .ended 3055,
          .began 6055, .ended 6062] ∧
      r.now = 9061 ∧
      (r.step? .retry).isSome = false ∧
      r.isAtEnd = false := by
  have hRun :
      (start 3000 1 0).run? threeFailures =
        some ⟨3000, 1, 9061, .pausing 9062, ["aa"], false,
          false⟩ := by
    decide +kernel
  have hAttempts :
      (start 3000 1 0).attempts threeFailures =
        [.began 0, .ended 40, .began 3040, .ended 3055,
          .began 6055, .ended 6062] := by
    decide +kernel
  rcases attempts_spaced 3000 1 0 threeFailures _
      (by decide) (by decide) hRun with
    ⟨-, -, hWaits, -, hEnd, -⟩
  have hRetry := (hWaits 6062 (by rw [hAttempts]; rfl)).1
  refine ⟨_, hRun, hAttempts, rfl, ?_, hEnd⟩
  apply eq_false_of_ne_true
  intro hSome
  cases hRetry.mp hSome

/-
  A delay of more than thirty years is cut off, so an attempt
  does not always come a whole delay after the one before.
-/
theorem not_all_attempts_spaced_by_delay :
    ¬ ∀ (delay capacity now : Nat)
        (events : List Event)
        (r : Runner),
      Event.cancel ∉ events →
      Event.dropReader ∉ events →
      (start delay capacity now).run? events = some r →
      ((start delay capacity now).attempts events).IsChain
        (Mark.Follows delay) := by
  intro hAll
  have hChain :=
    hAll 946080000001 1 0
      [.refused, .pass 946080000000, .retry]
      ⟨946080000001, 1, 946080000000, .connecting, [], false,
        false⟩
      (by decide) (by decide) (by decide +kernel)
  have hAttempts :
      (start 946080000001 1 0).attempts
          [.refused, .pass 946080000000, .retry] =
        [.began 0, .ended 0, .began 946080000000] := by
    decide +kernel
  rw [hAttempts] at hChain
  simp [Mark.Follows] at hChain

end Runner

end LightningGateway.PushStream
