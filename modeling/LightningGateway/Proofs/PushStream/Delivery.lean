import LightningGateway.Proofs.PushStream.Lines
import LightningGateway.Proofs.PushStream.Step
import LightningGateway.Proofs.Run

/-
  What a push stream delivers.

  The provider's side of a run is the list of its answers, each
  with its status and the bytes of its body that arrived.  A
  stream announces the hashes that a fresh reader finds in these
  bytes, and any other answer announces nothing.

  The reader's side is the list of hashes it has got.  It is a
  beginning of what was announced, and while nobody cancels the
  runner, what is missing waits in the runner or in its queue.

  Key definitions include:
    * `Answer`
    * `Answer.hashes`
    * `Event.answers`
    * `Event.announced`
    * `Runner.undelivered`
    * `Runner.outstanding`

  Main results:
    * `Runner.Step.outstanding`
    * `Runner.yielded_outstanding`
    * `Runner.yielded_announced`
-/

namespace LightningGateway.PushStream

------------------------------------------------------------
-- Announcements
------------------------------------------------------------

/- An answer of the provider, with what arrived of its body. -/
structure Answer where
  status : Nat
  body : List UInt8
  deriving DecidableEq, Repr

/- The payment hashes that an answer announces. -/
def Answer.hashes (a : Answer) : List String :=
  if Runner.isStream a.status then
    (EventReader.fresh.feed a.body).2
  else []

namespace Event

/- The bytes that arrive before the body at hand ends. -/
@[simp] def bodyBytes : List Event → List UInt8
  | [] => []
  | .chunk bytes :: rest => bytes ++ bodyBytes rest
  | .bodyEnded _ :: _ => []
  | _ :: rest => bodyBytes rest

/- The answers of the provider, in the order of connections. -/
@[simp] def answers : List Event → List Answer
  | [] => []
  | .answered status :: rest =>
      ⟨status, bodyBytes rest⟩ :: answers rest
  | _ :: rest => answers rest

/- The payment hashes that all answers announce. -/
def announced (events : List Event) : List String :=
  (answers events).flatMap Answer.hashes

end Event

------------------------------------------------------------
-- Hashes on Their Way
------------------------------------------------------------

/- The hashes that were read and are not in the queue. -/
@[simp] def Phase.unsent : Phase → List String
  | .reading _ hashes => hashes
  | _ => []

/- The hashes that go into the queue if more bytes are read. -/
@[simp] def Phase.ahead
    (bytes : List UInt8) : Phase → List String
  | .reading reader hashes => hashes ++ (reader.feed bytes).2
  | _ => []

/- Whether the reader of a body, if one is read, holds no line. -/
def Phase.IsOpen (p : Phase) : Prop :=
  ∀ reader hashes, p = .reading reader hashes →
    lineFeed ∉ reader.held

/- Without more bytes, only hashes that were read are ahead. -/
theorem Phase.ahead_nil
    {p : Phase}
    (hOpen : p.IsOpen) :
    p.ahead [] = p.unsent := by
  cases p with
  | reading reader hashes =>
      simp [EventReader.feed_nil (hOpen reader hashes rfl)]
  | _ => rfl

namespace Runner

/- The hashes that were read and that the reader has not got. -/
def undelivered (r : Runner) : List String :=
  r.queue ++ r.phase.unsent

/- The hashes that the reader may get in the course of events. -/
def outstanding
    (r : Runner)
    (events : List Event) : List String :=
  r.queue ++
    (r.phase.ahead (Event.bodyBytes events) ++
      Event.announced events)

/- Whether nothing goes into the queue any more. -/
def IsSealed (r : Runner) : Prop :=
  r.phase = .stopped ∨ (r.readerGone = true ∧ r.queue = [])

/-
  A reader that went away has cancelled, and left nothing.  What
  is held of a body is an open line.
-/
structure IsConsistent (r : Runner) : Prop where
  leaver :
    r.readerGone = true → r.cancelled = true ∧ r.queue = []
  isOpen : r.phase.IsOpen

------------------------------------------------------------
-- One Step
------------------------------------------------------------

/- Every step keeps a runner consistent. -/
theorem Step.isConsistent
    {r s : Runner}
    {e : Event}
    (hStep : Step r e s)
    (hConsistent : r.IsConsistent) :
    s.IsConsistent := by
  have hLeaver := hConsistent.leaver
  have hOpen := hConsistent.isOpen
  refine ⟨?_, ?_⟩
  · intro hGone
    cases hStep <;> simp_all
  · intro held hashes hReading
    cases hStep with
    | answered status hPhase =>
        unfold afterHead at hReading
        split at hReading
        · cases hReading
          exact List.not_mem_nil
        · cases hReading
    | feed bytes reader hPhase =>
        cases hReading
        exact reader.not_mem_held_feed bytes
    | send reader hash rest hPhase hThere hRoom =>
        cases hReading
        exact hOpen _ _ hPhase
    | bodyEnded whole reader hPhase =>
        unfold afterBody at hReading
        split at hReading <;> cases hReading
    | skip bytes hPhase => exact hOpen _ _ hReading
    | read hash rest hQueue => exact hOpen _ _ hReading
    | dropReader hThere => exact hOpen _ _ hReading
    | cancel => exact hOpen _ _ hReading
    | pass ms hMay => exact hOpen _ _ hReading
    | _ => cases hReading

/- A runner that starts has neither lost a reader nor read. -/
theorem isConsistent_start (delay capacity now : Nat) :
    (start delay capacity now).IsConsistent where
  leaver := by
    intro hGone
    cases hGone
  isOpen := by
    intro reader hashes hReading
    cases hReading

/- A runner that is not cancelled was not so before. -/
theorem Step.not_cancelled
    {r s : Runner}
    {e : Event}
    (hStep : Step r e s)
    (hCancelled : s.cancelled = false) :
    r.cancelled = false := by
  cases hStep <;> simp_all

/- The bound of the queue never changes. -/
theorem Step.capacity_eq
    {r s : Runner}
    {e : Event}
    (hStep : Step r e s) :
    s.capacity = r.capacity := by
  cases hStep <;> rfl

/- No step puts more into the queue than there is room for. -/
theorem Step.queue_length_le
    {r s : Runner}
    {e : Event}
    (hStep : Step r e s)
    (hBound : r.queue.length ≤ r.capacity) :
    s.queue.length ≤ s.capacity := by
  cases hStep with
  | send reader hash unsent hPhase hThere hRoom =>
      rw [List.length_append]
      exact hRoom
  | read hash waiting hQueue =>
      rw [hQueue] at hBound
      exact Nat.le_of_succ_le hBound
  | dropReader hThere => exact Nat.zero_le _
  | _ => exact hBound

/-
  What a reader may get is what it gets by a step and what it
  may get after it; or else somebody has cancelled, and nothing
  goes into the queue any more.
-/
theorem Step.outstanding
    {r s : Runner}
    {e : Event}
    (hStep : Step r e s)
    (hConsistent : r.IsConsistent)
    (rest : List Event) :
    (r.output? e).toList ++ s.outstanding rest =
        r.outstanding (e :: rest) ∨
      r.output? e = none ∧ s.IsSealed ∧
        s.queue <+: r.queue ∧ s.cancelled = true := by
  cases hStep with
  | abandon reader hash unsent hPhase hGone =>
      right
      exact ⟨rfl, .inl rfl, List.prefix_rfl,
        (hConsistent.leaver hGone).1⟩
  | stop hCancelled hRunning =>
      right
      exact ⟨rfl, .inl rfl, List.prefix_rfl, hCancelled⟩
  | dropReader hThere =>
      right
      exact ⟨rfl, .inr ⟨rfl, rfl⟩, List.nil_prefix, rfl⟩
  | answered status hPhase =>
      -- Only here a body begins, with a reader that knows nothing.
      left
      by_cases hStream : isStream status = true
      · simp [Runner.outstanding, Event.announced,
          Answer.hashes, output?, afterHead, hPhase, hStream]
      · simp [Runner.outstanding, Event.announced,
          Answer.hashes, output?, afterHead, hPhase, hStream]
  | bodyEnded whole reader hPhase =>
      -- What the reader still holds is an unfinished line.
      left
      have hNone :=
        EventReader.feed_nil (hConsistent.isOpen _ _ hPhase)
      by_cases hGone : r.readerGone = true
      · simp [Runner.outstanding, Event.announced, output?,
          afterBody, hNone, hPhase, hGone]
      · simp [Runner.outstanding, Event.announced, output?,
          afterBody, afterPause, hNone, hPhase, hGone]
  | feed bytes reader hPhase =>
      left
      simp [Runner.outstanding, Event.announced, output?,
        EventReader.feed_append, hPhase]
  | read hash waiting hQueue =>
      left
      simp [Runner.outstanding, Event.announced, output?,
        hQueue]
  | _ =>
      left
      simp_all [Runner.outstanding, Event.announced, output?,
        afterPause]

------------------------------------------------------------
-- Whole Runs
------------------------------------------------------------

/- What is yielded first, and what by the events after it. -/
theorem yielded_cons
    {r s : Runner}
    {e : Event}
    (hStep : r.step? e = some s)
    (rest : List Event) :
    r.yielded (e :: rest) =
      (r.output? e).toList ++ s.yielded rest := by
  simp only [yielded, hStep]

/- What is yielded is what is put out to the reader. -/
theorem yielded_eq_outputs
    (r : Runner)
    (events : List Event) :
    r.yielded events =
      Run.outputs step? (fun r e => (r.output? e).toList) r
        events := by
  induction events generalizing r with
  | nil => rfl
  | cons e rest ih =>
      simp only [yielded, Run.outputs]
      cases r.step? e with
      | none => rfl
      | some s => exact congrArg _ (ih s)

/- A step of a sealed runner takes from its queue what it yields. -/
theorem Step.isSealed
    {r s : Runner}
    {e : Event}
    (hStep : Step r e s)
    (hSealed : r.IsSealed) :
    s.IsSealed ∧
      (r.output? e).toList ++ s.queue <+: r.queue := by
  cases hStep <;> simp_all [IsSealed, output?]

/- A sealed runner yields what its queue holds. -/
theorem yielded_of_isSealed
    {r s : Runner}
    {events : List Event}
    (hSealed : r.IsSealed)
    (hRun : r.run? events = some s) :
    r.yielded events <+: r.queue := by
  induction events generalizing r with
  | nil => exact List.nil_prefix
  | cons e rest ih =>
      rcases Run.run_cons_eq_some_iff.mp hRun with
        ⟨m, hFirst, hRest⟩
      have hNext :=
        (step_of_step? hFirst).isSealed hSealed
      rw [yielded_cons hFirst]
      exact
        ((List.prefix_append_right_inj _).mpr
          (ih hNext.1 hRest)).trans hNext.2

/-
  A run yields a beginning of what the reader may get, and all
  of it but what is on its way if nobody cancels.
-/
theorem yielded_outstanding
    {r s : Runner}
    {events : List Event}
    (hConsistent : r.IsConsistent)
    (hRun : r.run? events = some s) :
    r.yielded events <+: r.outstanding events ∧
      (s.cancelled = false →
        r.cancelled = false ∧
        r.yielded events ++ s.undelivered =
          r.outstanding events) := by
  induction events generalizing r with
  | nil =>
      cases hRun
      refine ⟨List.nil_prefix, ?_⟩
      intro hCancelled
      refine ⟨hCancelled, ?_⟩
      rw [undelivered, ← Phase.ahead_nil hConsistent.isOpen]
      simp only [yielded, outstanding, Event.bodyBytes,
        Event.announced, Event.answers, List.flatMap_nil,
        List.append_nil, List.nil_append]
  | cons e rest ih =>
      rcases Run.run_cons_eq_some_iff.mp hRun with
        ⟨m, hFirst, hRest⟩
      have hStep := step_of_step? hFirst
      rcases ih (hStep.isConsistent hConsistent) hRest with
        ⟨hPrefix, hAll⟩
      rw [yielded_cons hFirst]
      rcases hStep.outstanding hConsistent rest with
        hSame | ⟨hNone, hSealed, hQueue, hCancelled⟩
      · rw [← hSame]
        refine
          ⟨(List.prefix_append_right_inj _).mpr hPrefix, ?_⟩
        intro hLast
        rcases hAll hLast with ⟨hMiddle, hEq⟩
        refine ⟨hStep.not_cancelled hMiddle, ?_⟩
        rw [List.append_assoc, hEq]
      · refine ⟨?_, ?_⟩
        · rw [hNone]
          exact
            ((yielded_of_isSealed hSealed hRest).trans
              hQueue).trans (List.prefix_append _ _)
        · intro hLast
          rw [(hAll hLast).1] at hCancelled
          cases hCancelled

/- The queue of a run never holds more than its bound. -/
theorem queue_length_le_of_run
    {r s : Runner}
    {events : List Event}
    (hBound : r.queue.length ≤ r.capacity)
    (hRun : r.run? events = some s) :
    s.capacity = r.capacity ∧ s.queue.length ≤ s.capacity :=
  Run.invariant_of_run
    (P := fun s =>
      s.capacity = r.capacity ∧ s.queue.length ≤ s.capacity)
    (fun hInv hStep =>
      ⟨(step_of_step? hStep).capacity_eq.trans hInv.1,
        (step_of_step? hStep).queue_length_le hInv.2⟩)
    ⟨rfl, hBound⟩ hRun

/- What is yielded first, and what by the run that follows. -/
theorem yielded_append
    {r m : Runner}
    {past : List Event}
    (hPast : r.run? past = some m)
    (later : List Event) :
    r.yielded (past ++ later) =
      r.yielded past ++ m.yielded later := by
  simp only [yielded_eq_outputs]
  exact Run.outputs_append hPast later

/- A runner that only reads empties its queue. -/
theorem run?_reads (r : Runner) :
    r.run? (List.replicate r.queue.length .read) =
      some { r with queue := [] } := by
  rcases r with ⟨delay, capacity, now, phase, queue, gone, c⟩
  induction queue with
  | nil => rfl
  | cons hash waiting ih =>
      exact Run.run_cons_eq_some_iff.mpr ⟨_, rfl, ih⟩

/- Its reader gets all that the queue has held. -/
theorem yielded_reads (r : Runner) :
    r.yielded (List.replicate r.queue.length .read) =
      r.queue := by
  rcases r with ⟨delay, capacity, now, phase, queue, gone, c⟩
  induction queue with
  | nil => rfl
  | cons hash waiting ih =>
      exact congrArg (hash :: ·) ih

/-
  A reader that is there can get all hashes that were read in
  the body at hand, one by one, if the queue holds one at least.
-/
theorem exists_run_unsent_nil
    {r : Runner}
    {reader : EventReader}
    {hashes : List String}
    (hPhase : r.phase = .reading reader hashes)
    (hQueue : r.queue = [])
    (hThere : r.readerGone = false)
    (hRoom : 0 < r.capacity) :
    ∃ later,
      r.run? later =
        some { r with phase := .reading reader [] } ∧
      r.yielded later = hashes := by
  induction hashes generalizing r with
  | nil =>
      refine ⟨[], ?_, rfl⟩
      rw [← hPhase]
      rfl
  | cons hash rest ih =>
      let sent : Runner :=
        { r with
          phase := .reading reader rest
          queue := [hash] }
      let got : Runner := { sent with queue := r.queue }
      have hSend : r.step? .send = some sent := by
        have hStep :=
          Step.send reader hash rest hPhase hThere
            (by rw [hQueue]; exact hRoom)
        rw [hQueue] at hStep
        exact step?_of_step hStep
      have hRead : sent.step? .read = some got := by
        rw [show got = { sent with queue := [] } by
          rw [← hQueue]]
        exact step?_of_step (.read hash [] rfl)
      rcases ih (r := got) rfl hQueue hThere hRoom with
        ⟨later, hLater, hYielded⟩
      refine ⟨.send :: .read :: later, ?_, ?_⟩
      · exact Run.run_cons_eq_some_iff.mpr
          ⟨sent, hSend, Run.run_cons_eq_some_iff.mpr
            ⟨got, hRead, hLater⟩⟩
      · rw [yielded_cons hSend, yielded_cons hRead, hYielded]
        rfl

/- A reader that is there can get all that is on its way. -/
theorem exists_yielded_undelivered
    {r : Runner}
    (hThere : r.readerGone = false)
    (hRoom : 0 < r.capacity) :
    ∃ later s, r.run? later = some s ∧
      r.yielded later = r.undelivered := by
  cases hPhase : r.phase with
  | reading reader hashes =>
      let empty : Runner := { r with queue := [] }
      rcases exists_run_unsent_nil (r := empty) hPhase rfl
          hThere hRoom with
        ⟨later, hLater, hYielded⟩
      refine ⟨_, _, Run.run_append r.run?_reads hLater, ?_⟩
      rw [yielded_append r.run?_reads, yielded_reads, hYielded,
        undelivered, hPhase, Phase.unsent]
  | _ =>
      refine ⟨_, _, r.run?_reads, ?_⟩
      simp only [yielded_reads, undelivered, hPhase,
        Phase.unsent, List.append_nil]

/-
  For all connections that the provider offers, all pieces in
  which their bodies arrive, all bounds of the queue and all
  moments at which the reader reads: the hashes that the reader
  has got are a beginning of what the streams announced, each
  read afresh.  If nobody cancelled, the rest is on its way, in
  order, with no hash missing and none repeated; the queue keeps
  its bound, and a reader that is still there can get it all.
-/
theorem yielded_announced
    (delay capacity now : Nat)
    (events : List Event)
    (r : Runner)
    (hRun : (start delay capacity now).run? events = some r) :
    (start delay capacity now).yielded events <+:
        Event.announced events ∧
      (r.cancelled = false →
        (start delay capacity now).yielded events ++
          r.undelivered = Event.announced events) ∧
      r.queue.length ≤ max capacity 1 ∧
      (r.readerGone = false →
        ∃ later s, r.run? later = some s ∧
          r.yielded later = r.undelivered) := by
  have hConsistent := isConsistent_start delay capacity now
  have hStart :
      (start delay capacity now).outstanding events =
        Event.announced events := by
    simp [outstanding, start]
  rcases yielded_outstanding hConsistent hRun with
    ⟨hPrefix, hAll⟩
  rcases queue_length_le_of_run (Nat.zero_le _) hRun with
    ⟨hCapacity, hLength⟩
  rw [hStart] at hPrefix hAll
  refine ⟨hPrefix, fun hCancelled => (hAll hCancelled).2, ?_,
    ?_⟩
  · rw [hCapacity] at hLength
    exact hLength
  · intro hThere
    apply exists_yielded_undelivered hThere
    rw [hCapacity]
    exact Nat.le_max_right capacity 1

/-
  A run over four connections: none is made, one is refused, a
  stream breaks off after an event without its data, and the
  next stream begins with data that complete no event.
-/
def brokenOff : List Event :=
  [.refused, .pass 3000, .retry,
   .answered 503,
   .chunk (Text.Utf8.encode "event: payment-received\n"),
   .bodyEnded true, .pass 3000, .retry,
   .answered 200,
   .chunk (Text.Utf8.encode "event: payment-rec"),
   .chunk (Text.Utf8.encode
     "eived\ndata: \x7b\"payment_hash\":\"aa\"\x7d\n"),
   .send,
   .chunk (Text.Utf8.encode "event: payment-received\n"),
   .bodyEnded false, .pass 3000, .retry,
   .answered 200,
   .chunk (Text.Utf8.encode
     "data: \x7b\"payment_hash\":\"bb\"\x7d\n"),
   .read]

/- The reader gets the one hash that a stream announced. -/
theorem yielded_announced_of_brokenOff :
    ∃ r, (start 3000 0 0).run? brokenOff = some r ∧
      r.cancelled = false ∧
      (start 3000 0 0).yielded brokenOff = ["aa"] ∧
      ["aa"] ++ r.undelivered = Event.announced brokenOff := by
  have hRun :
      (start 3000 0 0).run? brokenOff =
        some ⟨3000, 1, 9000, .reading ⟨[], false⟩ [], [],
          false, false⟩ := by
    decide +kernel
  have hYielded :
      (start 3000 0 0).yielded brokenOff = ["aa"] := by
    decide +kernel
  have hAll :=
    (yielded_announced 3000 0 0 brokenOff _ hRun).2.1 rfl
  rw [hYielded] at hAll
  exact ⟨_, hRun, rfl, hYielded, hAll⟩

end Runner

end LightningGateway.PushStream
