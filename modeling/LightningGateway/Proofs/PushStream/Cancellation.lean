import LightningGateway.Proofs.Backend.Secrecy
import LightningGateway.Proofs.PushStream.Projection

/-
  Who ends a push stream.

  Dropping a stream cancels its own runner only; the others lose
  nothing and go on as if it were still there.  Closing the
  wallet cancels all of them.  A stream is at its end only then,
  after its reader has got all that was in its queue.

  Key definitions include:
    * `Runner.enqueued?`
    * `Streams.yielded`
    * `Streams.enqueued`
    * `Streams.Apart`

  Main results:
    * `Runner.cancelled_iff_of_run`
    * `Runner.enqueued_of_run`
    * `Streams.apart_of_run`
    * `Streams.cancelled_apart`
-/

namespace LightningGateway.PushStream

open Settings

------------------------------------------------------------
-- One Runner
------------------------------------------------------------

namespace Runner

variable {r s : Runner} {e : Event} {events : List Event}

/- The hash that goes into the queue by an event. -/
def enqueued?
    (r : Runner) : Event → Option String
  | .send =>
      match r.phase with
      | .reading _ (hash :: _) =>
          if r.readerGone then none else some hash
      | _ => none
  | _ => none

/- A runner is cancelled by its reader or by somebody else. -/
theorem Step.cancelled_iff
    (hStep : Step r e s) :
    s.cancelled = true ↔
      r.cancelled = true ∨ e = .cancel ∨ e = .dropReader := by
  cases hStep <;> simp

/- A reader is gone when it goes away. -/
theorem Step.readerGone_iff
    (hStep : Step r e s) :
    s.readerGone = true ↔
      r.readerGone = true ∨ e = .dropReader := by
  cases hStep <;> simp

/- What goes into the queue is read or waits in it. -/
theorem Step.enqueued
    (hStep : Step r e s)
    (hThere : s.readerGone = false) :
    r.queue ++ (r.enqueued? e).toList =
      (r.output? e).toList ++ s.queue := by
  cases hStep with
  | send reader hash unsent hPhase hReader hRoom =>
      simp [enqueued?, output?, hPhase, hReader]
  | abandon reader hash unsent hPhase hGone =>
      simp [enqueued?, output?, hPhase, hGone]
  | read hash waiting hQueue =>
      simp [enqueued?, output?, hQueue]
  | dropReader hReader => cases hThere
  | _ => simp [enqueued?, output?]

/- A runner that has stopped was cancelled. -/
def IsObedient (r : Runner) : Prop :=
  r.phase = .stopped → r.cancelled = true

/- A runner that starts has not stopped. -/
theorem isObedient_start (delay capacity now : Nat) :
    (start delay capacity now).IsObedient := by
  intro hStopped
  cases hStopped

/- Every step keeps a runner obedient. -/
theorem Step.isObedient
    (hStep : Step r e s)
    (hConsistent : r.IsConsistent)
    (hObedient : r.IsObedient) :
    s.IsObedient := by
  intro hStopped
  cases hStep with
  | answered status hPhase =>
      unfold afterHead at hStopped
      split at hStopped <;> cases hStopped
  | bodyEnded whole reader hPhase =>
      unfold afterBody at hStopped
      split at hStopped
      · rename_i hGone
        exact (hConsistent.leaver hGone).1
      · cases hStopped
  | abandon reader hash unsent hPhase hGone =>
      exact (hConsistent.leaver hGone).1
  | stop hCancelled hRunning => exact hCancelled
  | dropReader hThere => rfl
  | cancel => rfl
  | skip bytes hPhase => exact hObedient hStopped
  | read hash waiting hQueue => exact hObedient hStopped
  | pass ms hMay => exact hObedient hStopped
  | _ => cases hStopped

/- Who has cancelled a runner in the course of a run. -/
theorem cancelled_iff_of_run
    (hRun : r.run? events = some s) :
    s.cancelled = true ↔
      r.cancelled = true ∨ .cancel ∈ events ∨
        .dropReader ∈ events := by
  induction events generalizing r with
  | nil =>
      cases hRun
      simp
  | cons e rest ih =>
      rcases Run.run_cons_eq_some_iff.mp hRun with
        ⟨m, hFirst, hRest⟩
      rw [ih hRest, (step_of_step? hFirst).cancelled_iff,
        List.mem_cons, List.mem_cons, eq_comm, eq_comm (b := e)]
      tauto

/- When a reader has gone away in the course of a run. -/
theorem readerGone_iff_of_run
    (hRun : r.run? events = some s) :
    s.readerGone = true ↔
      r.readerGone = true ∨ .dropReader ∈ events := by
  induction events generalizing r with
  | nil =>
      cases hRun
      simp
  | cons e rest ih =>
      rcases Run.run_cons_eq_some_iff.mp hRun with
        ⟨m, hFirst, hRest⟩
      rw [ih hRest, (step_of_step? hFirst).readerGone_iff,
        List.mem_cons, or_assoc, eq_comm (a := e)]

/- What went into the queue of a run was read or waits in it. -/
theorem enqueued_of_run
    (hRun : r.run? events = some s)
    (hThere : s.readerGone = false) :
    r.queue ++
        Run.outputs step? (fun r e => (r.enqueued? e).toList) r
          events =
      r.yielded events ++ s.queue := by
  induction events generalizing r with
  | nil =>
      cases hRun
      exact List.append_nil _
  | cons e rest ih =>
      rcases Run.run_cons_eq_some_iff.mp hRun with
        ⟨m, hFirst, hRest⟩
      have hStay : m.readerGone = false := by
        apply eq_false_of_ne_true
        intro hGone
        have hLast :=
          (readerGone_iff_of_run hRest).mpr (.inl hGone)
        rw [hThere] at hLast
        cases hLast
      simp only [Run.outputs, hFirst]
      rw [← List.append_assoc,
        (step_of_step? hFirst).enqueued hStay,
        List.append_assoc, ih hRest, yielded_cons hFirst,
        List.append_assoc]

/- A cancelled runner can stop, and its queue can be read. -/
theorem exists_run_isAtEnd
    (hCancelled : r.cancelled = true) :
    ∃ later s, r.run? later = some s ∧ s.isAtEnd = true ∧
      ∀ e ∈ later, e = .stop ∨ e = .read := by
  let stopped : Runner := { r with phase := .stopped }
  have hReads := stopped.run?_reads
  have hOnly :
      ∀ e ∈ List.replicate stopped.queue.length Event.read,
        e = .stop ∨ e = .read :=
    fun e hMem => .inr (List.eq_of_mem_replicate hMem)
  by_cases hPhase : r.phase = .stopped
  · have hSame : stopped = r := by
      simp only [stopped, ← hPhase]
    rw [hSame] at hReads hOnly
    refine ⟨_, _, hReads, ?_, hOnly⟩
    simp [isAtEnd, hPhase]
  · have hStop :=
      step?_of_step (.stop hCancelled hPhase)
    exact ⟨_, _,
      Run.run_cons_eq_some_iff.mpr ⟨stopped, hStop, hReads⟩,
      rfl, List.forall_mem_cons.mpr ⟨.inl rfl, hOnly⟩⟩

end Runner

namespace Streams

variable {s t : Streams} {e : Event} {events : List Event}

------------------------------------------------------------
-- Readers
------------------------------------------------------------

/- The hashes that the reader of a stream gets. -/
def yielded
    (s : Streams)
    (i : Nat)
    (events : List Event) : List String :=
  Run.outputs step?
    (fun s => s.puts (fun r e => (r.output? e).toList) i)
    s events

/- The hashes that the runner of a stream puts into its queue. -/
def enqueued
    (s : Streams)
    (i : Nat)
    (events : List Event) : List String :=
  Run.outputs step?
    (fun s => s.puts (fun r e => (r.enqueued? e).toList) i)
    s events

/- The reader of a stream gets what its runner alone yields. -/
theorem yielded_eq
    (hRun : s.run? events = some t)
    (i : Nat) :
    s.yielded i events =
      (s.runnerAt i).yielded (view i events) := by
  rw [Runner.yielded_eq_outputs]
  exact outputs_eq (fun _ _ => rfl) (fun _ => rfl) hRun i

/- What waits was put into the queue and is not read yet. -/
theorem enqueued_eq
    (hRun : s.run? events = some t)
    {i : Nat}
    (hEmpty : (s.runnerAt i).queue = [])
    (hThere : (t.runnerAt i).readerGone = false) :
    s.enqueued i events =
      s.yielded i events ++ (t.runnerAt i).queue := by
  have hAlone :=
    Runner.enqueued_of_run (runnerAt_of_run hRun i) hThere
  rw [hEmpty, List.nil_append] at hAlone
  rw [yielded_eq hRun, ← hAlone]
  exact outputs_eq (fun _ _ => rfl) (fun _ => rfl) hRun i

------------------------------------------------------------
-- Cancellation
------------------------------------------------------------

/- A stream sees that it is dropped, if it is. -/
theorem dropReader_mem_view_iff
    (i : Nat)
    (events : List Event) :
    .dropReader ∈ view i events ↔
      .one i .dropReader ∈ events := by
  have hOne :
      ∀ e, .dropReader ∈ seenBy i e ↔ e = .one i .dropReader := by
    intro e
    cases e with
    | one j e =>
        by_cases hSame : j = i
        · simp [seenBy, hSame, eq_comm]
        · simp [seenBy, hSame]
    | _ => simp [seenBy]
  simp only [view, List.mem_flatMap, hOne, exists_eq_right]

/- Nothing but the closing of the wallet is seen as a cancel. -/
theorem Step.cancel_mem_seenBy_iff
    (hStep : Step s e t)
    (i : Nat) :
    .cancel ∈ seenBy i e ↔ e = .close := by
  cases hStep with
  | one j e r r' hOwn hRunner hStep =>
      have hOther : .cancel ≠ e := by
        rintro rfl
        cases hOwn
      by_cases hSame : j = i
      · simp [seenBy, hSame, hOther]
      · simp [seenBy, hSame]
  | _ => simp [seenBy]

/- A stream sees that the wallet is closed, if it is. -/
theorem cancel_mem_view_iff
    (hRun : s.run? events = some t)
    (i : Nat) :
    .cancel ∈ view i events ↔ .close ∈ events := by
  induction events generalizing s with
  | nil => simp [view]
  | cons e rest ih =>
      rcases Run.run_cons_eq_some_iff.mp hRun with
        ⟨m, hFirst, hRest⟩
      have hSeen :=
        (step_of_step? hFirst).cancel_mem_seenBy_iff i
      rw [view, List.flatMap_cons, List.mem_append, hSeen,
        List.mem_cons, eq_comm (a := e)]
      exact or_congr_right (ih hRest)

/- Closing is for good. -/
theorem closed_iff_of_run
    (hRun : s.run? events = some t) :
    t.wallet.client.closed = true ↔
      s.wallet.client.closed = true ∨ .close ∈ events := by
  induction events generalizing s with
  | nil =>
      cases hRun
      simp
  | cons e rest ih =>
      rcases Run.run_cons_eq_some_iff.mp hRun with
        ⟨m, hFirst, hRest⟩
      have hClosed :
          m.wallet.client.closed = true ↔
            s.wallet.client.closed = true ∨ e = .close := by
        cases step_of_step? hFirst <;>
          simp [Backend.Lnbits.close, Provider.Client.close]
      rw [ih hRest, hClosed, List.mem_cons, or_assoc,
        eq_comm (a := e)]

------------------------------------------------------------
-- Streams of an Open Wallet
------------------------------------------------------------

/- The runner of each stream of an open wallet starts afresh. -/
theorem runnerAt_start
    {w : Backend.Lnbits}
    (hOpen : w.client.closed = false)
    (i : Nat) :
    (start w).runnerAt i =
      .start (1000 * w.reconnectSecs) w.streamCapacity 0 := by
  rw [runnerAt, start, List.getElem?_nil, Option.getD_none,
    fresh, hOpen]
  rfl

section Opened

variable {w : Backend.Lnbits} {i : Nat} {r : Runner}
variable (hOpen : w.client.closed = false)
variable (hRun : (start w).run? events = some t)
variable (hRunner : t.runners[i]? = some r)

include hOpen hRun hRunner

/- What becomes of it is a run of a runner that starts afresh. -/
theorem run_alone :
    (Runner.start (1000 * w.reconnectSecs) w.streamCapacity
        0).run? (view i events) =
      some r := by
  rw [← runnerAt_of_getElem? hRunner, ← runnerAt_start hOpen]
  exact runnerAt_of_run hRun i

/- It is cancelled if the wallet is closed, or if it is dropped. -/
theorem cancelled_iff :
    r.cancelled = true ↔
      .close ∈ events ∨ .one i .dropReader ∈ events := by
  rw [Runner.cancelled_iff_of_run
      (run_alone hOpen hRun hRunner),
    cancel_mem_view_iff hRun, dropReader_mem_view_iff]
  simp [Runner.start]

/- Its reader is gone if it is dropped. -/
theorem readerGone_iff :
    r.readerGone = true ↔ .one i .dropReader ∈ events := by
  rw [Runner.readerGone_iff_of_run
      (run_alone hOpen hRun hRunner),
    dropReader_mem_view_iff]
  simp [Runner.start]

/- It does not end unless it is cancelled. -/
theorem cancelled_of_isAtEnd
    (hEnd : r.isAtEnd = true) :
    r.cancelled = true := by
  have hKept :=
    Run.invariant_of_run
      (P := fun r : Runner => r.IsConsistent ∧ r.IsObedient)
      (fun hBoth hStep =>
        ⟨(Runner.step_of_step? hStep).isConsistent hBoth.1,
          (Runner.step_of_step? hStep).isObedient hBoth.1
            hBoth.2⟩)
      ⟨Runner.isConsistent_start _ _ _,
        Runner.isObedient_start _ _ _⟩
      (run_alone hOpen hRun hRunner)
  simp only [Runner.isAtEnd, Bool.and_eq_true,
    decide_eq_true_eq] at hEnd
  exact hKept.2 hEnd.1

/- So a stream that is not cancelled goes on. -/
theorem isAtEnd_eq_false
    (hCancelled : r.cancelled = false) :
    r.isAtEnd = false := by
  apply eq_false_of_ne_true
  intro hEnd
  have hBad := cancelled_of_isAtEnd hOpen hRun hRunner hEnd
  rw [hCancelled] at hBad
  cases hBad

/- Its reader gets what is announced, or it is on its way. -/
theorem yielded_undelivered
    (hCancelled : r.cancelled = false) :
    (start w).yielded i events ++ r.undelivered =
      PushStream.Event.announced (view i events) := by
  have hAll :=
    ((Runner.yielded_outstanding
      (Runner.isConsistent_start _ _ _)
      (run_alone hOpen hRun hRunner)).2 hCancelled).2
  rw [yielded_eq hRun, runnerAt_start hOpen, hAll]
  simp [Runner.outstanding, Runner.start]

/- At its end its reader has got all that was in the queue. -/
theorem yielded_eq_enqueued
    (hThere : r.readerGone = false)
    (hEnd : r.isAtEnd = true) :
    (start w).yielded i events = (start w).enqueued i events := by
  have hAt := runnerAt_of_getElem? hRunner
  have hQueue : r.queue = [] := by
    simp only [Runner.isAtEnd, Bool.and_eq_true,
      List.isEmpty_iff] at hEnd
    exact hEnd.2
  have hAll :=
    enqueued_eq hRun (i := i)
      (by rw [runnerAt_start hOpen]; rfl)
      (by rw [hAt]; exact hThere)
  rw [hAll, hAt, hQueue, List.append_nil]

end Opened

/- What one stream can do alone, it can do among others. -/
theorem exists_run_one
    {i : Nat}
    {r r' : Runner}
    {own : List PushStream.Event}
    (hRunner : s.runners[i]? = some r)
    (hOwn : ∀ e ∈ own, isOwn e = true)
    (hRun : r.run? own = some r') :
    ∃ t, s.run? (own.map (.one i)) = some t ∧
      t.runners[i]? = some r' := by
  induction own generalizing s r with
  | nil =>
      cases hRun
      exact ⟨s, rfl, hRunner⟩
  | cons e rest ih =>
      rcases Run.run_cons_eq_some_iff.mp hRun with
        ⟨m, hFirst, hRest⟩
      have hThere := (List.getElem?_eq_some_iff.mp hRunner).1
      rcases ih (s := { s with runners := s.runners.set i m })
          (List.getElem?_set_self hThere)
          (fun e hMem => hOwn e (.tail _ hMem)) hRest with
        ⟨t, hLater, hLast⟩
      exact ⟨t, Run.run_cons_eq_some_iff.mpr
        ⟨_, step?_of_step
          (.one i e r m (hOwn e (.head rest)) hRunner hFirst),
          hLater⟩, hLast⟩

/- A cancelled stream comes to its end among others. -/
theorem exists_run_isAtEnd
    {i : Nat}
    {r : Runner}
    (hRunner : t.runners[i]? = some r)
    (hCancelled : r.cancelled = true) :
    ∃ later u r', t.run? later = some u ∧
      .one i .dropReader ∉ later ∧
      u.runners[i]? = some r' ∧ r'.isAtEnd = true := by
  rcases Runner.exists_run_isAtEnd hCancelled with
    ⟨own, r', hAlone, hEnd, hKinds⟩
  have hOwn : ∀ e ∈ own, isOwn e = true := by
    intro e hMem
    rcases hKinds e hMem with rfl | rfl <;> rfl
  rcases exists_run_one hRunner hOwn hAlone with
    ⟨u, hRun, hLast⟩
  refine ⟨_, u, r', hRun, ?_, hLast, hEnd⟩
  intro hMem
  rcases List.mem_map.mp hMem with ⟨e, hSeen, hSame⟩
  cases hSame
  rcases hKinds _ hSeen with hBad | hBad <;> cases hBad

------------------------------------------------------------
-- Dropping
------------------------------------------------------------

/-
  Two wallets with the same streams, apart from one whose runner
  does the same in both.
-/
def Apart (i : Nat) (s t : Streams) : Prop :=
  ∃ r r', s.runners[i]? = some r ∧ r'.phase = r.phase ∧
    r'.now = r.now ∧
    t = { s with runners := s.runners.set i r' }

/- To drop a stream changes this stream only. -/
theorem apart_of_dropReader
    {i : Nat}
    (hDrop : s.step? (.one i .dropReader) = some t) :
    Apart i s t := by
  cases step_of_step? hDrop with
  | one i e r r' hOwn hRunner hStep =>
      cases Runner.step_of_step? hStep with
      | dropReader hThere =>
          refine ⟨r, _, hRunner, ?_, ?_, rfl⟩
          · rfl
          · rfl

/- Whatever can happen to one of them can happen to the other. -/
theorem Apart.step
    {i : Nat}
    {s' : Streams}
    (hApart : Apart i s t)
    (hStep : Step s e s')
    (hOther : ∀ own, e ≠ .one i own) :
    ∃ t', Step t e t' ∧ Apart i s' t' := by
  rcases hApart with ⟨r, r', hRunner, hPhase, hNow, rfl⟩
  have hThere := (List.getElem?_eq_some_iff.mp hRunner).1
  cases hStep with
  | letIn hOpen =>
      exact ⟨_, .letIn hOpen, r, r', hRunner, hPhase, hNow, rfl⟩
  | refuse hClosed =>
      exact ⟨_, .refuse hClosed, r, r', hRunner, hPhase, hNow,
        rfl⟩
  | spawn n hAdmitted =>
      refine ⟨_, .spawn n hAdmitted, r, r', ?_, hPhase, hNow, ?_⟩
      · exact (List.getElem?_append_left hThere).trans hRunner
      · rw [List.set_append_left _ _ hThere]
        rfl
  | one j own a a' hOwn hMoved hMove =>
      have hNe : j ≠ i := by
        rintro rfl
        exact hOther own rfl
      have hSame : (s.runners.set i r')[j]? = some a := by
        rw [List.getElem?_set_ne hNe.symm]
        exact hMoved
      refine ⟨_, .one j own a a' hOwn hSame hMove, r, r', ?_,
        hPhase, hNow, ?_⟩
      · exact (List.getElem?_set_ne hNe).trans hRunner
      · rw [List.set_comm _ _ hNe]
  | pass ms hMay =>
      have hAll :
          ∀ a ∈ s.runners.set i r', a.mayPass ms = true := by
        intro a hMem
        rcases List.mem_or_eq_of_mem_set hMem with hOld | rfl
        · exact hMay a hOld
        · have hOld := hMay r (List.mem_of_getElem? hRunner)
          unfold Runner.mayPass at hOld ⊢
          rwa [hPhase, hNow]
      refine ⟨_, .pass ms hAll, { r with now := r.now + ms },
        { r' with now := r'.now + ms }, ?_, hPhase,
        congrArg (· + ms) hNow, ?_⟩
      · rw [List.getElem?_map, hRunner]
        rfl
      · rw [List.map_set]
  | close =>
      refine ⟨_, .close, { r with cancelled := true },
        { r' with cancelled := true }, ?_, hPhase, hNow, ?_⟩
      · rw [List.getElem?_map, hRunner]
        rfl
      · rw [List.map_set]

/- So whatever follows for one of them can follow for the other. -/
theorem Apart.run
    {i : Nat}
    {s' : Streams}
    (hApart : Apart i s t)
    (hRun : s.run? events = some s')
    (hOther : ∀ own, .one i own ∉ events) :
    ∃ t', t.run? events = some t' ∧ Apart i s' t' := by
  induction events generalizing s t with
  | nil =>
      cases hRun
      exact ⟨t, rfl, hApart⟩
  | cons e rest ih =>
      rcases Run.run_cons_eq_some_iff.mp hRun with
        ⟨m, hFirst, hRest⟩
      have hFresh : ∀ own, e ≠ .one i own := by
        rintro own rfl
        exact hOther own (.head rest)
      rcases hApart.step (step_of_step? hFirst) hFresh with
        ⟨n, hSecond, hNext⟩
      rcases ih hNext hRest
          (fun own hMem => hOther own (.tail e hMem)) with
        ⟨t', hLast, hEnd⟩
      exact ⟨t', Run.run_cons_eq_some_iff.mpr
        ⟨n, step?_of_step hSecond, hLast⟩, hEnd⟩

/- They are streams of one wallet. -/
theorem Apart.wallet_eq
    {i : Nat}
    (hApart : Apart i s t) :
    t.wallet = s.wallet := by
  rcases hApart with ⟨r, r', _, _, _, rfl⟩
  rfl

/- The other streams are the same in both. -/
theorem Apart.getElem?_eq
    {i j : Nat}
    (hApart : Apart i s t)
    (hOther : j ≠ i) :
    t.runners[j]? = s.runners[j]? := by
  rcases hApart with ⟨r, r', _, _, _, rfl⟩
  exact List.getElem?_set_ne hOther.symm

/- A wallet that was just built is open. -/
theorem closed_of_build
    {s : LnbitsSettings}
    {f : FundingSettings}
    {w : Backend.Lnbits}
    (hBuilt : Backend.Lnbits.build s f = .ok w) :
    w.client.closed = false := by
  rcases Wallet.lnbits_of_build hBuilt with ⟨_, _, _, rfl⟩
  rfl

/- The other streams do not see that a stream is dropped. -/
theorem view_of_dropReader
    {i j : Nat}
    (hOther : j ≠ i)
    (before after : List Event) :
    view j (before ++ .one i .dropReader :: after) =
      view j (before ++ after) := by
  simp only [view, List.flatMap_append, List.flatMap_cons, seenBy,
    if_neg hOther.symm, List.nil_append]

/-
  Whatever could follow without the drop can still follow; the
  other streams are the same then, and so are their readers.
-/
theorem run_of_dropReader
    {i : Nat}
    {u t' : Streams}
    {later : List Event}
    (hRun : s.run? events = some t)
    (hDrop : t.step? (.one i .dropReader) = some u)
    (hOther : ∀ own, .one i own ∉ later)
    (hLater : t.run? later = some t') :
    ∃ u', u.run? later = some u' ∧ u'.wallet = t'.wallet ∧
      ∀ j, j ≠ i →
        u'.runners[j]? = t'.runners[j]? ∧
        s.yielded j (events ++ .one i .dropReader :: later) =
          s.yielded j (events ++ later) := by
  rcases (apart_of_dropReader hDrop).run hLater hOther with
    ⟨u', hSame, hApart⟩
  have hWith :
      s.run? (events ++ .one i .dropReader :: later) = some u' :=
    Run.run_append hRun
      (Run.run_cons_eq_some_iff.mpr ⟨u, hDrop, hSame⟩)
  have hWithout : s.run? (events ++ later) = some t' :=
    Run.run_append hRun hLater
  refine ⟨u', hSame, hApart.wallet_eq,
    fun j hNe => ⟨hApart.getElem?_eq hNe, ?_⟩⟩
  rw [yielded_eq hWith, yielded_eq hWithout,
    view_of_dropReader hNe]

/-
  For every wallet at LNbits that was built and every run in
  which streams are opened, read and dropped and the wallet may
  be closed, in whatever order:

  A runner is cancelled if and only if the wallet was closed or
  its own stream was dropped.  Unless it is, its stream is not
  at its end, and its reader gets all that was announced to it.
  If a stream is dropped, whatever could follow without it can
  still follow; the other runners are the same then, and their
  readers get the same.

  A stream that was not dropped is at its end only if the wallet
  was closed, and only after its reader has got all that was put
  into its queue.  Once the wallet was closed all runners are
  cancelled, nobody is let in any more, and every stream that is
  still read comes to its end.
-/
theorem streams_cancelled_apart
    {s : LnbitsSettings}
    {f : FundingSettings}
    {w : Backend.Lnbits}
    {events : List Event}
    {t : Streams}
    (hBuilt : Backend.Lnbits.build s f = .ok w)
    (hRun : (start w).run? events = some t) :
    (∀ i r, t.runners[i]? = some r →
      (r.cancelled = true ↔
        .close ∈ events ∨ .one i .dropReader ∈ events)) ∧
    (∀ i r, t.runners[i]? = some r → .close ∉ events →
      .one i .dropReader ∉ events →
      r.isAtEnd = false ∧
        (start w).yielded i events ++ r.undelivered =
          PushStream.Event.announced (view i events)) ∧
    (∀ i u, t.step? (.one i .dropReader) = some u →
      ∀ later t', (∀ own, .one i own ∉ later) →
        t.run? later = some t' →
        ∃ u', u.run? later = some u' ∧ u'.wallet = t'.wallet ∧
          ∀ j, j ≠ i →
            u'.runners[j]? = t'.runners[j]? ∧
            (start w).yielded j
                (events ++ .one i .dropReader :: later) =
              (start w).yielded j (events ++ later)) ∧
    (∀ i r, t.runners[i]? = some r →
      .one i .dropReader ∉ events → r.isAtEnd = true →
      .close ∈ events ∧
        (start w).yielded i events =
          (start w).enqueued i events) ∧
    (.close ∈ events →
      (∀ r ∈ t.runners, r.cancelled = true) ∧
        (Wallet.lnbits t.wallet).openStream = .error .closed ∧
        ∀ i r, t.runners[i]? = some r →
          .one i .dropReader ∉ events →
          ∃ later u r', t.run? later = some u ∧
            .one i .dropReader ∉ later ∧
            u.runners[i]? = some r' ∧ r'.isAtEnd = true) := by
  have hOpen := closed_of_build hBuilt
  refine ⟨?_, ?_, ?_, ?_, ?_⟩
  · intro i r hRunner
    exact cancelled_iff hOpen hRun hRunner
  · intro i r hRunner hNoClose hNoDrop
    have hCancelled : r.cancelled = false := by
      apply eq_false_of_ne_true
      intro hCancelled
      rcases (cancelled_iff hOpen hRun hRunner).mp hCancelled with
        hClose | hDrop
      · exact hNoClose hClose
      · exact hNoDrop hDrop
    exact ⟨isAtEnd_eq_false hOpen hRun hRunner hCancelled,
      yielded_undelivered hOpen hRun hRunner hCancelled⟩
  · intro i u hDrop later t' hOther hLater
    exact run_of_dropReader hRun hDrop hOther hLater
  · intro i r hRunner hNoDrop hEnd
    have hThere : r.readerGone = false :=
      eq_false_of_ne_true fun hGone =>
        hNoDrop ((readerGone_iff hOpen hRun hRunner).mp hGone)
    have hCancelled :=
      cancelled_of_isAtEnd hOpen hRun hRunner hEnd
    refine ⟨?_, yielded_eq_enqueued hOpen hRun hRunner hThere hEnd⟩
    exact ((cancelled_iff hOpen hRun hRunner).mp
      hCancelled).resolve_right hNoDrop
  · intro hClose
    have hAll :
        ∀ (i : Nat) (r : Runner), t.runners[i]? = some r →
          r.cancelled = true :=
      fun i r hRunner =>
        (cancelled_iff hOpen hRun hRunner).mpr (.inl hClose)
    refine ⟨?_, ?_, ?_⟩
    · intro r hMem
      rcases List.mem_iff_getElem?.mp hMem with ⟨i, hRunner⟩
      exact hAll i r hRunner
    · exact openStream_of_closed
        ((closed_iff_of_run hRun).mpr (.inr hClose))
    · intro i r hRunner _
      exact exists_run_isAtEnd hRunner (hAll i r hRunner)

/- Settings of a wallet at LNbits. -/
def hallSettings : LnbitsSettings :=
  ⟨some "http://lnbits.test", some "key", none, none⟩

/- The wallet that they describe. -/
def hall : Backend.Lnbits :=
  ⟨⟨"http://lnbits.test", "x-api-key", "key", "funding/0.1.0",
    false⟩, 5, 1024⟩

/-
  Two streams are opened and one is dropped; the wallet is
  closed when two hashes wait for the reader of the other, who
  takes them.
-/
def hallUse : List Event :=
  [.openStream, .openStream, .spawn, .spawn,
   .one 0 (.answered 200),
   .one 0 (.chunk (Text.Utf8.encode
     ("event: payment-received\n" ++
       "data: \x7b\"payment_hash\":\"aa\"\x7d\n" ++
       "event: payment-received\n" ++
       "data: \x7b\"payment_hash\":\"bb\"\x7d\n"))),
   .one 0 .send, .one 1 .dropReader, .one 0 .send, .close,
   .openStream, .one 0 .stop, .one 0 .read, .one 0 .read]

/- The other stream is at its end, with both hashes read. -/
theorem streams_cancelled_apart_of_hallUse :
    Backend.Lnbits.build hallSettings .default = .ok hall ∧
      ∃ t r, (start hall).run? hallUse = some t ∧
        t.runners[0]? = some r ∧ r.isAtEnd = true ∧
        (start hall).enqueued 0 hallUse = ["aa", "bb"] ∧
        (Wallet.lnbits t.wallet).openStream =
          .error .closed := by
  have hBuilt :
      Backend.Lnbits.build hallSettings .default = .ok hall :=
    rfl
  have hRuns : ((start hall).run? hallUse).isSome = true := by
    decide +kernel
  rcases Option.isSome_iff_exists.mp hRuns with ⟨t, hRun⟩
  have hEnds :
      (((start hall).run? hallUse).bind (·.runners[0]?)).map
          Runner.isAtEnd =
        some true := by
    decide +kernel
  have hYielded :
      (start hall).yielded 0 hallUse = ["aa", "bb"] := by
    decide +kernel
  rw [hRun] at hEnds
  rcases Option.map_eq_some_iff.mp hEnds with
    ⟨r, hRunner, hEnd⟩
  rcases streams_cancelled_apart hBuilt hRun with
    ⟨_, _, _, hAtEnd, hClosed⟩
  rcases hAtEnd 0 r hRunner (by decide) hEnd with
    ⟨hClose, hAll⟩
  rw [hYielded] at hAll
  exact ⟨hBuilt, t, r, hRun, hRunner, hEnd, hAll.symm,
    (hClosed hClose).2.1⟩

end Streams

end LightningGateway.PushStream
