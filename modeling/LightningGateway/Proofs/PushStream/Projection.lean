import LightningGateway.Proofs.PushStream.Reconnection
import LightningGateway.PushStream.Streams

/-
  What one stream sees of all.

  The streams of a wallet share the clock and the closing of the
  wallet, and nothing else.  So what becomes of one stream is a
  run of its runner alone, over the events that it sees.

  Key definitions include:
    * `Streams.Step`
    * `Streams.runnerAt`
    * `Streams.view`
    * `Streams.puts`

  Main results:
    * `Streams.step?_eq_some_iff`
    * `Streams.runnerAt_of_run`
    * `Streams.outputs_eq`
-/

namespace LightningGateway.PushStream.Streams

------------------------------------------------------------
-- Steps
------------------------------------------------------------

/- What may happen to the streams, and what comes of it. -/
inductive Step (s : Streams) : Event → Streams → Prop
  | letIn (hOpen : s.wallet.client.closed = false) :
      Step s .openStream { s with admitted := s.admitted + 1 }
  | refuse (hClosed : s.wallet.client.closed = true) :
      Step s .openStream s
  | spawn
      (n : Nat)
      (hAdmitted : s.admitted = n + 1) :
      Step s .spawn
        { s with
          admitted := n
          runners := s.runners ++ [s.fresh] }
  | one
      (i : Nat)
      (e : PushStream.Event)
      (r r' : Runner)
      (hOwn : isOwn e = true)
      (hRunner : s.runners[i]? = some r)
      (hStep : r.step? e = some r') :
      Step s (.one i e) { s with runners := s.runners.set i r' }
  | pass
      (ms : Nat)
      (hMay : ∀ r ∈ s.runners, r.mayPass ms = true) :
      Step s (.pass ms)
        { s with
          now := s.now + ms
          runners := s.runners.map fun r =>
            { r with now := r.now + ms } }
  | close :
      Step s .close
        { s with
          wallet := s.wallet.close
          runners := s.runners.map fun r =>
            { r with cancelled := true } }

variable {s t : Streams} {e : Event}

/- An open wallet lets everybody in. -/
theorem openStream_of_open
    {w : Backend.Lnbits}
    (hOpen : w.client.closed = false) :
    (Wallet.lnbits w).openStream =
      .ok (.pushed [], .lnbits w) := by
  simp [Wallet.openStream, Wallet.relay?, Wallet.client?, hOpen]

/- A closed wallet lets nobody in. -/
theorem openStream_of_closed
    {w : Backend.Lnbits}
    (hClosed : w.client.closed = true) :
    (Wallet.lnbits w).openStream = .error .closed := by
  simp [Wallet.openStream, Wallet.relay?, Wallet.client?,
    hClosed]

/- Every rule is a step. -/
theorem step?_of_step
    (hStep : Step s e t) :
    s.step? e = some t := by
  cases hStep with
  | letIn hOpen => rw [step?, openStream_of_open hOpen]
  | refuse hClosed => rw [step?, openStream_of_closed hClosed]
  | spawn n hAdmitted => simp only [step?, hAdmitted]
  | one i e r r' hOwn hRunner hStep =>
      simp only [step?, hOwn, if_true, hRunner, hStep,
        Option.map_some]
  | pass ms hMay =>
      rw [step?, if_pos (List.all_eq_true.mpr hMay)]
  | close => rfl

/- Every step is a rule. -/
theorem step_of_step?
    (hStep : s.step? e = some t) :
    Step s e t := by
  cases e with
  | openStream =>
      cases hClosed : s.wallet.client.closed with
      | false =>
          rw [step?, openStream_of_open hClosed] at hStep
          cases hStep
          exact .letIn hClosed
      | true =>
          rw [step?, openStream_of_closed hClosed] at hStep
          cases hStep
          exact .refuse hClosed
  | spawn =>
      cases hAdmitted : s.admitted with
      | zero =>
          simp only [step?, hAdmitted] at hStep
          cases hStep
      | succ n =>
          simp only [step?, hAdmitted] at hStep
          cases hStep
          exact .spawn n hAdmitted
  | one i e =>
      rcases Option.ite_none_right_eq_some.mp hStep with
        ⟨hOwn, hMoved⟩
      cases hRunner : s.runners[i]? with
      | none =>
          rw [hRunner] at hMoved
          cases hMoved
      | some r =>
          rw [hRunner] at hMoved
          rcases Option.map_eq_some_iff.mp hMoved with
            ⟨r', hNext, rfl⟩
          exact .one i e r r' hOwn hRunner hNext
  | pass ms =>
      rcases Option.ite_none_right_eq_some.mp hStep with
        ⟨hMay, hSome⟩
      cases hSome
      exact .pass ms (List.all_eq_true.mp hMay)
  | close =>
      cases hStep
      exact .close

/- The steps are exactly the rules. -/
theorem step?_eq_some_iff :
    s.step? e = some t ↔ Step s e t :=
  ⟨step_of_step?, step?_of_step⟩

------------------------------------------------------------
-- The Runner of One Stream
------------------------------------------------------------

/- The runner of a stream, or the one that it will start with. -/
def runnerAt (s : Streams) (i : Nat) : Runner :=
  (s.runners[i]?).getD s.fresh

/- A stream that is there has its own runner. -/
theorem runnerAt_of_getElem?
    {i : Nat}
    {r : Runner}
    (hRunner : s.runners[i]? = some r) :
    s.runnerAt i = r := by
  rw [runnerAt, hRunner]
  rfl

/- What a stream sees of an event. -/
def seenBy (i : Nat) : Event → List PushStream.Event
  | .openStream => []
  | .spawn => []
  | .one j e => if j = i then [e] else []
  | .pass ms => [.pass ms]
  | .close => [.cancel]

/- What a stream sees, from before it was opened. -/
def view
    (i : Nat)
    (events : List Event) : List PushStream.Event :=
  events.flatMap (seenBy i)

/- A list of runners may be longer by the one that is next. -/
theorem getD_append_singleton
    (runners : List Runner)
    (r : Runner)
    (i : Nat) :
    ((runners ++ [r])[i]?).getD r = (runners[i]?).getD r := by
  rw [List.getElem?_append]
  split
  · rfl
  · rename_i hPast
    rw [List.getElem?_eq_none (Nat.not_lt.mp hPast)]
    cases hOne : [r][i - runners.length]? with
    | none => rfl
    | some r' =>
        exact List.mem_singleton.mp (List.mem_of_getElem? hOne)

/- A step moves each runner by what its stream sees. -/
theorem Step.runnerAt
    (hStep : Step s e t)
    (i : Nat) :
    (s.runnerAt i).run? (seenBy i e) = some (t.runnerAt i) := by
  cases hStep with
  | letIn hOpen => rfl
  | refuse hClosed => rfl
  | spawn n hAdmitted =>
      exact congrArg some
        (getD_append_singleton s.runners s.fresh i).symm
  | one j e r r' hOwn hRunner hStep =>
      by_cases hSame : j = i
      · subst hSame
        have hThere :=
          (List.getElem?_eq_some_iff.mp hRunner).1
        rw [seenBy, if_pos rfl, runnerAt_of_getElem? hRunner,
          runnerAt_of_getElem? (List.getElem?_set_self hThere)]
        exact Run.run_cons_eq_some_iff.mpr ⟨r', hStep, rfl⟩
      · rw [seenBy, if_neg hSame]
        simp only [Streams.runnerAt, List.getElem?_set_ne hSame]
        rfl
  | pass ms hMay =>
      have hPass : (s.runnerAt i).mayPass ms = true := by
        unfold Streams.runnerAt
        cases hRunner : s.runners[i]? with
        | none => rfl
        | some r => exact hMay r (List.mem_of_getElem? hRunner)
      refine Run.run_cons_eq_some_iff.mpr
        ⟨_, Runner.step?_of_step (.pass ms hPass), ?_⟩
      unfold Streams.runnerAt
      rw [List.getElem?_map]
      cases s.runners[i]? <;> rfl
  | close =>
      refine Run.run_cons_eq_some_iff.mpr
        ⟨_, Runner.step?_of_step .cancel, ?_⟩
      unfold Streams.runnerAt
      rw [List.getElem?_map]
      cases s.runners[i]? <;> rfl

/- So what becomes of a stream is a run of its runner alone. -/
theorem runnerAt_of_run
    {events : List Event}
    (hRun : s.run? events = some t)
    (i : Nat) :
    (s.runnerAt i).run? (view i events) =
      some (t.runnerAt i) := by
  induction events generalizing s with
  | nil =>
      cases hRun
      rfl
  | cons e rest ih =>
      rcases Run.run_cons_eq_some_iff.mp hRun with
        ⟨m, hFirst, hRest⟩
      exact Runner.run?_append
        ((step_of_step? hFirst).runnerAt i) (ih hRest)

------------------------------------------------------------
-- Outputs of One Stream
------------------------------------------------------------

/- What an event puts out for one stream. -/
def puts
    (out : Runner → PushStream.Event → List String)
    (i : Nat)
    (s : Streams) : Event → List String
  | .one j e =>
      if j = i then (s.runners[i]?).elim [] fun r => out r e
      else []
  | _ => []

/- It is what the runner alone puts out. -/
theorem Step.puts_eq
    {out : Runner → PushStream.Event → List String}
    (hPass : ∀ r ms, out r (.pass ms) = [])
    (hCancel : ∀ r, out r .cancel = [])
    (hStep : Step s e t)
    (i : Nat) :
    Run.outputs Runner.step? out (s.runnerAt i) (seenBy i e) =
      s.puts out i e := by
  cases hStep with
  | one j e r r' hOwn hRunner hStep =>
      by_cases hSame : j = i
      · subst hSame
        rw [seenBy, if_pos rfl, puts, if_pos rfl,
          runnerAt_of_getElem? hRunner, hRunner]
        simp only [Run.outputs, hStep, List.append_nil,
          Option.elim_some]
      · rw [seenBy, if_neg hSame, puts, if_neg hSame]
        rfl
  | pass ms hMay =>
      simp only [seenBy, puts, Run.outputs, hPass]
      split <;> rfl
  | close =>
      simp only [seenBy, puts, Run.outputs, hCancel]
      split <;> rfl
  | _ => rfl

/- And so are the outputs of a run. -/
theorem outputs_eq
    {out : Runner → PushStream.Event → List String}
    (hPass : ∀ r ms, out r (.pass ms) = [])
    (hCancel : ∀ r, out r .cancel = [])
    {events : List Event}
    (hRun : s.run? events = some t)
    (i : Nat) :
    Run.outputs step? (fun s => s.puts out i) s events =
      Run.outputs Runner.step? out (s.runnerAt i)
        (view i events) := by
  induction events generalizing s with
  | nil => rfl
  | cons e rest ih =>
      rcases Run.run_cons_eq_some_iff.mp hRun with
        ⟨m, hFirst, hRest⟩
      have hStep := step_of_step? hFirst
      rw [view, List.flatMap_cons,
        Run.outputs_append (hStep.runnerAt i),
        hStep.puts_eq hPass hCancel, Run.outputs, hFirst]
      exact congrArg _ (ih hRest)

end LightningGateway.PushStream.Streams
