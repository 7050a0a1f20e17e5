import LightningGateway.PushStream.Runner

/-
  The steps of a runner, one rule for each way to take one.

  A step says what has to be so before an event, and what is so
  after it.  Later proofs split on the rules and never open the
  definition of the machine.

  Main declarations:
    * `Runner.Step`
    * `Runner.step?_eq_some_iff`
-/

namespace LightningGateway.PushStream

namespace Runner

/- What may happen to a runner, and what comes of it. -/
inductive Step (r : Runner) : Event → Runner → Prop
  | refused (hPhase : r.phase = .connecting) :
      Step r .refused { r with phase := r.afterPause }
  | answered
      (status : Nat)
      (hPhase : r.phase = .connecting) :
      Step r (.answered status)
        { r with phase := afterHead status }
  | skip
      (bytes : List UInt8)
      (hPhase : r.phase = .declined) :
      Step r (.chunk bytes) r
  | feed
      (bytes : List UInt8)
      (reader : EventReader)
      (hPhase : r.phase = .reading reader []) :
      Step r (.chunk bytes)
        { r with
          phase :=
            .reading (reader.feed bytes).1
              (reader.feed bytes).2 }
  | skipped
      (whole : Bool)
      (hPhase : r.phase = .declined) :
      Step r (.bodyEnded whole) { r with phase := r.afterPause }
  | bodyEnded
      (whole : Bool)
      (reader : EventReader)
      (hPhase : r.phase = .reading reader []) :
      Step r (.bodyEnded whole) { r with phase := r.afterBody }
  | abandon
      (reader : EventReader)
      (hash : String)
      (rest : List String)
      (hPhase : r.phase = .reading reader (hash :: rest))
      (hGone : r.readerGone = true) :
      Step r .send { r with phase := .stopped }
  | send
      (reader : EventReader)
      (hash : String)
      (rest : List String)
      (hPhase : r.phase = .reading reader (hash :: rest))
      (hThere : r.readerGone = false)
      (hRoom : r.queue.length < r.capacity) :
      Step r .send
        { r with
          phase := .reading reader rest
          queue := r.queue ++ [hash] }
  | retry
      (due : Nat)
      (hPhase : r.phase = .pausing due)
      (hDue : due ≤ r.now) :
      Step r .retry { r with phase := .connecting }
  | stop
      (hCancelled : r.cancelled = true)
      (hRunning : r.phase ≠ .stopped) :
      Step r .stop { r with phase := .stopped }
  | read
      (hash : String)
      (rest : List String)
      (hQueue : r.queue = hash :: rest) :
      Step r .read { r with queue := rest }
  | dropReader (hThere : r.readerGone = false) :
      Step r .dropReader
        { r with
          queue := []
          readerGone := true
          cancelled := true }
  | cancel :
      Step r .cancel { r with cancelled := true }
  | pass
      (ms : Nat)
      (hMay : r.mayPass ms = true) :
      Step r (.pass ms) { r with now := r.now + ms }

/- Every rule is a step of the machine. -/
theorem step?_of_step
    {r s : Runner}
    {e : Event}
    (hStep : Step r e s) :
    r.step? e = some s := by
  cases hStep <;> simp_all [step?]

/- Every step of the machine is a rule. -/
theorem step_of_step?
    {r s : Runner}
    {e : Event}
    (hStep : r.step? e = some s) :
    Step r e s := by
  cases e with
  | refused =>
      cases hPhase : r.phase <;> simp [step?, hPhase] at hStep
      subst hStep
      exact .refused hPhase
  | answered status =>
      cases hPhase : r.phase <;> simp [step?, hPhase] at hStep
      subst hStep
      exact .answered status hPhase
  | chunk bytes =>
      cases hPhase : r.phase with
      | declined =>
          simp [step?, hPhase] at hStep
          subst hStep
          exact .skip bytes hPhase
      | reading reader unsent =>
          cases unsent <;> simp [step?, hPhase] at hStep
          subst hStep
          exact .feed bytes reader hPhase
      | _ => simp [step?, hPhase] at hStep
  | bodyEnded whole =>
      cases hPhase : r.phase with
      | declined =>
          simp [step?, hPhase] at hStep
          subst hStep
          exact .skipped whole hPhase
      | reading reader unsent =>
          cases unsent <;> simp [step?, hPhase] at hStep
          subst hStep
          exact .bodyEnded whole reader hPhase
      | _ => simp [step?, hPhase] at hStep
  | send =>
      cases hPhase : r.phase with
      | reading reader unsent =>
          cases unsent with
          | nil => simp [step?, hPhase] at hStep
          | cons hash rest =>
              by_cases hGone : r.readerGone = true
              · simp only [step?, hPhase, if_pos hGone] at hStep
                cases hStep
                exact .abandon reader hash rest hPhase hGone
              · simp only [step?, hPhase, if_neg hGone] at hStep
                rcases Option.ite_none_right_eq_some.mp
                    hStep with
                  ⟨hRoom, hSome⟩
                cases hSome
                exact .send reader hash rest hPhase
                  (eq_false_of_ne_true hGone) hRoom
      | _ => simp [step?, hPhase] at hStep
  | retry =>
      cases hPhase : r.phase <;> simp [step?, hPhase] at hStep
      rcases hStep with ⟨hDue, rfl⟩
      exact .retry _ hPhase hDue
  | stop =>
      rcases Option.ite_none_right_eq_some.mp hStep with
        ⟨⟨hCancelled, hRunning⟩, hSome⟩
      cases hSome
      exact .stop hCancelled hRunning
  | read =>
      cases hQueue : r.queue <;> simp [step?, hQueue] at hStep
      subst hStep
      exact .read _ _ hQueue
  | dropReader =>
      by_cases hGone : r.readerGone = true
      · simp [step?, hGone] at hStep
      · simp only [step?, if_neg hGone] at hStep
        cases hStep
        exact .dropReader (eq_false_of_ne_true hGone)
  | cancel =>
      simp [step?] at hStep
      subst hStep
      exact .cancel
  | pass ms =>
      simp [step?] at hStep
      rcases hStep with ⟨hMay, rfl⟩
      exact .pass ms hMay

/- The steps of the machine are exactly the rules. -/
theorem step?_eq_some_iff
    {r s : Runner}
    {e : Event} :
    r.step? e = some s ↔ Step r e s :=
  ⟨step_of_step?, step?_of_step⟩

end Runner

end LightningGateway.PushStream
