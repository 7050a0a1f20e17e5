import LightningGateway.Listener

/-
  The steps of a listener, one rule for each way to take one.

  A step says what has to be so before an event, and what is so
  after it.  A listener looks at its cancellation when it opens
  the stream, while it waits for an id and while it pauses, and
  at no other moment.

  Main declarations:
    * `Listener.Step`
    * `Listener.step?_eq_some_iff`
-/

namespace LightningGateway

namespace Listener

open Payment

/- What may happen to a listener, and what comes of it. -/
inductive Step (l : Listener) : Event → Listener → Prop
  | openStream
      (r : Except GatewayError Unit)
      (hPhase : l.phase = .opening)
      (hGoOn : l.mustStop = false) :
      Step l (.openStream r) { l with phase := l.afterOpening r }
  | giveUp
      (hPhase : l.phase = .opening)
      (hStop : l.mustStop = true) :
      Step l .giveUp { l with phase := .stopped }
  | item
      (id : String)
      (hPhase : l.phase = .waiting) :
      Step l (.item id) { l with phase := .lookingUp id }
  | ended (hPhase : l.phase = .waiting) :
      Step l .ended { l with phase := l.afterPause }
  | leave
      (hPhase : l.phase = .waiting)
      (hCancelled : l.cancelled = true) :
      Step l .leave { l with phase := l.afterPause }
  | answer
      (id : String)
      (s : SettlementStatus)
      (hPhase : l.phase = .lookingUp id) :
      Step l (.answer s) { l with phase := .sending ⟨id, s⟩ }
  | abandon
      (i : SettledInvoice)
      (hPhase : l.phase = .sending i)
      (hGone : l.hostGone = true) :
      Step l .send { l with phase := l.afterPause }
  | send
      (i : SettledInvoice)
      (hPhase : l.phase = .sending i)
      (hThere : l.hostGone = false)
      (hRoom : l.queue.length < l.capacity) :
      Step l .send
        { l with
          phase := .waiting
          queue := l.queue ++ [i] }
  | retry
      (due : Nat)
      (hPhase : l.phase = .pausing due)
      (hDue : due ≤ l.now) :
      Step l .retry { l with phase := .opening }
  | stop
      (due : Nat)
      (hPhase : l.phase = .pausing due)
      (hCancelled : l.cancelled = true) :
      Step l .stop { l with phase := .stopped }
  | receive
      (i : SettledInvoice)
      (rest : List SettledInvoice)
      (hQueue : l.queue = i :: rest) :
      Step l .receive { l with queue := rest }
  | dropHost (hThere : l.hostGone = false) :
      Step l .dropHost { l with queue := [], hostGone := true }
  | cancel :
      Step l .cancel { l with cancelled := true }
  | pass
      (ms : Nat)
      (hMay : l.mayPass ms = true) :
      Step l (.pass ms) { l with now := l.now + ms }

/- Every rule is a step of the machine. -/
theorem step?_of_step
    {l m : Listener}
    {e : Event}
    (hStep : Step l e m) :
    l.step? e = some m := by
  cases hStep <;> simp_all [step?]

/- Every step of the machine is a rule. -/
theorem step_of_step?
    {l m : Listener}
    {e : Event}
    (hStep : l.step? e = some m) :
    Step l e m := by
  cases e with
  | openStream r =>
      rcases Option.ite_none_right_eq_some.mp hStep with
        ⟨⟨hPhase, hGoOn⟩, hSome⟩
      cases hSome
      exact .openStream r hPhase (by simpa using hGoOn)
  | giveUp =>
      rcases Option.ite_none_right_eq_some.mp hStep with
        ⟨⟨hPhase, hStop⟩, hSome⟩
      cases hSome
      exact .giveUp hPhase hStop
  | item id =>
      rcases Option.ite_none_right_eq_some.mp hStep with
        ⟨hPhase, hSome⟩
      cases hSome
      exact .item id hPhase
  | ended =>
      rcases Option.ite_none_right_eq_some.mp hStep with
        ⟨hPhase, hSome⟩
      cases hSome
      exact .ended hPhase
  | leave =>
      rcases Option.ite_none_right_eq_some.mp hStep with
        ⟨⟨hPhase, hCancelled⟩, hSome⟩
      cases hSome
      exact .leave hPhase hCancelled
  | answer s =>
      cases hPhase : l.phase <;> simp [step?, hPhase] at hStep
      subst hStep
      exact .answer _ s hPhase
  | send =>
      cases hPhase : l.phase with
      | sending i =>
          by_cases hGone : l.hostGone = true
          · simp only [step?, hPhase, if_pos hGone] at hStep
            cases hStep
            exact .abandon i hPhase hGone
          · simp only [step?, hPhase, if_neg hGone] at hStep
            rcases Option.ite_none_right_eq_some.mp hStep with
              ⟨hRoom, hSome⟩
            cases hSome
            exact .send i hPhase (eq_false_of_ne_true hGone)
              hRoom
      | _ => simp [step?, hPhase] at hStep
  | retry =>
      cases hPhase : l.phase <;> simp [step?, hPhase] at hStep
      rcases hStep with ⟨hDue, rfl⟩
      exact .retry _ hPhase hDue
  | stop =>
      cases hPhase : l.phase <;> simp [step?, hPhase] at hStep
      rcases hStep with ⟨hCancelled, rfl⟩
      exact .stop _ hPhase hCancelled
  | receive =>
      cases hQueue : l.queue <;> simp [step?, hQueue] at hStep
      subst hStep
      exact .receive _ _ hQueue
  | dropHost =>
      by_cases hGone : l.hostGone = true
      · simp [step?, hGone] at hStep
      · simp only [step?, if_neg hGone] at hStep
        cases hStep
        exact .dropHost (eq_false_of_ne_true hGone)
  | cancel =>
      simp [step?] at hStep
      subst hStep
      exact .cancel
  | pass ms =>
      simp [step?] at hStep
      rcases hStep with ⟨hMay, rfl⟩
      exact .pass ms hMay

/- The steps of the machine are exactly the rules. -/
theorem step?_eq_some_iff
    {l m : Listener}
    {e : Event} :
    l.step? e = some m ↔ Step l e m :=
  ⟨step_of_step?, step?_of_step⟩

end Listener

end LightningGateway
