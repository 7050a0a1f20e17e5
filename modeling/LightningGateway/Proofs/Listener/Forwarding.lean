import LightningGateway.Proofs.Listener.Step
import LightningGateway.Proofs.Run

/-
  What a listener takes from its streams and what it forwards.

  A listener forwards each id that it takes, once and in order,
  with the answer to a lookup of that id.  An id that is in hand
  when the listener is cancelled is forwarded first; only a host
  that goes away makes it lose one.

  Key definitions include:
    * `Listener.dequeued`
    * `Listener.forwarded`
    * `Listener.IsAnswered`
    * `Listener.Forwards`

  Main results:
    * `Listener.Forwards.snoc`
    * `Listener.forwards_of_run`
-/

namespace LightningGateway

namespace Listener

open Payment

------------------------------------------------------------
-- Ids and Invoices
------------------------------------------------------------

/- The ids that a listener takes from its streams. -/
def dequeued (events : List Event) : List String :=
  events.filterMap fun e =>
    match e with
    | .item id => some id
    | _ => none

/- The invoice that an event puts into the queue to the host. -/
def forwardOf
    (l : Listener)
    (e : Event) : List SettledInvoice :=
  match e, l.phase with
  | .send, .sending i => if l.hostGone then [] else [i]
  | _, _ => []

/- The invoices that the queue to the host accepts. -/
def forwarded
    (l : Listener)
    (events : List Event) : List SettledInvoice :=
  Run.outputs step? forwardOf l events

/- The id that a listener has taken and not forwarded. -/
def Phase.inHand : Phase → List String
  | .lookingUp id => [id]
  | .sending i => [i.id]
  | _ => []

/- The invoice that waits for room in the queue to the host. -/
def Phase.unsent : Phase → List SettledInvoice
  | .sending i => [i]
  | _ => []

/- A listener without an id in hand has no invoice to send. -/
theorem Phase.unsent_of_inHand
    {p : Phase}
    (hNone : p.inHand = []) :
    p.unsent = [] := by
  cases p with
  | sending i => cases hNone
  | _ => rfl

/- A listener has one id in hand at most. -/
theorem Phase.length_inHand_le (p : Phase) :
    p.inHand.length ≤ 1 := by
  cases p <;> simp [inHand]

/- A listener without an id in hand forwards nothing. -/
theorem forwardOf_of_inHand
    {l : Listener}
    (hNone : l.phase.inHand = [])
    (e : Event) :
    l.forwardOf e = [] := by
  unfold forwardOf
  split
  · rename_i hPhase
    rw [hPhase] at hNone
    cases hNone
  · rfl

/- A listener that asks for its stream has no id in hand. -/
theorem inHand_afterOpening
    (l : Listener)
    (r : Except GatewayError Unit) :
    (l.afterOpening r).inHand = [] := by
  rcases r with e | _
  · by_cases hFinal : isFinal e = true
    · rw [afterOpening, if_pos hFinal]
      rfl
    · rw [afterOpening, if_neg hFinal]
      rfl
  · rfl

/- The ids that are taken by more events come last. -/
theorem dequeued_append (events more : List Event) :
    dequeued (events ++ more) =
      dequeued events ++ dequeued more :=
  List.filterMap_append

/- What one event more forwards comes last. -/
theorem forwarded_snoc
    {start l m : Listener}
    {past : List Event}
    {e : Event}
    (hPast : start.run? past = some l)
    (hStep : Step l e m) :
    start.forwarded (past ++ [e]) =
      start.forwarded past ++ l.forwardOf e :=
  Run.outputs_snoc hPast (step?_of_step hStep)

------------------------------------------------------------
-- Answers
------------------------------------------------------------

/-
  The id that was taken after some number of others is the last
  one that was taken.
-/
def IsLast
    (events : List Event)
    (number : Nat)
    (id : String) : Prop :=
  ∃ before after,
    events = before ++ .item id :: after ∧
    (dequeued before).length = number ∧
    dequeued after = []

/-
  The status of an invoice answers a lookup of its id: the
  listener took that id after some number of others, had taken
  no other one since, and was looking it up when the answer
  came.
-/
def IsAnswered
    (start : Listener)
    (events : List Event)
    (number : Nat)
    (i : SettledInvoice) : Prop :=
  ∃ asked rest l,
    events = asked ++ .answer i.status :: rest ∧
    IsLast asked number i.id ∧
    start.run? asked = some l ∧
    l.phase = .lookingUp i.id

/- The last id stays the last one until another one is taken. -/
theorem IsLast.snoc
    {past : List Event}
    {number : Nat}
    {id : String}
    {e : Event}
    (hLast : IsLast past number id)
    (hOther : dequeued [e] = []) :
    IsLast (past ++ [e]) number id := by
  rcases hLast with ⟨before, after, rfl, hNumber, hAfter⟩
  refine ⟨before, after ++ [e], by simp, hNumber, ?_⟩
  rw [dequeued_append, hAfter, hOther]
  rfl

/- An answer is not undone by another event. -/
theorem IsAnswered.snoc
    {start : Listener}
    {past : List Event}
    {number : Nat}
    {i : SettledInvoice}
    (hAnswered : IsAnswered start past number i)
    (e : Event) :
    IsAnswered start (past ++ [e]) number i := by
  rcases hAnswered with ⟨asked, rest, l, rfl, hRest⟩
  exact ⟨asked, rest ++ [e], l, by simp, hRest⟩

------------------------------------------------------------
-- One Step
------------------------------------------------------------

/-
  How a listener agrees with the events so far.  What it took is
  what it forwarded and then the id in hand; or the host is gone
  and one id is lost, and no other one will be taken.
-/
structure Forwards
    (start : Listener)
    (events : List Event)
    (l : Listener) : Prop where
  ids :
    dequeued events =
        (start.forwarded events).map (·.id) ++ l.phase.inHand ∨
      (l.hostGone = true ∧ l.phase.isSubscribed = false ∧
        ∃ id, dequeued events =
          (start.forwarded events).map (·.id) ++ [id])
  asked :
    ∀ id, l.phase = .lookingUp id →
      IsLast events (start.forwarded events).length id
  answered :
    ∀ number i,
      (start.forwarded events ++ l.phase.unsent)[number]? =
          some i →
        IsAnswered start events number i

namespace Forwards

variable {start l m : Listener} {past : List Event}

/- A listener without an id in hand has agreed from the start. -/
theorem of_opening (hOpening : start.phase = .opening) :
    Forwards start [] start where
  ids := .inl (by
    simp [hOpening, dequeued, forwarded, Run.outputs,
      Phase.inHand])
  asked := by simp [hOpening]
  answered := by
    simp [hOpening, forwarded, Run.outputs, Phase.unsent]

/- A listener that holds the stream has lost no id. -/
theorem ids_of_isSubscribed
    (hForwards : Forwards start past l)
    (hSubscribed : l.phase.isSubscribed = true) :
    dequeued past =
      (start.forwarded past).map (·.id) ++ l.phase.inHand := by
  rcases hForwards.ids with hSame | ⟨_, hLeft, _⟩
  · exact hSame
  · rw [hLeft] at hSubscribed
    cases hSubscribed

/- A listener whose host is there has lost no id. -/
theorem ids_of_there
    (hForwards : Forwards start past l)
    (hThere : l.hostGone = false) :
    dequeued past =
      (start.forwarded past).map (·.id) ++ l.phase.inHand := by
  rcases hForwards.ids with hSame | ⟨hGone, _⟩
  · exact hSame
  · rw [hThere] at hGone
    cases hGone

/- What was forwarded is what was taken, but for one id at most. -/
theorem ids_prefix
    (hForwards : Forwards start past l) :
    (start.forwarded past).map (·.id) <+: dequeued past ∧
      (dequeued past).length ≤
        (start.forwarded past).length + 1 := by
  rcases hForwards.ids with hSame | ⟨_, _, id, hSame⟩
  · rw [hSame, List.length_append, List.length_map]
    exact ⟨List.prefix_append _ _,
      Nat.add_le_add_left l.phase.length_inHand_le _⟩
  · rw [hSame, List.length_append, List.length_map]
    exact ⟨List.prefix_append _ _, Nat.le_refl _⟩

/-
  An event that takes no id and forwards none, and after which
  the same invoice is in hand.
-/
theorem snoc_quiet
    (hForwards : Forwards start past l)
    (hPast : start.run? past = some l)
    {e : Event}
    (hStep : Step l e m)
    (hTaken : dequeued [e] = [])
    (hForward : l.forwardOf e = [])
    (hHand : m.phase.inHand = l.phase.inHand)
    (hUnsent : m.phase.unsent = l.phase.unsent)
    (hAsking :
      ∀ id, m.phase = .lookingUp id → l.phase = .lookingUp id)
    (hLost :
      l.hostGone = true → l.phase.isSubscribed = false →
        m.hostGone = true ∧ m.phase.isSubscribed = false) :
    Forwards start (past ++ [e]) m := by
  have hDequeued : dequeued (past ++ [e]) = dequeued past := by
    rw [dequeued_append, hTaken, List.append_nil]
  have hForwarded :
      start.forwarded (past ++ [e]) = start.forwarded past := by
    rw [forwarded_snoc hPast hStep, hForward, List.append_nil]
  constructor
  · rw [hDequeued, hForwarded, hHand]
    rcases hForwards.ids with hSame | ⟨hGone, hLeft, hOne⟩
    · exact .inl hSame
    · rcases hLost hGone hLeft with ⟨hStillGone, hStillLeft⟩
      exact .inr ⟨hStillGone, hStillLeft, hOne⟩
  · intro id hPhase
    rw [hForwarded]
    exact (hForwards.asked id (hAsking id hPhase)).snoc hTaken
  · intro number i hAt
    rw [hForwarded, hUnsent] at hAt
    exact (hForwards.answered number i hAt).snoc e

/- An id that is taken is the one in hand. -/
theorem snoc_item
    (hForwards : Forwards start past l)
    (hPast : start.run? past = some l)
    (id : String)
    (hPhase : l.phase = .waiting) :
    Forwards start (past ++ [.item id])
      { l with phase := .lookingUp id } := by
  have hIds :=
    hForwards.ids_of_isSubscribed (by rw [hPhase]; rfl)
  simp only [hPhase, Phase.inHand, List.append_nil] at hIds
  have hForwarded :
      start.forwarded (past ++ [.item id]) =
        start.forwarded past := by
    rw [forwarded_snoc hPast (.item id hPhase)]
    exact List.append_nil _
  constructor
  · left
    rw [dequeued_append, hForwarded, hIds]
    rfl
  · intro other hOther
    cases hOther
    refine ⟨past, [], rfl, ?_, rfl⟩
    rw [hForwarded, hIds, List.length_map]
  · intro number i hAt
    rw [hForwarded] at hAt
    refine (hForwards.answered number i ?_).snoc _
    rw [hPhase]
    exact hAt

/- An answer is an answer for the id in hand. -/
theorem snoc_answer
    (hForwards : Forwards start past l)
    (hPast : start.run? past = some l)
    (id : String)
    (s : SettlementStatus)
    (hPhase : l.phase = .lookingUp id) :
    Forwards start (past ++ [.answer s])
      { l with phase := .sending ⟨id, s⟩ } := by
  have hIds :=
    hForwards.ids_of_isSubscribed (by rw [hPhase]; rfl)
  have hForwarded :
      start.forwarded (past ++ [.answer s]) =
        start.forwarded past := by
    rw [forwarded_snoc hPast (.answer id s hPhase)]
    exact List.append_nil _
  constructor
  · left
    rw [dequeued_append, hForwarded, hIds, hPhase]
    exact List.append_nil _
  · intro other hOther
    cases hOther
  · intro number i hAt
    rw [hForwarded] at hAt
    rcases Nat.lt_or_ge number (start.forwarded past).length with
      hBefore | hAfter
    · refine (hForwards.answered number i ?_).snoc _
      rw [List.getElem?_append_left hBefore] at hAt ⊢
      exact hAt
    · -- The invoice is the one that the answer has made.
      rw [List.getElem?_append_right hAfter] at hAt
      rcases List.getElem?_eq_some_iff.mp hAt with
        ⟨hBound, hItem⟩
      simp only [Phase.unsent, List.length_singleton,
        List.getElem_singleton] at hBound hItem
      subst hItem
      have hNumber : number = (start.forwarded past).length := by
        omega
      rw [hNumber]
      exact ⟨past, [], l, rfl, hForwards.asked id hPhase, hPast,
        hPhase⟩

/- An invoice that the host's queue accepts was in hand. -/
theorem snoc_send
    (hForwards : Forwards start past l)
    (hPast : start.run? past = some l)
    (i : SettledInvoice)
    (hPhase : l.phase = .sending i)
    (hThere : l.hostGone = false)
    (hRoom : l.queue.length < l.capacity) :
    Forwards start (past ++ [.send])
      { l with phase := .waiting, queue := l.queue ++ [i] } := by
  have hIds :=
    hForwards.ids_of_isSubscribed (by rw [hPhase]; rfl)
  have hForwarded :
      start.forwarded (past ++ [.send]) =
        start.forwarded past ++ [i] := by
    rw [forwarded_snoc hPast (.send i hPhase hThere hRoom)]
    simp [forwardOf, hPhase, hThere]
  constructor
  · left
    rw [dequeued_append, hForwarded, hIds, hPhase,
      List.map_append]
    simp [Phase.inHand, dequeued]
  · intro other hOther
    cases hOther
  · intro number j hAt
    rw [hForwarded] at hAt
    refine (hForwards.answered number j ?_).snoc _
    rw [hPhase]
    simpa [Phase.unsent] using hAt

/- Only a host that went away makes a listener lose an id. -/
theorem snoc_abandon
    (hForwards : Forwards start past l)
    (hPast : start.run? past = some l)
    (i : SettledInvoice)
    (hPhase : l.phase = .sending i)
    (hGone : l.hostGone = true) :
    Forwards start (past ++ [.send])
      { l with phase := l.afterPause } := by
  have hIds :=
    hForwards.ids_of_isSubscribed (by rw [hPhase]; rfl)
  have hForwarded :
      start.forwarded (past ++ [.send]) =
        start.forwarded past := by
    rw [forwarded_snoc hPast (.abandon i hPhase hGone)]
    simp [forwardOf, hPhase, hGone]
  constructor
  · right
    refine ⟨hGone, rfl, i.id, ?_⟩
    rw [dequeued_append, hForwarded, hIds, hPhase]
    exact List.append_nil _
  · intro other hOther
    cases hOther
  · intro number j hAt
    rw [hForwarded] at hAt
    refine (hForwards.answered number j ?_).snoc _
    simp only [afterPause, Phase.unsent, List.append_nil] at hAt
    rw [List.getElem?_append_left
      (List.getElem?_eq_some_iff.mp hAt).1]
    exact hAt

/-
  An event that finds no id in hand and leaves none there; if
  the host is gone, the stream is not opened.
-/
theorem snoc_empty
    (hForwards : Forwards start past l)
    (hPast : start.run? past = some l)
    {e : Event}
    (hStep : Step l e m)
    (hTaken : dequeued [e] = [])
    (hBefore : l.phase.inHand = [])
    (hAfter : m.phase.inHand = [])
    (hHost : m.hostGone = l.hostGone)
    (hLost :
      l.hostGone = true → m.phase.isSubscribed = false) :
    Forwards start (past ++ [e]) m := by
  refine hForwards.snoc_quiet hPast hStep hTaken
    (forwardOf_of_inHand hBefore e) (hAfter.trans hBefore.symm)
    ?_ ?_ ?_
  · rw [Phase.unsent_of_inHand hAfter,
      Phase.unsent_of_inHand hBefore]
  · intro id hPhase
    rw [hPhase] at hAfter
    cases hAfter
  · intro hGone _
    exact ⟨hHost.trans hGone, hLost hGone⟩

/- An event that leaves a listener in its phase. -/
theorem snoc_still
    (hForwards : Forwards start past l)
    (hPast : start.run? past = some l)
    {e : Event}
    (hStep : Step l e m)
    (hTaken : dequeued [e] = [])
    (hForward : l.forwardOf e = [])
    (hPhase : m.phase = l.phase)
    (hHost : l.hostGone = true → m.hostGone = true) :
    Forwards start (past ++ [e]) m := by
  refine hForwards.snoc_quiet hPast hStep hTaken hForward
    (by rw [hPhase]) (by rw [hPhase]) ?_ ?_
  · intro id hAsk
    exact hPhase.symm.trans hAsk
  · intro hGone hLeft
    rw [hPhase]
    exact ⟨hHost hGone, hLeft⟩

/- Every step of a listener goes on to agree with the events. -/
theorem snoc
    (hForwards : Forwards start past l)
    (hPast : start.run? past = some l)
    {e : Event}
    (hStep : Step l e m) :
    Forwards start (past ++ [e]) m := by
  have hOwn := hStep
  cases hStep with
  | item id hPhase =>
      exact hForwards.snoc_item hPast id hPhase
  | answer id s hPhase =>
      exact hForwards.snoc_answer hPast id s hPhase
  | send i hPhase hThere hRoom =>
      exact hForwards.snoc_send hPast i hPhase hThere hRoom
  | abandon i hPhase hGone =>
      exact hForwards.snoc_abandon hPast i hPhase hGone
  | openStream r hPhase hGoOn =>
      refine hForwards.snoc_empty hPast hOwn rfl
        (by rw [hPhase]; rfl) (inHand_afterOpening l r) rfl ?_
      -- A stream that opens has a host, so no id was lost.
      intro hGone
      rw [(Bool.or_eq_false_iff.mp hGoOn).2] at hGone
      cases hGone
  | giveUp hPhase hStop =>
      exact hForwards.snoc_empty hPast hOwn rfl
        (by rw [hPhase]; rfl) rfl rfl (fun _ => rfl)
  | ended hPhase =>
      exact hForwards.snoc_empty hPast hOwn rfl
        (by rw [hPhase]; rfl) rfl rfl (fun _ => rfl)
  | leave hPhase hCancelled =>
      exact hForwards.snoc_empty hPast hOwn rfl
        (by rw [hPhase]; rfl) rfl rfl (fun _ => rfl)
  | retry due hPhase hDue =>
      exact hForwards.snoc_empty hPast hOwn rfl
        (by rw [hPhase]; rfl) rfl rfl (fun _ => rfl)
  | stop due hPhase hCancelled =>
      exact hForwards.snoc_empty hPast hOwn rfl
        (by rw [hPhase]; rfl) rfl rfl (fun _ => rfl)
  | receive i rest hQueue =>
      exact hForwards.snoc_still hPast hOwn rfl rfl rfl id
  | dropHost hThere =>
      exact hForwards.snoc_still hPast hOwn rfl rfl rfl
        (fun _ => rfl)
  | cancel =>
      exact hForwards.snoc_still hPast hOwn rfl rfl rfl id
  | pass ms hMay =>
      exact hForwards.snoc_still hPast hOwn rfl rfl rfl id

end Forwards

------------------------------------------------------------
-- Whole Runs
------------------------------------------------------------

/- Every run of a listener agrees with what it took. -/
theorem forwards_of_run
    {start l : Listener}
    {events : List Event}
    (hOpening : start.phase = .opening)
    (hRun : start.run? events = some l) :
    Forwards start events l :=
  Run.history_of_run
    (P := fun past l => Forwards start past l)
    (fun hPast hForwards hStep =>
      hForwards.snoc hPast (step_of_step? hStep))
    (.of_opening hOpening) hRun

/- A run of one event is a step. -/
theorem run?_singleton
    {l m : Listener}
    {e : Event}
    (hStep : Step l e m) :
    l.run? [e] = some m :=
  Run.run_cons_eq_some_iff.mpr ⟨m, step?_of_step hStep, rfl⟩

/- A listener that has stopped does nothing by itself. -/
theorem phase_of_stopped
    {l m : Listener}
    {events : List Event}
    (hStopped : l.phase = .stopped)
    (hRun : l.run? events = some m) :
    m.phase = .stopped := by
  refine Run.invariant_of_run
    (P := fun m => m.phase = .stopped) ?_ hStopped hRun
  intro s t e hPhase hStep
  cases step_of_step? hStep <;> simp_all

/- The bound of the queue to the host never changes. -/
theorem capacity_of_run
    {l m : Listener}
    {events : List Event}
    (hRun : l.run? events = some m) :
    m.capacity = l.capacity := by
  refine Run.invariant_of_run
    (P := fun m => m.capacity = l.capacity) ?_ rfl hRun
  intro s t e hSame hStep
  rw [← hSame]
  cases step_of_step? hStep <;> rfl

/- A host that is there can take all that waits for it. -/
theorem exists_drained (l : Listener) :
    ∃ later, l.run? later = some { l with queue := [] } ∧
      l.forwarded later = [] := by
  rcases hQueue : l.queue with _ | ⟨i, rest⟩
  · refine ⟨[], ?_, rfl⟩
    rw [← hQueue]
    rfl
  · have hReceive :
        l.step? .receive = some { l with queue := rest } :=
      step?_of_step (.receive i rest hQueue)
    rcases exists_drained { l with queue := rest } with
      ⟨later, hRun, hNone⟩
    refine ⟨.receive :: later, ?_, ?_⟩
    · exact Run.run_cons_eq_some_iff.mpr ⟨_, hReceive, hRun⟩
    · simp only [forwarded, Run.outputs, hReceive]
      exact hNone
  termination_by l.queue.length
  decreasing_by
    rw [hQueue]
    exact Nat.lt_succ_self rest.length

/- An invoice that waits for room can be forwarded. -/
theorem exists_forwarded_unsent
    {l : Listener}
    {i : SettledInvoice}
    (hPhase : l.phase = .sending i)
    (hThere : l.hostGone = false)
    (hRoom : 0 < l.capacity) :
    ∃ later m, l.run? later = some m ∧
      l.forwarded later = [i] := by
  rcases exists_drained l with ⟨later, hRun, hNone⟩
  let drained : Listener := { l with queue := [] }
  let sent : Listener :=
    { drained with phase := .waiting, queue := [i] }
  have hSend : Step drained .send sent :=
    .send i hPhase hThere hRoom
  refine ⟨later ++ [.send], sent, ?_, ?_⟩
  · exact Run.run_append hRun (run?_singleton hSend)
  · rw [forwarded_snoc hRun hSend, hNone]
    simp [forwardOf, hPhase, hThere]

/-
  An id in hand can be forwarded, whether or not the listener is
  cancelled.
-/
theorem exists_forwarded_inHand
    {l : Listener}
    {id : String}
    (hHand : l.phase.inHand = [id])
    (hThere : l.hostGone = false)
    (hRoom : 0 < l.capacity) :
    ∃ later m status, l.run? later = some m ∧
      l.forwarded later = [⟨id, status⟩] := by
  cases hPhase : l.phase with
  | lookingUp other =>
      rw [hPhase] at hHand
      cases hHand
      have hAnswer := Step.answer id .pending hPhase
      rcases exists_forwarded_unsent
          (l := { l with phase := .sending ⟨id, .pending⟩ })
          rfl hThere hRoom with
        ⟨later, m, hRun, hSent⟩
      refine ⟨.answer .pending :: later, m, .pending, ?_, ?_⟩
      · exact Run.run_cons_eq_some_iff.mpr
          ⟨_, step?_of_step hAnswer, hRun⟩
      · simp only [forwarded, Run.outputs,
          step?_of_step hAnswer]
        exact hSent
  | sending i =>
      rw [hPhase] at hHand
      cases hHand
      rcases exists_forwarded_unsent hPhase hThere hRoom with
        ⟨later, m, hRun, hSent⟩
      exact ⟨later, m, i.status, hRun, hSent⟩
  | _ =>
      rw [hPhase] at hHand
      cases hHand

end Listener

end LightningGateway
