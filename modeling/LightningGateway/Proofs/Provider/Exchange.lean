import LightningGateway.Provider.Dialogue

/-
  Which outcomes a dialogue can meet.

  A call of a client ends in an outcome: it is not made at all
  if the client is closed or no request can be made for it, and
  else the provider replies, cuts its reply short, or says
  nothing in time.  The address that a failure names is the one
  of the request.

  Key definitions include:
    * `Client.Meets`
    * `Dialogue.Ends`

  Main results:
    * `Dialogue.Ends.resultOf?_eq`
    * `Dialogue.exists_ends_of_run`
    * `Dialogue.exists_script`
-/

namespace LightningGateway.Provider

------------------------------------------------------------
-- Outcomes
------------------------------------------------------------

/- How a call of a client can end. -/
inductive Client.Meets
    (c : Client)
    (call : Call) : Outcome → Prop
  | closed (hClosed : c.closed = true) :
      Client.Meets c call .closed
  | unbuildable
      (f : Fault)
      (hOpen : c.closed = false)
      (hRequest : c.request call = .error f) :
      Client.Meets c call (.failed f)
  | reply
      (r : Reply)
      {request : Request × String}
      (hOpen : c.closed = false)
      (hRequest : c.request call = .ok request) :
      Client.Meets c call (.reply r)
  | unanswered
      {request : Request}
      {url : String}
      (hOpen : c.closed = false)
      (hRequest : c.request call = .ok (request, url)) :
      Client.Meets c call (.failed (.unanswered url))
  | cutShort
      {request : Request × String}
      (hOpen : c.closed = false)
      (hRequest : c.request call = .ok request) :
      Client.Meets c call (.failed .cutShort)

namespace Dialogue

variable {α β : Type}

/- A dialogue of a client, from its calls' outcomes to its end. -/
inductive Ends
    (c : Client) : Dialogue α → List Outcome → α → Prop
  | done (a : α) : Ends c (.done a) [] a
  | ask
      {call : Call}
      {next : Outcome → Dialogue α}
      {o : Outcome}
      {rest : List Outcome}
      {a : α}
      (hMeets : c.Meets call o)
      (hRest : Ends c (next o) rest a) :
      Ends c (.ask call next) (o :: rest) a

/- To change a result twice is to change it once. -/
theorem map_map
    {γ : Type}
    (f : α → β)
    (g : β → γ)
    (d : Dialogue α) :
    (d.map f).map g = d.map (g ∘ f) := by
  induction d with
  | done a => rfl
  | ask call next ih =>
      exact congrArg (Dialogue.ask call) (funext ih)

/- A changed result is the changed result of the outcomes. -/
theorem resultOf?_map
    (f : α → β)
    (d : Dialogue α)
    (outcomes : List Outcome) :
    (d.map f).resultOf? outcomes =
      (d.resultOf? outcomes).map f := by
  induction d generalizing outcomes with
  | done a => rfl
  | ask call next ih =>
      cases outcomes with
      | nil => rfl
      | cons o rest => exact ih o rest

/- Where a changed result is, there is the result before. -/
theorem exists_of_resultOf?_map
    {f : α → β}
    {d : Dialogue α}
    {outcomes : List Outcome}
    {b : β}
    (hResult : (d.map f).resultOf? outcomes = some b) :
    ∃ a, d.resultOf? outcomes = some a ∧ f a = b := by
  rw [resultOf?_map] at hResult
  exact Option.map_eq_some_iff.mp hResult

/- A dialogue that is over does not look at more outcomes. -/
theorem resultOf?_append
    {d : Dialogue α}
    {outcomes : List Outcome}
    {a : α}
    (hResult : d.resultOf? outcomes = some a)
    (more : List Outcome) :
    d.resultOf? (outcomes ++ more) = some a := by
  induction d generalizing outcomes with
  | done b => exact hResult
  | ask call next ih =>
      cases outcomes with
      | nil => cases hResult
      | cons o rest => exact ih o hResult

/- Outcomes after the end of a dialogue do not change its result. -/
theorem resultOf?_of_append
    {d : Dialogue α}
    {outcomes more : List Outcome}
    {a b : α}
    (hFirst : d.resultOf? outcomes = some a)
    (hResult : d.resultOf? (outcomes ++ more) = some b) :
    d.resultOf? outcomes = some b := by
  rw [← hResult, hFirst]
  exact (resultOf?_append hFirst more).symm

/- The result of a dialogue is the one that its outcomes give. -/
theorem Ends.resultOf?_eq
    {c : Client}
    {d : Dialogue α}
    {outcomes : List Outcome}
    {a : α}
    (hEnds : Ends c d outcomes a) :
    d.resultOf? outcomes = some a := by
  induction hEnds with
  | done a => rfl
  | ask hMeets hRest ih => exact ih

/- A changed result comes of the result before the change. -/
theorem ends_map_iff
    {c : Client}
    {f : α → β}
    {d : Dialogue α}
    {outcomes : List Outcome}
    {b : β} :
    Ends c (d.map f) outcomes b ↔
      ∃ a, Ends c d outcomes a ∧ f a = b := by
  constructor
  · intro hEnds
    induction d generalizing outcomes with
    | done a =>
        cases hEnds
        exact ⟨a, .done a, rfl⟩
    | ask call next ih =>
        cases hEnds with
        | @ask _ _ o rest _ hMeets hRest =>
            rcases ih o hRest with ⟨a, hEnds, hResult⟩
            exact ⟨a, .ask hMeets hEnds, hResult⟩
  · rintro ⟨a, hEnds, rfl⟩
    induction hEnds with
    | done a => exact .done (f a)
    | ask hMeets hRest ih => exact .ask hMeets ih

------------------------------------------------------------
-- Runs against Scripts
------------------------------------------------------------

/- Whatever a provider does, a run that ends meets outcomes. -/
theorem exists_ends_of_run
    {c : Client}
    {d : Dialogue α}
    {script : Script}
    {a : α}
    (hRun : (d.run c script).result = some a) :
    ∃ outcomes, Ends c d outcomes a := by
  induction d generalizing script with
  | done b =>
      cases hRun
      exact ⟨[], .done a⟩
  | ask call next ih =>
      have hGoOn :
          ∀ {o later}, c.Meets call o →
            ((next o).run c later).result = some a →
            ∃ outcomes, Ends c (.ask call next) outcomes a := by
        intro o later hMeets hLater
        rcases ih o hLater with ⟨rest, hRest⟩
        exact ⟨o :: rest, .ask hMeets hRest⟩
      unfold run at hRun
      by_cases hClosed : c.closed = true
      · rw [if_pos hClosed] at hRun
        exact hGoOn (.closed hClosed) hRun
      · rw [if_neg hClosed] at hRun
        have hOpen := eq_false_of_ne_true hClosed
        rcases hRequest : c.request call with
          f | ⟨request, url⟩
        · rw [hRequest] at hRun
          exact hGoOn (.unbuildable f hOpen hRequest) hRun
        · rw [hRequest] at hRun
          by_cases hReach : script.inReach = true
          · simp only [if_pos hReach] at hRun
            rcases hNext : script.next with
              ⟨reply | _ | _ | _, later⟩
            · rw [hNext] at hRun
              exact hGoOn (.reply reply hOpen hRequest) hRun
            · rw [hNext] at hRun
              exact hGoOn (.unanswered hOpen hRequest) hRun
            · rw [hNext] at hRun
              exact hGoOn (.cutShort hOpen hRequest) hRun
            · rw [hNext] at hRun
              cases hLimit : call.limit with
              | none =>
                  simp only [hLimit] at hRun
                  cases hRun
              | some secs =>
                  simp only [hLimit] at hRun
                  exact hGoOn (.unanswered hOpen hRequest) hRun
          · simp only [if_neg hReach] at hRun
            exact hGoOn (.unanswered hOpen hRequest) hRun

/- What a call ends in, unless the provider stays silent. -/
def outcomeOf?
    (url : String) : Behaviour → Option Outcome
  | .answers r => some (.reply r)
  | .breaksOff => some (.failed (.unanswered url))
  | .cutsShort => some (.failed .cutShort)
  | .staysSilent => none

/- A call that reaches the provider ends as the provider does. -/
theorem result_run_ask
    {c : Client}
    {call : Call}
    {next : Outcome → Dialogue α}
    {request : Request}
    {url : String}
    {b : Behaviour}
    {o : Outcome}
    (hOpen : c.closed = false)
    (hRequest : c.request call = .ok (request, url))
    (hOutcome : outcomeOf? url b = some o)
    (later : List Behaviour) :
    ((ask call next).run c ⟨true, b :: later⟩).result =
      ((next o).run c ⟨true, later⟩).result := by
  simp only [run, hOpen, hRequest, Bool.false_eq_true, if_false,
    if_true, Script.next]
  cases b with
  | staysSilent => cases hOutcome
  | _ =>
      cases hOutcome
      rfl

/- Unless the provider stays silent, a dialogue ends. -/
theorem exists_result_of_prompt
    {c : Client}
    {d : Dialogue α}
    {script : Script}
    (hPrompt : .staysSilent ∉ script.behaviours) :
    ∃ a, (d.run c script).result = some a := by
  induction d generalizing script with
  | done a => exact ⟨a, rfl⟩
  | ask call next ih =>
      by_cases hClosed : c.closed = true
      · rw [run, if_pos hClosed]
        exact ih .closed hPrompt
      · have hOpen := eq_false_of_ne_true hClosed
        rcases hRequest : c.request call with
          f | ⟨request, url⟩
        · simp only [run, if_neg hClosed, hRequest]
          exact ih (.failed f) hPrompt
        · rcases script with ⟨_ | _, behaviours⟩
          · simp only [run, if_neg hClosed, hRequest]
            exact ih (.failed (.unanswered url)) hPrompt
          · cases behaviours with
            | nil =>
                simp only [run, if_neg hClosed, hRequest]
                exact ih (.failed (.unanswered url)) hPrompt
            | cons b later =>
                cases hOutcome : outcomeOf? url b with
                | none =>
                    cases b with
                    | staysSilent =>
                        exact absurd (.head later) hPrompt
                    | _ => cases hOutcome
                | some o =>
                    rw [result_run_ask hOpen hRequest hOutcome]
                    exact ih o fun hMem => hPrompt (.tail b hMem)

/- Outcomes that a dialogue can meet are met against a script. -/
theorem exists_script
    {c : Client}
    {d : Dialogue α}
    {outcomes : List Outcome}
    {a : α}
    (hEnds : Ends c d outcomes a) :
    ∃ behaviours,
      (d.run c ⟨true, behaviours⟩).result = some a := by
  induction hEnds with
  | done a => exact ⟨[], rfl⟩
  | ask hMeets hRest ih =>
      rcases ih with ⟨behaviours, hRun⟩
      cases hMeets with
      | closed hClosed =>
          refine ⟨behaviours, ?_⟩
          rw [run, if_pos hClosed]
          exact hRun
      | unbuildable f hOpen hRequest =>
          refine ⟨behaviours, ?_⟩
          simp only [run, hOpen, hRequest, Bool.false_eq_true,
            if_false]
          exact hRun
      | reply r hOpen hRequest =>
          refine ⟨.answers r :: behaviours, ?_⟩
          rw [result_run_ask hOpen hRequest rfl]
          exact hRun
      | unanswered hOpen hRequest =>
          refine ⟨.breaksOff :: behaviours, ?_⟩
          rw [result_run_ask hOpen hRequest rfl]
          exact hRun
      | cutShort hOpen hRequest =>
          refine ⟨.cutsShort :: behaviours, ?_⟩
          rw [result_run_ask hOpen hRequest rfl]
          exact hRun

end Dialogue

end LightningGateway.Provider
