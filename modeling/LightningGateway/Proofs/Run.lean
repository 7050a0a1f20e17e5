import Mathlib.Data.List.Induction

/-
  Runs of machines that events move.

  A machine is given by the state after an event, if the event
  is possible.  A run of a list of events goes from state to
  state, and may put something out at each event.  A run has
  not failed if it goes on, and neither has any computation.

  Key definitions include:
    * `outputs`

  Main results:
    * `invariant_of_run`
    * `history_of_run`
    * `outputs_append`
    * `run_outputs`
-/

namespace LightningGateway

------------------------------------------------------------
-- Computations That May Fail
------------------------------------------------------------

/- A computation that goes on has not failed. -/
theorem exists_of_bind_eq_ok
    {ε α β : Type}
    {x : Except ε α}
    {f : α → Except ε β}
    {b : β}
    (hOk : (x >>= f) = .ok b) :
    ∃ a, x = .ok a ∧ f a = .ok b := by
  cases x with
  | error e => exact nomatch hOk
  | ok a => exact ⟨a, rfl, hOk⟩

/- A computation whose result is changed has not failed. -/
theorem exists_of_map_eq_ok
    {ε α β : Type}
    {x : Except ε α}
    {f : α → β}
    {b : β}
    (hOk : x.map f = .ok b) :
    ∃ a, x = .ok a ∧ f a = b := by
  cases x with
  | error e => exact nomatch hOk
  | ok a => exact ⟨a, rfl, Except.ok.inj hOk⟩

namespace Run

variable {σ ε α : Type}

------------------------------------------------------------
-- Invariants and Histories
------------------------------------------------------------

/- A run of one event more is a step and a run. -/
theorem run_cons_eq_some_iff
    {step? : σ → ε → Option σ}
    {s t : σ}
    {e : ε}
    {rest : List ε} :
    (e :: rest).foldlM step? s = some t ↔
      ∃ m, step? s e = some m ∧
        rest.foldlM step? m = some t := by
  rw [List.foldlM_cons]
  exact Option.bind_eq_some_iff

/- A run of more events goes on where the first ones led. -/
theorem run_append_eq_some_iff
    {step? : σ → ε → Option σ}
    {s t : σ}
    {past later : List ε} :
    (past ++ later).foldlM step? s = some t ↔
      ∃ m, past.foldlM step? s = some m ∧
        later.foldlM step? m = some t := by
  rw [List.foldlM_append]
  exact Option.bind_eq_some_iff

/- Two runs, one after the other. -/
theorem run_append
    {step? : σ → ε → Option σ}
    {s m t : σ}
    {past later : List ε}
    (hPast : past.foldlM step? s = some m)
    (hLater : later.foldlM step? m = some t) :
    (past ++ later).foldlM step? s = some t :=
  run_append_eq_some_iff.mpr ⟨m, hPast, hLater⟩

/- What every step keeps, every run keeps. -/
theorem invariant_of_run
    {step? : σ → ε → Option σ}
    {P : σ → Prop}
    (hStep :
      ∀ {s t e}, P s → step? s e = some t → P t)
    {events : List ε}
    {s t : σ}
    (hStart : P s)
    (hRun : events.foldlM step? s = some t) :
    P t := by
  induction events generalizing s with
  | nil =>
      rw [List.foldlM_nil] at hRun
      cases hRun
      exact hStart
  | cons e rest ih =>
      rcases run_cons_eq_some_iff.mp hRun with
        ⟨m, hFirst, hRest⟩
      exact ih (hStep hStart hFirst) hRest

/-
  A relation between the events so far and the state, which
  every step keeps, holds of all events and the last state.
-/
theorem history_of_run
    {step? : σ → ε → Option σ}
    {P : List ε → σ → Prop}
    {start : σ}
    (hStep :
      ∀ {past s t e},
        past.foldlM step? start = some s →
        P past s → step? s e = some t →
        P (past ++ [e]) t)
    (hStart : P [] start)
    {events : List ε}
    {t : σ}
    (hRun : events.foldlM step? start = some t) :
    P events t := by
  induction events using List.reverseRecOn
      generalizing t with
  | nil =>
      rw [List.foldlM_nil] at hRun
      cases hRun
      exact hStart
  | append_singleton past e ih =>
      rcases run_append_eq_some_iff.mp hRun with
        ⟨s, hPast, hLast⟩
      rcases run_cons_eq_some_iff.mp hLast with
        ⟨m, hFirst, hDone⟩
      cases hDone
      exact hStep hPast (ih hPast) hFirst

------------------------------------------------------------
-- Outputs
------------------------------------------------------------

/- What a machine puts out by some events, while possible. -/
def outputs
    (step? : σ → ε → Option σ)
    (out : σ → ε → List α)
    (s : σ) : List ε → List α
  | [] => []
  | e :: rest =>
      match step? s e with
      | none => []
      | some next => out s e ++ outputs step? out next rest

/- What more events put out stands after what was put out. -/
theorem outputs_append
    {step? : σ → ε → Option σ}
    {out : σ → ε → List α}
    {past : List ε}
    {s m : σ}
    (hPast : past.foldlM step? s = some m)
    (rest : List ε) :
    outputs step? out s (past ++ rest) =
      outputs step? out s past ++ outputs step? out m rest := by
  induction past generalizing s with
  | nil =>
      rw [List.foldlM_nil] at hPast
      cases hPast
      rfl
  | cons first past ih =>
      rcases run_cons_eq_some_iff.mp hPast with
        ⟨next, hFirst, hRest⟩
      simp only [List.cons_append, outputs, hFirst]
      rw [ih hRest, List.append_assoc]

/- What one event more puts out stands at the end. -/
theorem outputs_snoc
    {step? : σ → ε → Option σ}
    {out : σ → ε → List α}
    {past : List ε}
    {s m t : σ}
    {e : ε}
    (hPast : past.foldlM step? s = some m)
    (hLast : step? m e = some t) :
    outputs step? out s (past ++ [e]) =
      outputs step? out s past ++ out m e := by
  rw [outputs_append hPast]
  simp only [outputs, hLast, List.append_nil]

/-
  If what a machine puts out at each step moves a part of it,
  then what it puts out in a run moves that part all the way.
-/
theorem run_outputs
    {τ : Type}
    {step? : σ → ε → Option σ}
    {out : σ → ε → List α}
    {p : σ → τ}
    {move? : τ → α → Option τ}
    (hStep :
      ∀ {s t e}, step? s e = some t →
        (out s e).foldlM move? (p s) = some (p t))
    {events : List ε}
    {s t : σ}
    (hRun : events.foldlM step? s = some t) :
    (outputs step? out s events).foldlM move? (p s) =
      some (p t) := by
  induction events generalizing s with
  | nil =>
      rw [List.foldlM_nil] at hRun
      cases hRun
      rfl
  | cons e rest ih =>
      rcases run_cons_eq_some_iff.mp hRun with
        ⟨m, hFirst, hRest⟩
      simp only [outputs, hFirst]
      rw [List.foldlM_append, hStep hFirst]
      exact ih hRest

end Run

end LightningGateway
