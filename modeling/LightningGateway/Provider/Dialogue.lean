import LightningGateway.Provider.Client

/-
  Dialogues with a provider.

  An operation of a wallet is a tree: it is either done, or it
  makes a call and goes on according to the outcome.  What an
  operation may send can be read off its tree, whatever the
  provider does.

  A script lists what a provider does with one request after
  another; a dialogue is run against it on a clock that jumps
  to the next moment at which anything happens.

  Key definitions include:
    * `Dialogue`
    * `Behaviour`
    * `Script`
    * `Dialogue.run`
-/

namespace LightningGateway.Provider

------------------------------------------------------------
-- Dialogues
------------------------------------------------------------

/- An operation that may make calls. -/
inductive Dialogue (α : Type) where
  | done (a : α)
  | ask (call : Call) (next : Outcome → Dialogue α)

namespace Dialogue

/- Change the result of a dialogue. -/
def map
    {α β : Type}
    (f : α → β) : Dialogue α → Dialogue β
  | .done a => .done (f a)
  | .ask call next => .ask call fun o => map f (next o)

/- Go on after a dialogue. -/
def bind
    {α β : Type}
    (d : Dialogue α)
    (f : α → Dialogue β) : Dialogue β :=
  match d with
  | .done a => f a
  | .ask call next => .ask call fun o => bind (next o) f

/- One call, and what its outcome means. -/
def once
    {α : Type}
    (call : Call)
    (read : Outcome → α) : Dialogue α :=
  .ask call fun o => .done (read o)

/- The result if the calls end in the given outcomes. -/
def resultOf?
    {α : Type} : Dialogue α → List Outcome → Option α
  | .done a, _ => some a
  | .ask _ _, [] => none
  | .ask _ next, o :: rest => resultOf? (next o) rest

/- The calls that are made if they end in the given outcomes. -/
def callsOf
    {α : Type} : Dialogue α → List Outcome → List Call
  | .done _, _ => []
  | .ask call _, [] => [call]
  | .ask call next, o :: rest => call :: callsOf (next o) rest

end Dialogue

------------------------------------------------------------
-- Scripts
------------------------------------------------------------

/- What a provider does with a request. -/
inductive Behaviour where
  | answers (r : Reply)
  | breaksOff
  | cutsShort
  | staysSilent
  deriving DecidableEq, Repr

/-
  A provider whose behaviour is listed beforehand.  When the
  list is used up it breaks connections off; out of reach it
  does not even see the requests.
-/
structure Script where
  inReach : Bool
  behaviours : List Behaviour
  deriving DecidableEq, Repr

namespace Script

/- A provider that cannot be reached. -/
def outOfReach (behaviours : List Behaviour) : Script :=
  ⟨false, behaviours⟩

/- What the provider does next, and what it does after that. -/
def next (s : Script) : Behaviour × Script :=
  match s.behaviours with
  | [] => (.breaksOff, s)
  | b :: rest => (b, { s with behaviours := rest })

end Script

/- What a dialogue has led to. -/
structure Run (α : Type) where
  -- The result, unless it waits for an answer forever.
  result : Option α
  requests : List Request
  seconds : Nat
  script : Script

namespace Run

/- A run with a request and a waiting time in front. -/
def after
    {α : Type}
    (r : Request)
    (seconds : Nat)
    (run : Run α) : Run α :=
  { run with
    requests := r :: run.requests
    seconds := seconds + run.seconds }

end Run

namespace Dialogue

/- Run a dialogue against a script. -/
def run
    {α : Type}
    (c : Client) : Dialogue α → Script → Run α
  | .done a, s => ⟨some a, [], 0, s⟩
  | .ask call next, s =>
      if c.closed then run c (next .closed) s
      else
        match c.request call with
        | .error f => run c (next (.failed f)) s
        | .ok (r, url) =>
            if s.inReach then
              let (b, s) := s.next
              match b with
              | .answers reply =>
                  (run c (next (.reply reply)) s).after r 0
              | .breaksOff =>
                  (run c (next (.failed (.unanswered url)))
                    s).after r 0
              | .cutsShort =>
                  (run c (next (.failed .cutShort)) s).after r 0
              | .staysSilent =>
                  match call.limit with
                  | some secs =>
                      (run c (next (.failed (.unanswered url)))
                        s).after r secs
                  | none => ⟨none, [r], 0, s⟩
            else run c (next (.failed (.unanswered url))) s

end Dialogue

end LightningGateway.Provider
