import LightningGateway.Pause
import LightningGateway.Payment.Error
import LightningGateway.Payment.Status

/-
  The listener, which tells a host about paid invoices.

  It takes ids from a wallet's stream of paid invoices, looks
  each one up, and sends it with the state that the lookup
  gave through a bounded queue to the host.  When the stream
  ends or cannot be opened it pauses and opens it again, unless
  the wallet is closed or its stream was taken by somebody
  else.  It stops when it is cancelled, or when the host went
  away; an id that it has taken is sent first.

  A listener is a machine that events move.  An event that is
  not possible in a state has no next state.

  Key definitions include:
    * `SettledInvoice`
    * `Listener`
    * `Listener.step?`
    * `Listener.run?`
-/

namespace LightningGateway

open Payment

/- An id reported as paid, with the state of a lookup after that. -/
structure SettledInvoice where
  id : String
  status : SettlementStatus
  deriving DecidableEq

------------------------------------------------------------
-- Listeners
------------------------------------------------------------

namespace Listener

/- What a listener is doing. -/
inductive Phase where
  -- It is about to open the stream.
  | opening
  -- It waits for an id.
  | waiting
  | lookingUp (id : String)
  -- It waits for room in the queue to the host.
  | sending (s : SettledInvoice)
  -- It waits until it is time to open the stream again.
  | pausing (due : Nat)
  | stopped
  deriving DecidableEq

/- Whether a listener holds the stream. -/
def Phase.isSubscribed : Phase → Bool
  | .waiting => true
  | .lookingUp _ => true
  | .sending _ => true
  | _ => false

/- What may happen to a listener. -/
inductive Event where
  -- The wallet answers the request for its stream.
  | openStream (r : Except GatewayError Unit)
  -- It notices that it is not to open the stream any more.
  | giveUp
  -- The stream gives an id.
  | item (id : String)
  -- The stream ends.
  | ended
  -- It leaves the stream, as it was cancelled.
  | leave
  -- The wallet answers a lookup.
  | answer (s : SettlementStatus)
  -- The invoice goes into the queue, or the host is gone.
  | send
  -- The pause is over.
  | retry
  -- It notices in a pause that it was cancelled.
  | stop
  -- The host takes the oldest invoice of the queue.
  | receive
  -- The host goes away.
  | dropHost
  -- Somebody cancels the listener.
  | cancel
  -- Time passes.
  | pass (ms : Nat)

end Listener

/- A listener and its queue, with times in milliseconds. -/
structure Listener where
  delay : Nat
  capacity : Nat
  now : Nat
  phase : Listener.Phase
  -- What the host has not taken, the oldest first.
  queue : List SettledInvoice
  hostGone : Bool
  cancelled : Bool
  deriving DecidableEq

namespace Listener

/- A listener that opens the stream at once. -/
def start
    (delay capacity : Nat) : Listener :=
  ⟨delay, capacity, 0, .opening, [], false, false⟩

/- When a pause that begins now ends. -/
def afterPause (l : Listener) : Phase :=
  .pausing (l.now + Pause.length l.delay)

/- Whether it makes no sense to ask for the stream again. -/
def isFinal : GatewayError → Bool
  | .streamTaken => true
  | .closed => true
  | _ => false

/- The phase after an answer to the request for the stream. -/
def afterOpening
    (l : Listener) : Except GatewayError Unit → Phase
  | .ok _ => .waiting
  | .error e => if isFinal e then .stopped else l.afterPause

/- Whether the listener has to stop. -/
def mustStop (l : Listener) : Bool :=
  l.cancelled || l.hostGone

/- Whether so much time may pass: no pause is ever overslept. -/
def mayPass
    (l : Listener)
    (ms : Nat) : Bool :=
  match l.phase with
  | .pausing due => l.now + ms ≤ due
  | _ => true

/- The state after an event, if it is possible. -/
def step?
    (l : Listener) : Event → Option Listener
  | .openStream r =>
      if l.phase = .opening ∧ !l.mustStop then
        some { l with phase := l.afterOpening r }
      else none
  | .giveUp =>
      if l.phase = .opening ∧ l.mustStop then
        some { l with phase := .stopped }
      else none
  | .item id =>
      if l.phase = .waiting then
        some { l with phase := .lookingUp id }
      else none
  | .ended =>
      if l.phase = .waiting then
        some { l with phase := l.afterPause }
      else none
  | .leave =>
      if l.phase = .waiting ∧ l.cancelled then
        some { l with phase := l.afterPause }
      else none
  | .answer s =>
      match l.phase with
      | .lookingUp id => some { l with phase := .sending ⟨id, s⟩ }
      | _ => none
  | .send =>
      match l.phase with
      | .sending s =>
          if l.hostGone then some { l with phase := l.afterPause }
          else if l.queue.length < l.capacity then
            some { l with
              phase := .waiting
              queue := l.queue ++ [s] }
          else none
      | _ => none
  | .retry =>
      match l.phase with
      | .pausing due =>
          if due ≤ l.now then some { l with phase := .opening }
          else none
      | _ => none
  | .stop =>
      match l.phase with
      | .pausing _ =>
          if l.cancelled then some { l with phase := .stopped }
          else none
      | _ => none
  | .receive =>
      match l.queue with
      | _ :: rest => some { l with queue := rest }
      | [] => none
  | .dropHost =>
      if l.hostGone then none
      else some { l with queue := [], hostGone := true }
  | .cancel => some { l with cancelled := true }
  | .pass ms =>
      if l.mayPass ms then some { l with now := l.now + ms }
      else none

/- The state after some events, if they are possible. -/
def run?
    (l : Listener)
    (events : List Event) : Option Listener :=
  events.foldlM step? l

end Listener

end LightningGateway
