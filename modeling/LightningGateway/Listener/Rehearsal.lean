import LightningGateway.Listener

/-
  Listeners in front of a wallet whose behaviour is listed.

  The wallet and the host take no time.  The listener goes on
  until the queue is full or it has to wait; then the host
  takes what is there, up to the number of invoices after which
  it goes away.

  Key definitions include:
    * `Scene`
    * `Rehearsal`
    * `Scene.play`
-/

namespace LightningGateway.Listener

open Payment

------------------------------------------------------------
-- Scenes
------------------------------------------------------------

/- What a request for the stream leads to. -/
inductive Subscription where
  | fails (e : GatewayError)
  -- The ids, and whether the stream stays open after them.
  | yields (ids : List String) (staysOpen : Bool)

/- A wallet and a host. -/
structure Scene where
  subscriptions : List Subscription
  statusOf : String → SettlementStatus
  -- After what pause the listener is cancelled.
  cancelAfter : Option Nat
  -- How many invoices the host takes.
  takes : Option Nat

/- When the listener is cancelled. -/
def Scene.cancelTime? (s : Scene) : Option Nat :=
  s.cancelAfter.map Pause.length

/- What came of a scene. -/
structure Rehearsal where
  listener : Listener
  received : List SettledInvoice
  lookups : List String
  openedAt : List Nat

namespace Rehearsal

/- Nothing has happened. -/
def start (l : Listener) : Rehearsal :=
  ⟨l, [], [], []⟩

/- The state after an event; one that is not possible is left out. -/
def move
    (r : Rehearsal)
    (e : Event) : Rehearsal :=
  { r with listener := (r.listener.step? e).getD r.listener }

/- The host goes away if it has taken enough. -/
def checkHost
    (s : Scene)
    (r : Rehearsal) : Rehearsal :=
  match s.takes with
  | some n => if n ≤ r.received.length then r.move .dropHost else r
  | none => r

/- The host takes an invoice. -/
def take
    (s : Scene)
    (r : Rehearsal)
    (i : SettledInvoice) : Rehearsal :=
  if r.listener.hostGone then r
  else
    checkHost s
      { r.move .receive with received := r.received ++ [i] }

/- The host takes all invoices that are there. -/
def takeAll
    (s : Scene)
    (r : Rehearsal) : Rehearsal :=
  r.listener.queue.foldl (take s) r

/- Send an invoice; if there is no room the host makes some. -/
def send
    (s : Scene)
    (r : Rehearsal) : Rehearsal :=
  match r.listener.step? .send with
  | some _ => r.move .send
  | none => (takeAll s r).move .send

/- The stream gives an id. -/
def item
    (s : Scene)
    (r : Rehearsal)
    (id : String) : Rehearsal :=
  if r.listener.phase = .waiting then
    let r := (r.move (.item id)).move (.answer (s.statusOf id))
    send s { r with lookups := r.lookups ++ [id] }
  else r

/- Time passes until the listener is cancelled. -/
def cancelAt
    (r : Rehearsal)
    (t : Nat) : Rehearsal :=
  ((r.move (.pass (t - r.listener.now))).move .cancel).move .leave
    |>.move .stop

/- The listener waits for more ids. -/
def wait
    (s : Scene)
    (r : Rehearsal) : Rehearsal :=
  match s.cancelTime? with
  | some t =>
      if r.listener.phase = .waiting then cancelAt r t else r
  | none => r

/- The listener waits for the end of its pause. -/
def pause
    (s : Scene)
    (r : Rehearsal) : Rehearsal :=
  match r.listener.phase with
  | .pausing due =>
      let awake :=
        (r.move (.pass (due - r.listener.now))).move .retry
      match s.cancelTime? with
      | some t => if t < due then cancelAt r t else awake
      | none => awake
  | _ => r

/- The listener asks for the stream. -/
def subscribe
    (s : Scene)
    (r : Rehearsal)
    (next : Subscription) : Rehearsal :=
  if r.listener.phase = .opening then
    if r.listener.mustStop then r.move .giveUp
    else
      let r :=
        { r with openedAt := r.openedAt ++ [r.listener.now] }
      match next with
      | .fails e => pause s (r.move (.openStream (.error e)))
      | .yields ids staysOpen =>
          let r := ids.foldl (item s) (r.move (.openStream (.ok ())))
          let r := takeAll s r
          if staysOpen then pause s (wait s r)
          else pause s (r.move .ended)
  else r

end Rehearsal

/-
  Play a scene to its end; past the listed subscriptions the
  wallet is closed.
-/
def Scene.play
    (s : Scene)
    (l : Listener) : Rehearsal :=
  let r := Rehearsal.checkHost s (.start l)
  let r := if s.cancelTime? = some 0 then r.move .cancel else r
  (s.subscriptions ++ [Subscription.fails .closed]).foldl
    (Rehearsal.subscribe s) r

end LightningGateway.Listener
