import LightningGateway.Host
import LightningGateway.PushStream.Event

/-
  Hosts in front of a provider whose behaviour is listed.

  The listener goes on as long as it can, and the host takes
  each settled invoice at once.  When nothing else can happen,
  time passes until the next moment at which something does.
  After a number of settled invoices, or when no more can be
  waited for, the host is told to shut down.

  Key definitions include:
    * `Rehearsal`
    * `Rehearsal.start`
    * `Rehearsal.play`
-/

namespace LightningGateway.Host

open Payment Provider Settings

/- A host, its provider, and the requests that were made. -/
structure Rehearsal where
  host : Host
  script : Script
  requests : List Request
  -- How many invoices the host has logged as settled.
  settled : Nat

namespace Rehearsal

------------------------------------------------------------
-- Operations
------------------------------------------------------------

/- Use the wallet. -/
def ask
    {α : Type}
    (r : Rehearsal)
    (d : Dialogue α) : Option α × Rehearsal :=
  let run := r.host.wallet.run d r.script
  (run.result,
    { r with
      script := run.script
      requests := r.requests ++ run.requests })

/- A host that has asked for the balance of its wallet. -/
def start
    (s : Settings)
    (w : Wallet)
    (script : Script) : Option Rehearsal :=
  let run := w.run (w.balance.map (ofWallet s w)) script
  run.result.map fun h => ⟨h, run.script, run.requests, 0⟩

/- The state after an event; one that is not possible is left out. -/
def move
    (r : Rehearsal)
    (e : Event) : Rehearsal :=
  { r with host := (r.host.step? e).getD r.host }

/- Issue an invoice. -/
def createInvoice
    (r : Rehearsal)
    (random : List UInt8)
    (i : InvoiceRequest) : Rehearsal :=
  let (result, r) := r.ask (r.host.wallet.createInvoice random i)
  match result with
  | some (_, w) => { r with host := { r.host with wallet := w } }
  | none => r

/- Take the stream, so that the listener cannot. -/
def takeStream (r : Rehearsal) : Rehearsal :=
  match r.host.wallet.openStream with
  | .ok (_, w) => { r with host := { r.host with wallet := w } }
  | .error _ => r

------------------------------------------------------------
-- Waiting
------------------------------------------------------------

/- The ids in the body of a stream. -/
def idsOf : Option Outcome → List String
  | some (.reply reply) =>
      if reply.isSuccess then
        (PushStream.EventReader.fresh.feed
          (Text.Utf8.encode reply.body)).2
      else []
  | _ => []

/- Connect to the provider's stream, and read all of it. -/
def connect (r : Rehearsal) : Rehearsal :=
  let call : Call :=
    ⟨.listen, Backend.Lnbits.streamPath, none⟩
  let (outcome, r) := r.ask (.once call id)
  (idsOf outcome).foldl (fun r id => r.move (.provide id)) r

/- How long it takes until an invoice settles by itself. -/
def nextTimer? : Wallet → Option Nat
  | .memory l =>
      match l.timers with
      | t :: _ => some (t.due - l.now)
      | [] => none
  | _ => none

/- Nothing can be read from the stream. -/
def wait (r : Rehearsal) : Rehearsal :=
  match r.host.stream with
  | some (.pushed _) => r.connect
  | _ =>
      match nextTimer? r.host.wallet with
      | some ms => r.move (.pass ms)
      | none => r

/- The listener reads from the stream, or leaves it. -/
def read (r : Rehearsal) : Rehearsal :=
  if r.host.listener.cancelled then r.move (.listener .leave)
  else
    match r.host.step? .poll with
    | some h => { r with host := h }
    | none => r.wait

/- Look an invoice up. -/
def lookUp
    (r : Rehearsal)
    (id : String) : Rehearsal :=
  let (status, r) := r.ask (r.host.wallet.invoiceStatus id)
  match status with
  | some s =>
      { r with
        host := (r.host.moveListener? (.answer s)).getD r.host }
  | none => r

/- The listener waits for the end of its pause. -/
def pause
    (r : Rehearsal)
    (due : Nat) : Rehearsal :=
  if r.host.listener.cancelled then r.move (.listener .stop)
  else
    (r.move (.pass (due - r.host.listener.now))).move
      (.listener .retry)

------------------------------------------------------------
-- Turns
------------------------------------------------------------

/- The listener moves. -/
def turn (r : Rehearsal) : Rehearsal :=
  match r.host.listener.phase with
  | .opening =>
      if r.host.listener.mustStop then
        r.move (.listener .giveUp)
      else r.move .openStream
  | .waiting => r.read
  | .lookingUp id => r.lookUp id
  | .sending _ => r.move (.listener .send)
  | .pausing due => r.pause due
  | .stopped => r

/- The host takes a settled invoice, if there is one. -/
def takeSettled (r : Rehearsal) : Rehearsal :=
  match r.host.step? .settled with
  | some h => { r with host := h, settled := r.settled + 1 }
  | none => r

/- The listener moves until enough invoices are settled. -/
def listen
    (expected : Nat) :
    Nat → Rehearsal → Rehearsal
  | 0, r => r
  | n + 1, r =>
      if expected ≤ r.settled ∨
          r.host.listener.phase = .stopped then r
      else listen expected n r.turn.takeSettled

/- The listener moves until it has stopped. -/
def drain :
    Nat → Rehearsal → Rehearsal
  | 0, r => r
  | n + 1, r => drain n r.turn

/- How many moves a listener needs to stop when cancelled. -/
def stopMoves : Nat := 4

/- How many moves each part of a scene takes at most. -/
def movesEach : Nat := 16

/- Let a host listen, and shut it down. -/
def play
    (r : Rehearsal)
    (expected parts : Nat)
    (signal : Option Signal) : Rehearsal :=
  let r := r.move .listen
  let r := listen expected (movesEach * (parts + 1)) r
  let r :=
    if r.settled < expected ∧
        r.host.listener.phase = .stopped then
      r.move .channelEnded
    else r.move (.shutdown signal)
  [.join, .closeWallet, .finish].foldl move (drain stopMoves r)

end Rehearsal

end LightningGateway.Host
