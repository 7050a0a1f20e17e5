import LightningGateway.Pause
import LightningGateway.PushStream.Event

/-
  Runners, which keep a push stream open.

  A runner connects, reads events until the connection ends in
  whatever way, pauses, and connects again, until it is
  cancelled.  An answer whose status is no success is read to
  its end, but none of it counts.  Payment hashes go to a reader
  through a bounded queue; when the queue is full the runner
  waits.  The reader may go away, which cancels the runner.

  A runner is a machine that events move.  An event that is not
  possible in a state has no next state, so what may happen in
  any order is every list of events that the machine accepts.

  Key definitions include:
    * `Runner`
    * `Event`
    * `Runner.step?`
    * `Runner.run?`
    * `Runner.output?`
-/

namespace LightningGateway.PushStream

------------------------------------------------------------
-- Runners
------------------------------------------------------------

/- What a runner is doing. -/
inductive Phase where
  -- It waits for the answer to a request.
  | connecting
  -- It reads the body of an answer that is no stream.
  | declined
  -- It reads a body, and hands out what it has read.
  | reading (r : EventReader) (unsent : List String)
  -- It waits until it is time to connect again.
  | pausing (due : Nat)
  | stopped
  deriving DecidableEq, Repr

/- A runner and its queue, with times in milliseconds. -/
structure Runner where
  delay : Nat
  capacity : Nat
  now : Nat
  phase : Phase
  -- What the reader has not read, the oldest first.
  queue : List String
  readerGone : Bool
  cancelled : Bool
  deriving DecidableEq, Repr

/- What may happen to a runner. -/
inductive Event where
  -- The connection failed.
  | refused
  -- The head of an answer arrived.
  | answered (status : Nat)
  -- Bytes of the body arrived.
  | chunk (bytes : List UInt8)
  -- The body ended as a whole, or broke off.
  | bodyEnded (whole : Bool)
  -- The oldest hash that was read goes into the queue.
  | send
  -- The pause is over.
  | retry
  -- The runner notices that it was cancelled.
  | stop
  -- The reader takes the oldest hash of the queue.
  | read
  -- The reader goes away.
  | dropReader
  -- Somebody cancels the runner.
  | cancel
  -- Time passes.
  | pass (ms : Nat)
  deriving DecidableEq, Repr

namespace Runner

/- A runner that connects at once. -/
def start
    (delay capacity now : Nat) : Runner :=
  ⟨delay, max capacity 1, now, .connecting, [], false, false⟩

/- Whether a status means that the body is a stream. -/
def isStream (status : Nat) : Bool :=
  200 ≤ status && status < 300

/- The phase after the head of an answer. -/
def afterHead (status : Nat) : Phase :=
  if isStream status then .reading .fresh [] else .declined

/- When a pause that begins now ends. -/
def afterPause (r : Runner) : Phase :=
  .pausing (r.now + Pause.length r.delay)

/- The phase after a body has ended. -/
def afterBody (r : Runner) : Phase :=
  if r.readerGone then .stopped else r.afterPause

/- Whether so much time may pass: no pause is ever overslept. -/
def mayPass
    (r : Runner)
    (ms : Nat) : Bool :=
  match r.phase with
  | .pausing due => r.now + ms ≤ due
  | _ => true

/- The state after an event, if it is possible. -/
def step?
    (r : Runner) : Event → Option Runner
  | .refused =>
      match r.phase with
      | .connecting => some { r with phase := r.afterPause }
      | _ => none
  | .answered status =>
      match r.phase with
      | .connecting => some { r with phase := afterHead status }
      | _ => none
  | .chunk bytes =>
      match r.phase with
      | .declined => some r
      | .reading reader [] =>
          let (reader, hashes) := reader.feed bytes
          some { r with phase := .reading reader hashes }
      | _ => none
  | .bodyEnded _ =>
      match r.phase with
      | .declined => some { r with phase := r.afterPause }
      | .reading _ [] => some { r with phase := r.afterBody }
      | _ => none
  | .send =>
      match r.phase with
      | .reading reader (hash :: rest) =>
          if r.readerGone then some { r with phase := .stopped }
          else if r.queue.length < r.capacity then
            some { r with
              phase := .reading reader rest
              queue := r.queue ++ [hash] }
          else none
      | _ => none
  | .retry =>
      match r.phase with
      | .pausing due =>
          if due ≤ r.now then some { r with phase := .connecting }
          else none
      | _ => none
  | .stop =>
      if r.cancelled ∧ r.phase ≠ .stopped then
        some { r with phase := .stopped }
      else none
  | .read =>
      match r.queue with
      | _ :: rest => some { r with queue := rest }
      | [] => none
  | .dropReader =>
      if r.readerGone then none
      else
        some { r with
          queue := []
          readerGone := true
          cancelled := true }
  | .cancel => some { r with cancelled := true }
  | .pass ms =>
      if r.mayPass ms then some { r with now := r.now + ms }
      else none

/- The hash that the reader gets by an event. -/
def output?
    (r : Runner) : Event → Option String
  | .read => r.queue.head?
  | _ => none

/- The state after some events, if they are possible. -/
def run?
    (r : Runner)
    (events : List Event) : Option Runner :=
  events.foldlM step? r

/- The hashes that the reader gets by some events. -/
def yielded
    (r : Runner) : List Event → List String
  | [] => []
  | e :: rest =>
      match r.step? e with
      | none => []
      | some next => (r.output? e).toList ++ yielded next rest

/- Whether the reader is told that the stream is at its end. -/
def isAtEnd (r : Runner) : Bool :=
  r.phase = .stopped && r.queue.isEmpty

end Runner

end LightningGateway.PushStream
