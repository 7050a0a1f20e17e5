import LightningGateway.Payment.Error

/-
  The queue between a webhook and the reader of paid invoices.

  The webhook pushes payment hashes and never waits: when the
  queue is full, or nobody can read it any more, the hash is
  handed back.  The reading end is given out once.

  Key definitions include:
    * `RelayQueue`
    * `RelayQueue.push`
    * `RelayQueue.takeStream`
    * `RelayQueue.receive`
-/

namespace LightningGateway.Relay

open Payment

------------------------------------------------------------
-- Queues
------------------------------------------------------------

/- Where the reading end of a queue is. -/
inductive ReadingEnd where
  | kept
  | taken
  | gone
  deriving DecidableEq, Repr

/- Why a hash is handed back. -/
inductive RelayError where
  | full (capacity : Nat) (hash : String)
  | closed (hash : String)
  deriving DecidableEq, Repr

/- The wording of an error. -/
def RelayError.message : RelayError → String
  | .full capacity hash =>
      "paid invoice relay is full (" ++ toString capacity ++
        " undelivered), rejecting " ++ hash
  | .closed hash =>
      "paid invoice stream is gone, dropping " ++ hash

/- A queue of hashes, the oldest one first. -/
structure RelayQueue where
  capacity : Nat
  waiting : List String
  readingEnd : ReadingEnd
  deriving DecidableEq, Repr

namespace RelayQueue

/- An empty queue, which has room for one hash at least. -/
def ofCapacity (capacity : Nat) : RelayQueue :=
  ⟨max capacity 1, [], .kept⟩

/- Push a hash. -/
def push
    (q : RelayQueue)
    (hash : String) : Except RelayError RelayQueue :=
  if q.readingEnd = .gone then .error (.closed hash)
  else if q.waiting.length < q.capacity then
    .ok { q with waiting := q.waiting ++ [hash] }
  else .error (.full q.capacity hash)

/- Take the reading end. -/
def takeStream
    (q : RelayQueue) : Except GatewayError RelayQueue :=
  if q.readingEnd = .kept then
    .ok { q with readingEnd := .taken }
  else .error .streamTaken

/- Read the oldest hash, if there is one. -/
def receive (q : RelayQueue) : Option (String × RelayQueue) :=
  match q.waiting with
  | [] => none
  | hash :: rest => some (hash, { q with waiting := rest })

/- A queue that nobody can read. -/
def abandoned (q : RelayQueue) : RelayQueue :=
  { q with waiting := [], readingEnd := .gone }

/- Drop the reading end that was taken. -/
def dropStream (q : RelayQueue) : RelayQueue :=
  if q.readingEnd = .taken then q.abandoned else q

/- Close the queue: a reading end that was not taken is gone. -/
def close (q : RelayQueue) : RelayQueue :=
  if q.readingEnd = .kept then q.abandoned else q

end RelayQueue

end LightningGateway.Relay
