import LightningGateway.PushStream.Runner

/-
  Runners in front of a provider whose behaviour is listed.

  The reader takes every hash as soon as it is there, and all
  that the provider does takes no time.  When the list is used
  up, the next connection is left open.

  Key definitions include:
    * `Connection`
    * `Rehearsal`
    * `Runner.rehearse`
-/

namespace LightningGateway.PushStream

/- What the provider does with a connection. -/
inductive Connection where
  | refuses
  | streams (chunks : List (List UInt8))
  deriving DecidableEq, Repr

/- What came of a list of connections. -/
structure Rehearsal where
  -- The hashes that the reader got.
  ids : List String
  -- When each connection was asked for, in milliseconds.
  times : List Nat
  runner : Runner

/- The status of an answer that is a stream. -/
def okay : Nat := 200

namespace Runner

/- The state after an event; one that is not possible is left out. -/
def move
    (r : Runner)
    (e : Event) : Runner :=
  (r.step? e).getD r

/- How many hashes are read and not yet in the queue. -/
def unsentCount (r : Runner) : Nat :=
  match r.phase with
  | .reading _ unsent => unsent.length
  | _ => 0

/- Hand hashes out, each of which the reader takes at once. -/
def handOut :
    Nat → Runner → List String × Runner
  | 0, r => ([], r)
  | n + 1, r =>
      let r := r.move .send
      let id := r.output? .read
      let (ids, r) := handOut n (r.move .read)
      (id.toList ++ ids, r)

/- Read chunks of a body. -/
def readChunks
    (r : Runner) :
    List (List UInt8) → List String × Runner
  | [] => ([], r)
  | chunk :: rest =>
      let r := r.move (.chunk chunk)
      let (ids, r) := handOut r.unsentCount r
      let (more, r) := readChunks r rest
      (ids ++ more, r)

/- Go through one connection and the pause after it. -/
def serve
    (r : Runner)
    (c : Connection) : List String × Runner :=
  let (ids, r) :=
    match c with
    | .refuses => ([], r.move .refused)
    | .streams chunks =>
        let (ids, r) := (r.move (.answered okay)).readChunks chunks
        (ids, r.move (.bodyEnded true))
  (ids, (r.move (.pass (Pause.length r.delay))).move .retry)

/- Go through all connections. -/
def rehearse
    (r : Runner) : List Connection → Rehearsal
  | [] => ⟨[], [r.now], r⟩
  | c :: rest =>
      let (ids, next) := r.serve c
      let later := rehearse next rest
      ⟨ids ++ later.ids, r.now :: later.times, later.runner⟩

end Runner

end LightningGateway.PushStream
