import LightningGateway.PushStream.Runner
import LightningGateway.Wallet

/-
  The push streams of one wallet.

  Who asks for a stream is let in unless the wallet is closed,
  and then gets a runner with a queue of its own.  Dropping a
  stream cancels its runner.  Closing the wallet cancels all
  runners, and a runner that starts later, for somebody who was
  let in before, is cancelled from the beginning.

  Key definitions include:
    * `Streams`
    * `Streams.Event`
    * `Streams.step?`
-/

namespace LightningGateway.PushStream

/- The streams of a wallet, in the order they were opened. -/
structure Streams where
  wallet : Backend.Lnbits
  now : Nat
  -- How many were let in and have no runner yet.
  admitted : Nat
  runners : List Runner
  deriving DecidableEq, Repr

namespace Streams

/- What may happen to the streams of a wallet. -/
inductive Event where
  -- Somebody asks for a stream.
  | openStream
  -- The runner of somebody who was let in starts.
  | spawn
  -- Something happens to one stream, apart from time.
  | one (i : Nat) (e : PushStream.Event)
  -- Time passes.
  | pass (ms : Nat)
  -- The wallet is closed.
  | close
  deriving DecidableEq, Repr

/- A wallet without streams. -/
def start (w : Backend.Lnbits) : Streams :=
  ⟨w, 0, 0, []⟩

/- An event that one stream can have without the others. -/
def isOwn : PushStream.Event → Bool
  | .pass _ => false
  | .cancel => false
  | _ => true

/- The runner that starts next. -/
def fresh (s : Streams) : Runner :=
  { Runner.start (1000 * s.wallet.reconnectSecs)
      s.wallet.streamCapacity s.now with
    cancelled := s.wallet.client.closed }

/- The state after an event, if it is possible. -/
def step?
    (s : Streams) : Event → Option Streams
  | .openStream =>
      match (Wallet.lnbits s.wallet).openStream with
      | .ok _ => some { s with admitted := s.admitted + 1 }
      | .error _ => some s
  | .spawn =>
      match s.admitted with
      | 0 => none
      | n + 1 =>
          some { s with
            admitted := n
            runners := s.runners ++ [s.fresh] }
  | .one i e =>
      if isOwn e then
        match s.runners[i]? with
        | some r =>
            (r.step? e).map fun r =>
              { s with runners := s.runners.set i r }
        | none => none
      else none
  | .pass ms =>
      if s.runners.all fun r => r.mayPass ms then
        some { s with
          now := s.now + ms
          runners := s.runners.map fun r =>
            { r with now := r.now + ms } }
      else none
  | .close =>
      some { s with
        wallet := s.wallet.close
        runners := s.runners.map fun r =>
          { r with cancelled := true } }

/- The state after some events, if they are possible. -/
def run?
    (s : Streams)
    (events : List Event) : Option Streams :=
  events.foldlM step? s

end Streams

end LightningGateway.PushStream
