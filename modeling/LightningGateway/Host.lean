import LightningGateway.Listener
import LightningGateway.Settings.Log
import LightningGateway.Wallet

/-
  The host: a wallet, a listener, and a log of what was paid.

  The host logs every invoice that the listener sends, until it
  is told to shut down or the listener stops by itself.  Then it
  cancels the listener, waits until that has stopped, but not
  for ever, closes the wallet, and returns.

  A host is a machine that events move.  The wallet may be used
  by others meanwhile: a webhook pushes hashes, and the wallet
  in memory issues, pays and settles invoices.

  Key definitions include:
    * `Host`
    * `Host.build`
    * `Host.step?`
    * `Host.run?`
-/

namespace LightningGateway

open Payment Provider Settings

------------------------------------------------------------
-- Hosts
------------------------------------------------------------

/- A line of the log. -/
structure LogLine where
  level : LogLevel
  text : String
  deriving DecidableEq, Repr

/- A line for information. -/
def LogLine.info (text : String) : LogLine :=
  ⟨.info, text⟩

namespace Host

/- Why a host stops before it is told to. -/
inductive Failure where
  | listenerStopped
  deriving DecidableEq, Repr

/- The wording of a failure. -/
def Failure.message : Failure → String
  | .listenerStopped => "Invoice listener stopped unexpectedly"

/- What a host is doing. -/
inductive Stage where
  | built
  | listening
  -- It waits for the listener, with its failure if there was one.
  | stopping (failure : Option Failure) (since : Nat)
  -- It is about to close the wallet.
  | closing (failure : Option Failure)
  -- The wallet is closed.
  | closed (failure : Option Failure)
  | finished (failure : Option Failure)
  deriving DecidableEq, Repr

/- A signal to shut down. -/
inductive Signal where
  | interrupt
  | terminate
  deriving DecidableEq, Repr

/- The name of a signal. -/
def Signal.name : Signal → String
  | .interrupt => "SIGINT"
  | .terminate => "SIGTERM"

end Host

/- A host. -/
structure Host where
  wallet : Wallet
  -- The stream that the listener holds.
  stream : Option Wallet.PaidStream
  listener : Listener
  stage : Host.Stage
  -- What the host itself has logged, the oldest line first.
  log : List LogLine

namespace Host

/- How many settled invoices wait for the host at most. -/
def settledCapacity : Nat := 256

/- How many milliseconds the host waits for the listener at most. -/
def window : Nat := 10000

/- The line that names the provider. -/
def sourceLine (s : Settings) : LogLine :=
  .info ("Using " ++ s.funding.source.name ++ " funding source")

/- The line about the balance of a wallet. -/
def balanceLine
    (w : Wallet)
    (a : BalanceAnswer) : LogLine :=
  match a.errorMessage with
  | some message =>
      ⟨.warn, w.name ++ " is not ready: " ++ message⟩
  | none =>
      .info (w.name ++ " balance: " ++
        toString a.balance.value ++ " msat")

/- The line about a settled invoice. -/
def settledLine (s : SettledInvoice) : LogLine :=
  .info ("Settled invoice " ++ s.id ++ ": " ++ s.status.name)

/- The line about a signal. -/
def signalLine (s : Signal) : LogLine :=
  .info ("Received " ++ s.name ++ " signal")

/- A host of a wallet that told its balance. -/
def ofWallet
    (s : Settings)
    (w : Wallet)
    (a : BalanceAnswer) : Host where
  wallet := w
  stream := none
  listener :=
    .start (1000 * s.funding.reconnectSecs.toNat) settledCapacity
  stage := .built
  log := [sourceLine s, balanceLine w a]

/- Build the host that the settings describe. -/
def build
    (s : Settings) : Except GatewayError (Dialogue Host) :=
  (Wallet.build s).map fun w => w.balance.map (ofWallet s w)

------------------------------------------------------------
-- Events
------------------------------------------------------------

/- What may happen to a host. -/
inductive Event where
  -- The host begins to listen.
  | listen
  -- The listener asks the wallet for its stream.
  | openStream
  -- The provider pushes an id on the stream.
  | provide (id : String)
  -- The listener takes an id, or finds the stream at its end.
  | poll
  -- The provider's answers to a lookup are there.
  | answer (outcomes : List Outcome)
  -- The listener moves by itself.
  | listener (e : Listener.Event)
  -- The host takes a settled invoice and logs it.
  | settled
  -- The host finds that the listener has stopped.
  | channelEnded
  -- The host is told to shut down, perhaps by a signal.
  | shutdown (s : Option Signal)
  -- The host finds that the listener has stopped, as it should.
  | join
  -- The host has waited long enough for the listener.
  | timeOut
  -- The host closes the wallet.
  | closeWallet
  -- The host returns, and takes no settled invoice any more.
  | finish
  -- A webhook pushes a hash.
  | push (hash : String)
  -- The wallet in memory is used.
  | settle (id : String)
  | createInvoice (random : List UInt8) (r : InvoiceRequest)
  | payInvoice (random : List UInt8) (paymentRequest : String)
  -- Time passes.
  | pass (ms : Nat)

/- Whether a listener has an event without wallet and host. -/
def isInner : Listener.Event → Bool
  | .giveUp => true
  | .leave => true
  | .send => true
  | .retry => true
  | .stop => true
  | _ => false

/- The host with another line in its log. -/
def note
    (h : Host)
    (line : LogLine) : Host :=
  { h with log := h.log ++ [line] }

/- Move the listener; a stream that it leaves is dropped. -/
def moveListener?
    (h : Host)
    (e : Listener.Event) : Option Host :=
  (h.listener.step? e).map fun l =>
    match h.stream with
    | some s =>
        if l.phase.isSubscribed then { h with listener := l }
        else
          { h with
            listener := l
            wallet := h.wallet.dropStream s
            stream := none }
    | none => { h with listener := l }

/- Ask the wallet for its stream. -/
def openStream? (h : Host) : Option Host :=
  match h.wallet.openStream with
  | .error e => h.moveListener? (.openStream (.error e))
  | .ok (s, w) =>
      (h.listener.step? (.openStream (.ok ()))).map fun l =>
        { h with listener := l, wallet := w, stream := some s }

/- Look at the stream. -/
def poll? (h : Host) : Option Host :=
  match h.stream with
  | none => none
  | some s =>
      match h.wallet.poll s with
      | (.item id, s, w) =>
          ({ h with wallet := w, stream := some s }).moveListener?
            (.item id)
      | (.ended, _, _) => h.moveListener? .ended
      | (.empty, _, _) => none

/- Go on after a lookup. -/
def answer?
    (h : Host)
    (outcomes : List Outcome) : Option Host :=
  match h.listener.phase with
  | .lookingUp id =>
      ((h.wallet.invoiceStatus id).resultOf? outcomes).bind
        fun s => h.moveListener? (.answer s)
  | _ => none

/- Take a settled invoice. -/
def settled? (h : Host) : Option Host :=
  match h.stage, h.listener.queue with
  | .listening, s :: _ =>
      (h.moveListener? .receive).map (·.note (settledLine s))
  | _, _ => none

/- Begin to shut down. -/
def wind
    (h : Host)
    (failure : Option Failure) : Option Host :=
  (h.moveListener? .cancel).map fun h =>
    { h.note (.info "Shutdown initiated") with
      stage := .stopping failure h.listener.now }

/- Find that the listener has stopped. -/
def join? (h : Host) : Option Host :=
  match h.stage with
  | .stopping failure _ =>
      if h.listener.phase = .stopped then
        some
          { h.note (.info "Background tasks completed gracefully")
            with stage := .closing failure }
      else none
  | _ => none

/- Wait no longer for the listener. -/
def timeOut? (h : Host) : Option Host :=
  match h.stage with
  | .stopping failure since =>
      if since + window ≤ h.listener.now then
        some
          { h.note
              ⟨.warn, "Background tasks timed out during shutdown"⟩
            with stage := .closing failure }
      else none
  | _ => none

/- Close the wallet. -/
def closeWallet? (h : Host) : Option Host :=
  match h.stage with
  | .closing failure =>
      some
        { h with
          wallet := h.wallet.close
          stage := .closed failure }
  | _ => none

/- Return. -/
def finish? (h : Host) : Option Host :=
  match h.stage with
  | .closed failure =>
      (h.moveListener? .dropHost).map fun h =>
        { h.note (.info "Shutdown complete") with
          stage := .finished failure }
  | _ => none

/- Whether so much time may pass: no wait is ever overslept. -/
def mayPass
    (h : Host)
    (ms : Nat) : Bool :=
  match h.stage with
  | .stopping _ since => h.listener.now + ms ≤ since + window
  | _ => true

/- Let time pass in a wallet. -/
def advance
    (ms : Nat) : Wallet → Wallet
  | .memory l => .memory (l.advance ms)
  | w => w

/- The state after an event, if it is possible. -/
def step?
    (h : Host) : Event → Option Host
  | .listen =>
      if h.stage = .built then
        some { h.note (.info "Listening for settled invoices...")
          with stage := .listening }
      else none
  | .openStream => h.openStream?
  | .provide id =>
      match h.stream with
      | some (.pushed waiting) =>
          some { h with stream := some (.pushed (waiting ++ [id])) }
      | _ => none
  | .poll => h.poll?
  | .answer outcomes => h.answer? outcomes
  | .listener e =>
      if isInner e then h.moveListener? e else none
  | .settled => h.settled?
  | .channelEnded =>
      if h.stage = .listening ∧ h.listener.phase = .stopped ∧
          h.listener.queue = [] then
        h.wind (some .listenerStopped)
      else none
  | .shutdown s =>
      if h.stage = .listening then
        (s.elim h fun s => h.note (signalLine s)).wind none
      else none
  | .join => h.join?
  | .timeOut => h.timeOut?
  | .closeWallet => h.closeWallet?
  | .finish => h.finish?
  | .push hash =>
      match h.wallet.push? hash with
      | some (.ok w) => some { h with wallet := w }
      | _ => none
  | .settle id =>
      match h.wallet with
      | .memory l =>
          match l.settle id with
          | .ok l => some { h with wallet := .memory l }
          | .error _ => none
      | _ => none
  | .createInvoice random r =>
      match h.wallet with
      | .memory l =>
          some { h with
            wallet := .memory (l.createInvoice random r).2 }
      | _ => none
  | .payInvoice random request =>
      match h.wallet with
      | .memory l =>
          some { h with
            wallet := .memory (l.payInvoice random request).2 }
      | _ => none
  | .pass ms =>
      if h.mayPass ms then
        (h.moveListener? (.pass ms)).map fun h =>
          { h with wallet := advance ms h.wallet }
      else none

/- The state after some events, if they are possible. -/
def run?
    (h : Host)
    (events : List Event) : Option Host :=
  events.foldlM step? h

end Host

end LightningGateway
