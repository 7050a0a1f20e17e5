import LightningGateway.Proofs.Backend.Secrecy
import LightningGateway.Proofs.Listener.Webhook
import Mathlib.Data.List.Perm.Basic

/-
  What is left of a wallet after it was closed.

  A wallet is used by its host, by webhooks that push hashes,
  and by readers of its streams.  Once it was closed, whatever
  happened before and whatever happens later, no operation
  sends a request, each is answered at once, no stream can be
  opened, and to close it again changes nothing.  Its queue
  takes hashes only while somebody can still read them.

  Key definitions include:
    * `Dialogue.whenClosed`
    * `Wallet.closedAnswer`
    * `Wallet.InUse`
    * `Wallet.InUse.step?`
    * `Wallet.IsClosed`

  Main results:
    * `Dialogue.run_of_closed`
    * `Wallet.whenClosed_answers`
    * `Wallet.InUse.turn_of_step?`
    * `Wallet.InUse.closed_for_good`
-/

namespace LightningGateway

open Backend Payment Provider Relay Settings

------------------------------------------------------------
-- Dialogues of a Closed Client
------------------------------------------------------------

namespace Provider.Dialogue

variable {α β : Type}

/- The result if no call leaves the client. -/
def whenClosed : Dialogue α → α
  | .done a => a
  | .ask _ next => whenClosed (next .closed)

/- The result is changed as that of any dialogue. -/
theorem whenClosed_map
    (f : α → β)
    (d : Dialogue α) :
    (d.map f).whenClosed = f d.whenClosed := by
  induction d with
  | done a => rfl
  | ask call next ih => exact ih .closed

/- A closed client sends nothing and waits for nothing. -/
theorem run_of_closed
    {c : Client}
    (hClosed : c.closed = true)
    (d : Dialogue α)
    (script : Script) :
    d.run c script = ⟨some d.whenClosed, [], 0, script⟩ := by
  induction d with
  | done a => rfl
  | ask call next ih =>
      rw [run, if_pos hClosed]
      exact ih .closed

end Provider.Dialogue

/- To close a closed client changes nothing. -/
theorem Provider.Client.close_eq
    {c : Client}
    (hClosed : c.closed = true) :
    c.close = c := by
  cases c
  cases hClosed
  rfl

/- To close a queue changes nothing if its end is given away. -/
theorem Relay.RelayQueue.close_eq
    {q : RelayQueue}
    (hGiven : q.readingEnd ≠ .kept) :
    q.close = q :=
  if_neg hGiven

/- To close a queue does not take its end from a reader. -/
theorem Relay.RelayQueue.readingEnd_close_eq_taken_iff
    (q : RelayQueue) :
    q.close.readingEnd = .taken ↔ q.readingEnd = .taken := by
  unfold close
  split
  · rename_i hKept
    simp [abandoned, hKept]
  · rfl

/- A queue that was closed does not keep its reading end. -/
theorem Relay.RelayQueue.readingEnd_close_ne_kept
    (q : RelayQueue) :
    q.close.readingEnd ≠ .kept := by
  unfold close
  split
  · simp [abandoned]
  · assumption

namespace Wallet

------------------------------------------------------------
-- Answers of a Closed Wallet
------------------------------------------------------------

/- The wording of every failure for want of a connection. -/
def closedMessage : String := "wallet connection closed"

/-
  Why ZBD's wallet refuses a new invoice by itself: it commits
  to no description, and its amount is checked.
-/
def chargeRefusal? (r : InvoiceRequest) : Option String :=
  if r.commitment.isSome then some "unsupported: description_hash"
  else if (Msat.ofSat? r.amountSat.toNat).isNone then
    some ("invalid invoice: " ++
      (toString r.amountSat.toNat ++ " sat is out of range"))
  else none

/-
  Why ZBD's wallet refuses a payment by itself: the hash is read
  from the invoice.
-/
def paymentRefusal? (paymentRequest : String) : Option String :=
  match Bolt11.Invoice.parse paymentRequest with
  | .error e => some ("invalid invoice: " ++ e.message)
  | .ok _ => none

/- Whether a wallet checks requests before it makes calls. -/
def checksFirst : Wallet → Bool
  | .zbd _ => true
  | _ => false

/- The wording of a failure that may have a cause of its own. -/
def refusalOr
    (w : Wallet)
    (refusal? : Option String) : String :=
  if w.checksFirst then refusal?.getD closedMessage
  else closedMessage

/- What a closed wallet answers. -/
def closedAnswer (w : Wallet) : Operation → Answer
  | .balance => .balance ⟨some closedMessage, .zero⟩
  | .createInvoice _ r =>
      .invoice (.failed (w.refusalOr (chargeRefusal? r)))
  | .payInvoice _ paymentRequest =>
      .payment
        (.failed (w.refusalOr (paymentRefusal? paymentRequest)))
  | .invoiceStatus _ => .status .pending
  | .paymentStatus _ => .status .pending
  | .close => .closed

/- Why a closed wallet opens no stream. -/
def closedStreamError : Wallet → GatewayError
  | .lnbits _ => .closed
  | _ => .streamTaken

/- ZBD's wallet refuses a request, or makes one call for it. -/
theorem charge_cases
    (v : Zbd)
    (r : InvoiceRequest) :
    (∃ message, chargeRefusal? r = some message ∧
      v.createInvoice r = .done (.failed message)) ∨
    (chargeRefusal? r = none ∧
      ∃ call, v.createInvoice r = .once call fun o =>
        .ofExcept ((v.client.receive o).bind Zbd.readInvoice)) := by
  unfold Zbd.createInvoice chargeRefusal? InvoiceRequest.amount
  by_cases hCommits : r.commitment.isSome = true
  · rw [if_pos hCommits, if_pos hCommits]
    exact .inl ⟨_, rfl, rfl⟩
  · rw [if_neg hCommits, if_neg hCommits]
    cases Msat.ofSat? r.amountSat.toNat with
    | none => exact .inl ⟨_, rfl, rfl⟩
    | some amount => exact .inr ⟨rfl, _, rfl⟩

/- ZBD's wallet refuses an invoice, or makes one call to pay it. -/
theorem payment_cases
    (v : Zbd)
    (paymentRequest : String) :
    (∃ message, paymentRefusal? paymentRequest = some message ∧
      v.payInvoice paymentRequest = .done (.failed message)) ∨
    (paymentRefusal? paymentRequest = none ∧
      ∃ call hash, v.payInvoice paymentRequest =
        .once call fun o =>
          .ofExcept ((v.client.receive o).bind
            (Zbd.readPayment hash))) := by
  unfold Zbd.payInvoice paymentRefusal?
    Bolt11.Invoice.paymentHashOf Bolt11.Invoice.read
  cases Bolt11.Invoice.parse paymentRequest with
  | error e => exact .inl ⟨_, rfl, rfl⟩
  | ok i => exact .inr ⟨rfl, _, _, rfl⟩

/- What ZBD's wallet answers for a new invoice. -/
theorem whenClosed_createInvoice
    (v : Zbd)
    (r : InvoiceRequest) :
    (v.createInvoice r).whenClosed =
      .failed ((chargeRefusal? r).getD closedMessage) := by
  rcases charge_cases v r with
    ⟨message, hRefusal, hDone⟩ | ⟨hRefusal, call, hOnce⟩
  · rw [hDone, hRefusal]
    rfl
  · rw [hOnce, hRefusal]
    rfl

/- What ZBD's wallet answers for a payment. -/
theorem whenClosed_payInvoice
    (v : Zbd)
    (paymentRequest : String) :
    (v.payInvoice paymentRequest).whenClosed =
      .failed
        ((paymentRefusal? paymentRequest).getD closedMessage) := by
  rcases payment_cases v paymentRequest with
    ⟨message, hRefusal, hDone⟩ | ⟨hRefusal, call, hash, hOnce⟩
  · rw [hDone, hRefusal]
    rfl
  · rw [hOnce, hRefusal]
    rfl

/- Each operation of a wallet with a provider has its answer. -/
theorem whenClosed_answers
    {w : Wallet}
    (hProvider : w.client?.isSome = true)
    (o : Operation) :
    (o.answers w).whenClosed = w.closedAnswer o := by
  cases w with
  | memory l => cases hProvider
  | zbd v =>
      cases o with
      | createInvoice random r =>
          simp only [Operation.answers, Operation.dialogue,
            createInvoice, Dialogue.whenClosed_map,
            whenClosed_createInvoice, closedAnswer, refusalOr,
            checksFirst, if_true]
      | payInvoice random paymentRequest =>
          simp only [Operation.answers, Operation.dialogue,
            payInvoice, Dialogue.whenClosed_map,
            whenClosed_payInvoice, closedAnswer, refusalOr,
            checksFirst, if_true]
      | _ => rfl
  | _ => cases o <;> rfl

/- A wallet that has let go of its client and of its queue. -/
structure IsClosed (w : Wallet) : Prop where
  client : ∃ c, w.client? = some c ∧ c.closed = true
  queue : ∀ q, w.relay? = some q → q.readingEnd ≠ .kept

/- A closed wallet answers every operation without a request. -/
theorem IsClosed.run_answers
    {w : Wallet}
    (hClosed : w.IsClosed)
    (o : Operation)
    (script : Script) :
    w.run (o.answers w) script =
      ⟨some (w.closedAnswer o), [], 0, script⟩ := by
  rcases hClosed.client with
    ⟨c, hClient, hShut⟩
  have hProvider : w.client?.isSome = true := by rw [hClient]; rfl
  simp only [run, hClient]
  rw [Dialogue.run_of_closed hShut, whenClosed_answers hProvider]

/- A closed wallet opens no stream. -/
theorem IsClosed.openStream_eq
    {w : Wallet}
    (hClosed : w.IsClosed) :
    w.openStream = .error w.closedStreamError := by
  rcases hClosed.client with
    ⟨c, hClient, hShut⟩
  cases w with
  | memory l => cases hClient
  | lnbits v =>
      cases hClient
      simp [openStream, relay?, client?, hShut, closedStreamError]
  | lnpay v =>
      have hGiven := hClosed.queue v.relay rfl
      simp [openStream, relay?, RelayQueue.takeStream, hGiven,
        closedStreamError, Except.map]
  | zbd v =>
      have hGiven := hClosed.queue v.relay rfl
      simp [openStream, relay?, RelayQueue.takeStream, hGiven,
        closedStreamError, Except.map]

/- To close a closed wallet changes nothing. -/
theorem IsClosed.close_eq
    {w : Wallet}
    (hClosed : w.IsClosed) :
    w.close = w := by
  rcases hClosed.client with
    ⟨c, hClient, hShut⟩
  cases w with
  | memory l => cases hClient
  | lnbits v =>
      cases hClient
      rw [close, Lnbits.close, Client.close_eq hShut]
  | lnpay v =>
      cases hClient
      rw [close, Lnpay.close, Client.close_eq hShut,
        RelayQueue.close_eq (hClosed.queue v.relay rfl)]
  | zbd v =>
      cases hClient
      rw [close, Zbd.close, Client.close_eq hShut,
        RelayQueue.close_eq (hClosed.queue v.relay rfl)]

/- A wallet with a provider is closed by closing it. -/
theorem isClosed_close
    {w : Wallet}
    (hProvider : w.client?.isSome = true) :
    w.close.IsClosed := by
  cases w with
  | memory l => cases hProvider
  | lnbits v => exact ⟨⟨_, rfl, rfl⟩, fun q hRelay => nomatch hRelay⟩
  | lnpay v =>
      refine ⟨⟨_, rfl, rfl⟩, ?_⟩
      intro q hRelay
      cases hRelay
      exact v.relay.readingEnd_close_ne_kept
  | zbd v =>
      refine ⟨⟨_, rfl, rfl⟩, ?_⟩
      intro q hRelay
      cases hRelay
      exact v.relay.readingEnd_close_ne_kept

/- Another state of the queue leaves the client as it is. -/
@[simp] theorem client?_withRelay
    (w : Wallet)
    (q : RelayQueue) :
    (w.withRelay q).client? = w.client? := by
  cases w <;> rfl

/- To close a wallet closes its client. -/
theorem client?_close (w : Wallet) :
    w.close.client? = w.client?.map Client.close := by
  cases w <;> rfl

/- To close a wallet closes its queue. -/
theorem relay?_close (w : Wallet) :
    w.close.relay? = w.relay?.map RelayQueue.close := by
  cases w <;> rfl

/- A wallet stays closed if its queue is not given back. -/
theorem IsClosed.withRelay
    {w : Wallet}
    {q next : RelayQueue}
    (hClosed : w.IsClosed)
    (hRelay : w.relay? = some q)
    (hGiven : next.readingEnd ≠ .kept) :
    (w.withRelay next).IsClosed where
  client := by
    rw [client?_withRelay]
    exact hClosed.client
  queue := by
    intro r hSame
    rw [relay?_withRelay hRelay] at hSame
    cases hSame
    exact hGiven

------------------------------------------------------------
-- Wallets in Use
------------------------------------------------------------

/- A wallet with those of its streams that were not dropped. -/
structure InUse where
  wallet : Wallet
  streams : List PaidStream
  deriving DecidableEq

namespace InUse

/- What is done with a wallet and its streams. -/
inductive Act where
  -- An operation is begun, and its calls have outcomes.
  | ask (o : Operation) (outcomes : List Outcome)
  -- A webhook pushes a hash.
  | push (hash : String)
  -- A stream is opened.
  | openStream
  -- The provider pushes an id on a stream.
  | provide (i : Nat) (id : String)
  -- A stream is looked at.
  | poll (i : Nat)
  -- A stream is dropped.
  | dropStream (i : Nat)
  deriving DecidableEq

/- The wallet after an operation, if that comes to its end. -/
def afterAsk
    (w : Wallet)
    (o : Operation)
    (outcomes : List Outcome) : Wallet :=
  match (o.dialogue w).resultOf? outcomes with
  | some (_, next) => next
  | none => w

/- The wallet and its streams after an act, if it is possible. -/
def step?
    (u : InUse) : Act → Option InUse
  | .ask o outcomes =>
      some { u with wallet := afterAsk u.wallet o outcomes }
  | .push hash =>
      (u.wallet.push? hash).map fun
        | .ok w => { u with wallet := w }
        | .error _ => u
  | .openStream =>
      match u.wallet.openStream with
      | .ok (s, w) => some ⟨w, u.streams ++ [s]⟩
      | .error _ => some u
  | .provide i id =>
      match u.streams[i]? with
      | some (.pushed waiting) =>
          some { u with
            streams :=
              u.streams.set i (.pushed (waiting ++ [id])) }
      | _ => none
  | .poll i =>
      u.streams[i]?.map fun s =>
        let (_, s, w) := u.wallet.poll s
        ⟨w, u.streams.set i s⟩
  | .dropStream i =>
      u.streams[i]?.map fun s =>
        ⟨u.wallet.dropStream s, u.streams.eraseIdx i⟩

/- The wallet and its streams after some acts. -/
def run?
    (u : InUse)
    (acts : List Act) : Option InUse :=
  acts.foldlM step? u

/- How many streams of the queue there are. -/
def readers (u : InUse) : Nat :=
  u.streams.count .relayed

/-
  A wallet with a provider, whose queue has lent out its reading
  end exactly if there is a stream of the queue.
-/
structure IsSound (u : InUse) : Prop where
  provider : u.wallet.client?.isSome = true
  readers :
    ∀ q, u.wallet.relay? = some q →
      u.readers = if q.readingEnd = .taken then 1 else 0

/- What an act changes. -/
inductive Turn (u v : InUse) : Prop
  -- The queue and its streams stay as they are.
  | idle
      (hWallet : v.wallet = u.wallet)
      (hReaders : u.wallet.relay?.isSome = true →
        v.readers = u.readers)
  | close
      (hWallet : v.wallet = u.wallet.close)
      (hReaders : v.readers = u.readers)
  -- Hashes go into the queue, or out of it.
  | move
      (q next : RelayQueue)
      (hRelay : u.wallet.relay? = some q)
      (hWallet : v.wallet = u.wallet.withRelay next)
      (hEnd : next.readingEnd = q.readingEnd)
      (hReaders : v.readers = u.readers)
  | take
      (q next : RelayQueue)
      (hRelay : u.wallet.relay? = some q)
      (hKept : q.readingEnd = .kept)
      (hWallet : v.wallet = u.wallet.withRelay next)
      (hEnd : next.readingEnd = .taken)
      (hReaders : v.readers = u.readers + 1)
  | drop
      (q : RelayQueue)
      (hRelay : u.wallet.relay? = some q)
      (hWallet : v.wallet = u.wallet.withRelay q.dropStream)
      (hReaders : u.readers = v.readers + 1)

/- A stream among others, and the readers beside it. -/
theorem count_eraseIdx
    {streams : List PaidStream}
    {i : Nat}
    {s : PaidStream}
    (hAt : streams[i]? = some s) :
    streams.count .relayed =
      (streams.eraseIdx i).count .relayed +
        if s = .relayed then 1 else 0 := by
  rcases List.getElem?_eq_some_iff.mp hAt with
    ⟨hBound, rfl⟩
  rw [← (List.getElem_cons_eraseIdx_perm hBound).count_eq,
    List.count_cons]
  simp only [beq_iff_eq]

/- A stream that is moved on still reads what it has read. -/
theorem count_set
    {streams : List PaidStream}
    {i : Nat}
    {s t : PaidStream}
    (hAt : streams[i]? = some s)
    (hKind : t = .relayed ↔ s = .relayed) :
    (streams.set i t).count .relayed =
      streams.count .relayed := by
  have hBound := (List.getElem?_eq_some_iff.mp hAt).1
  rw [count_eraseIdx hAt,
    count_eraseIdx (List.getElem?_set_self hBound),
    List.eraseIdx_set_eq]
  simp only [hKind]

/- An operation closes the wallet, or leaves it as it is. -/
theorem afterAsk_eq
    {w : Wallet}
    (hProvider : w.client?.isSome = true)
    (o : Operation)
    (outcomes : List Outcome) :
    afterAsk w o outcomes = w ∨
      afterAsk w o outcomes = w.close := by
  have hAfter : o.after w = w ∨ o.after w = w.close := by
    cases o with
    | close => exact .inr rfl
    | _ => exact .inl rfl
  rw [afterAsk, dialogue_eq hProvider, Dialogue.resultOf?_map]
  cases (o.answers w).resultOf? outcomes with
  | none => exact .inl rfl
  | some a => exact hAfter

/- A queue that accepts a hash keeps its reading end. -/
theorem readingEnd_push
    {q next : RelayQueue}
    {hash : String}
    (hPush : q.push hash = .ok next) :
    next.readingEnd = q.readingEnd := by
  unfold RelayQueue.push at hPush
  split at hPush
  · cases hPush
  · split at hPush
    · cases hPush
      rfl
    · cases hPush

/- A queue that hands out a hash keeps its reading end. -/
theorem readingEnd_receive
    {q next : RelayQueue}
    {hash : String}
    (hReceive : q.receive = some (hash, next)) :
    next.readingEnd = q.readingEnd := by
  unfold RelayQueue.receive at hReceive
  split at hReceive
  · cases hReceive
  · cases hReceive
    rfl

/- A queue lends its reading end once. -/
theorem readingEnd_takeStream
    {q next : RelayQueue}
    (hTake : q.takeStream = .ok next) :
    q.readingEnd = .kept ∧ next.readingEnd = .taken := by
  unfold RelayQueue.takeStream at hTake
  split at hTake
  · rename_i hKept
    cases hTake
    exact ⟨hKept, rfl⟩
  · cases hTake

/- To push a hash moves the queue, or changes nothing. -/
theorem turn_of_push
    {u v : InUse}
    {hash : String}
    (hStep : u.step? (.push hash) = some v) :
    Turn u v := by
  simp only [step?, push?, Option.map_map,
    Option.map_eq_some_iff] at hStep
  rcases hStep with
    ⟨q, hRelay, rfl⟩
  simp only [Function.comp_apply]
  cases hPush : q.push hash with
  | error e => exact .idle rfl fun _ => rfl
  | ok next =>
      exact .move q next hRelay rfl (readingEnd_push hPush) rfl

/- To open a stream takes the reading end, if there is one. -/
theorem turn_of_openStream
    {u v : InUse}
    (hStep : u.step? .openStream = some v) :
    Turn u v := by
  simp only [step?] at hStep
  cases hRelay : u.wallet.relay? with
  | none =>
      have hNone {n : Prop} (h : u.wallet.relay?.isSome = true) :
          n := by
        rw [hRelay] at h
        cases h
      cases hOpen : u.wallet.openStream with
      | error e =>
          rw [hOpen] at hStep
          cases hStep
          exact .idle rfl hNone
      | ok opened =>
          rw [hOpen] at hStep
          cases hStep
          simp only [Wallet.openStream, hRelay] at hOpen
          split at hOpen
          · cases hOpen
          · cases hOpen
            exact .idle rfl hNone
  | some q =>
      simp only [Wallet.openStream, hRelay] at hStep
      cases hTake : q.takeStream with
      | error e =>
          rw [hTake] at hStep
          cases hStep
          exact .idle rfl fun _ => rfl
      | ok next =>
          rw [hTake] at hStep
          cases hStep
          rcases readingEnd_takeStream hTake with
            ⟨hKept, hTaken⟩
          refine .take q next hRelay hKept rfl hTaken ?_
          exact List.count_append

/- A look at a stream moves the queue, or changes nothing. -/
theorem turn_of_poll
    {u v : InUse}
    {i : Nat}
    (hStep : u.step? (.poll i) = some v) :
    Turn u v := by
  rcases Option.map_eq_some_iff.mp hStep with
    ⟨s, hAt, rfl⟩
  have hSame (t : PaidStream)
      (hKind : t = .relayed ↔ s = .relayed) :
      (u.streams.set i t).count .relayed = u.readers :=
    count_set hAt hKind
  cases s with
  | pushed waiting =>
      cases waiting with
      | nil =>
          simp only [Wallet.poll]
          split
          · exact .idle rfl fun _ => hSame _ Iff.rfl
          · exact .idle rfl fun _ => hSame _ Iff.rfl
      | cons id rest =>
          simp only [Wallet.poll]
          exact .idle rfl fun _ => hSame _ (by simp)
  | relayed =>
      cases hReceive :
          u.wallet.relay?.bind RelayQueue.receive with
      | none =>
          simp only [Wallet.poll, hReceive]
          exact .idle rfl fun _ => hSame _ Iff.rfl
      | some received =>
          simp only [Wallet.poll, hReceive]
          rcases Option.bind_eq_some_iff.mp hReceive with
            ⟨q, hRelay, hNext⟩
          exact .move q received.2 hRelay rfl
            (readingEnd_receive hNext) (hSame _ Iff.rfl)

/- To drop a stream of the queue gives its reading end up. -/
theorem turn_of_dropStream
    {u v : InUse}
    {i : Nat}
    (hStep : u.step? (.dropStream i) = some v) :
    Turn u v := by
  rcases Option.map_eq_some_iff.mp hStep with
    ⟨s, hAt, rfl⟩
  have hCount := count_eraseIdx hAt
  cases s with
  | pushed waiting =>
      exact .idle rfl fun _ => by
        simpa [readers] using hCount.symm
  | relayed =>
      cases hRelay : u.wallet.relay? with
      | none =>
          refine .idle ?_ ?_
          · simp only [Wallet.dropStream, hRelay]
          · intro hSome
            rw [hRelay] at hSome
            cases hSome
      | some q =>
          refine .drop q hRelay ?_ ?_
          · simp only [Wallet.dropStream, hRelay]
          · simpa [readers] using hCount

/- Every act of a wallet with a provider is such a change. -/
theorem turn_of_step?
    {u v : InUse}
    {a : Act}
    (hProvider : u.wallet.client?.isSome = true)
    (hStep : u.step? a = some v) :
    Turn u v := by
  cases a with
  | ask o outcomes =>
      cases hStep
      rcases afterAsk_eq hProvider o outcomes with
        hSame | hClose
      · exact .idle hSame fun _ => rfl
      · exact .close hClose rfl
  | push hash => exact turn_of_push hStep
  | openStream => exact turn_of_openStream hStep
  | provide i id =>
      simp only [step?] at hStep
      split at hStep
      · rename_i waiting hAt
        cases hStep
        exact .idle rfl fun _ => count_set hAt (by simp)
      · cases hStep
  | poll i => exact turn_of_poll hStep
  | dropStream i => exact turn_of_dropStream hStep

------------------------------------------------------------
-- What Every Act Keeps
------------------------------------------------------------

/- The provider stays, and so does the accord with the queue. -/
theorem IsSound.turn
    {u v : InUse}
    (hSound : u.IsSound)
    (hTurn : Turn u v) :
    v.IsSound := by
  cases hTurn with
  | idle hWallet hReaders =>
      refine ⟨by rw [hWallet]; exact hSound.provider, ?_⟩
      intro q hRelay
      rw [hWallet] at hRelay
      rw [hReaders (by rw [hRelay]; rfl)]
      exact hSound.readers q hRelay
  | close hWallet hReaders =>
      refine ⟨?_, ?_⟩
      · rw [hWallet, client?_close, Option.isSome_map]
        exact hSound.provider
      · intro q hRelay
        rw [hWallet, relay?_close] at hRelay
        rcases Option.map_eq_some_iff.mp hRelay with
          ⟨p, hBefore, rfl⟩
        rw [hReaders, hSound.readers p hBefore]
        simp only [RelayQueue.readingEnd_close_eq_taken_iff]
  | move q next hRelay hWallet hEnd hReaders =>
      refine ⟨?_, ?_⟩
      · rw [hWallet, client?_withRelay]
        exact hSound.provider
      · intro r hSame
        rw [hWallet, relay?_withRelay hRelay] at hSame
        cases hSame
        rw [hReaders, hEnd]
        exact hSound.readers q hRelay
  | take q next hRelay hKept hWallet hEnd hReaders =>
      refine ⟨?_, ?_⟩
      · rw [hWallet, client?_withRelay]
        exact hSound.provider
      · intro r hSame
        rw [hWallet, relay?_withRelay hRelay] at hSame
        cases hSame
        rw [hReaders, hSound.readers q hRelay, hKept, hEnd]
        rfl
  | drop q hRelay hWallet hReaders =>
      refine ⟨?_, ?_⟩
      · rw [hWallet, client?_withRelay]
        exact hSound.provider
      · intro r hSame
        rw [hWallet, relay?_withRelay hRelay] at hSame
        cases hSame
        -- There was a stream of the queue, so its end was taken.
        have hBefore := hSound.readers q hRelay
        by_cases hTaken : q.readingEnd = .taken
        · rw [if_pos hTaken, hReaders] at hBefore
          rw [RelayQueue.dropStream, if_pos hTaken]
          exact Nat.succ.inj hBefore
        · rw [if_neg hTaken, hReaders] at hBefore
          cases hBefore

/- A wallet that is closed stays closed. -/
theorem isClosed_of_turn
    {u v : InUse}
    (hClosed : u.wallet.IsClosed)
    (hTurn : Turn u v) :
    v.wallet.IsClosed := by
  cases hTurn with
  | idle hWallet hReaders => exact hWallet ▸ hClosed
  | close hWallet hReaders =>
      rw [hWallet, hClosed.close_eq]
      exact hClosed
  | move q next hRelay hWallet hEnd hReaders =>
      rw [hWallet]
      exact hClosed.withRelay hRelay
        (hEnd ▸ hClosed.queue q hRelay)
  | take q next hRelay hKept hWallet hEnd hReaders =>
      exact absurd hKept (hClosed.queue q hRelay)
  | drop q hRelay hWallet hReaders =>
      rw [hWallet]
      refine hClosed.withRelay hRelay ?_
      unfold RelayQueue.dropStream
      split
      · simp [RelayQueue.abandoned]
      · exact hClosed.queue q hRelay

/- What was sound stays so in the course of some acts. -/
theorem isSound_of_run
    {u v : InUse}
    {acts : List Act}
    (hSound : u.IsSound)
    (hRun : u.run? acts = some v) :
    v.IsSound :=
  Run.invariant_of_run
    (fun hBefore hStep =>
      hBefore.turn (turn_of_step? hBefore.provider hStep))
    hSound hRun

/- What was closed stays so in the course of some acts. -/
theorem isClosed_of_run
    {u v : InUse}
    {acts : List Act}
    (hSound : u.IsSound)
    (hClosed : u.wallet.IsClosed)
    (hRun : u.run? acts = some v) :
    v.wallet.IsClosed :=
  (Run.invariant_of_run
    (P := fun m => m.IsSound ∧ m.wallet.IsClosed)
    (fun hBefore hStep =>
      have hTurn := turn_of_step? hBefore.1.provider hStep
      ⟨hBefore.1.turn hTurn, isClosed_of_turn hBefore.2 hTurn⟩)
    ⟨hSound, hClosed⟩ hRun).2

/- A wallet with a provider that was just built is sound. -/
theorem isSound_of_build
    {s : Settings}
    {w : Wallet}
    (hBuilt : Wallet.build s = .ok w)
    (hProvider : s.funding.source ≠ .fake) :
    IsSound ⟨w, []⟩ := by
  unfold Wallet.build at hBuilt
  cases hSource : s.funding.source with
  | fake => exact absurd hSource hProvider
  | lnbits =>
      rw [hSource] at hBuilt
      rcases exists_of_map_eq_ok hBuilt with
        ⟨v, hFirst, rfl⟩
      exact ⟨rfl, fun q hRelay => nomatch hRelay⟩
  | lnpay =>
      rw [hSource] at hBuilt
      rcases exists_of_map_eq_ok hBuilt with
        ⟨v, hFirst, rfl⟩
      rcases lnpay_of_build hFirst with
        ⟨endpoint, key, walletKey, hEndpoint, rfl⟩
      refine ⟨rfl, ?_⟩
      intro q hRelay
      cases hRelay
      rfl
  | zbd =>
      rw [hSource] at hBuilt
      rcases exists_of_map_eq_ok hBuilt with
        ⟨v, hFirst, rfl⟩
      rcases zbd_of_build hFirst with
        ⟨endpoint, key, hEndpoint, rfl⟩
      refine ⟨rfl, ?_⟩
      intro q hRelay
      cases hRelay
      rfl

/-
  The queue of a closed wallet hands every hash back unless a
  stream of it is alive.
-/
theorem push?_eq_closed_iff
    {u : InUse}
    (hSound : u.IsSound)
    (hClosed : u.wallet.IsClosed)
    {q : RelayQueue}
    (hRelay : u.wallet.relay? = some q)
    (hash : String) :
    u.wallet.push? hash = some (.error (.closed hash)) ↔
      .relayed ∉ u.streams := by
  have hReaders := hSound.readers q hRelay
  have hGiven := hClosed.queue q hRelay
  rw [← List.count_eq_zero]
  change _ ↔ u.readers = 0
  simp only [push?, hRelay, Option.map_some, Option.some.injEq,
    RelayQueue.push]
  cases hEnd : q.readingEnd with
  | kept => exact absurd hEnd hGiven
  | gone =>
      rw [hReaders, hEnd]
      exact iff_of_true rfl rfl
  | taken =>
      rw [hReaders, hEnd]
      refine iff_of_false ?_ (by decide)
      intro hPush
      split at hPush
      · simp_all
      · split at hPush <;> cases hPush

/-
  For every wallet with a provider and all that is done with it
  and its streams before it is closed and after that: no
  operation sends a request, and each is answered at once, as
  `closedAnswer` says; no stream can be opened; a queue accepts
  or hands back hashes only while a stream of it is alive, and
  else it is closed too; and closing again changes nothing.
-/
theorem closed_for_good
    {s : Settings}
    {w : Wallet}
    {before after : List Act}
    {u : InUse}
    (hBuilt : Wallet.build s = .ok w)
    (hProvider : s.funding.source ≠ .fake)
    (hRun :
      InUse.run? ⟨w, []⟩ (before ++ .ask .close [] :: after) =
        some u) :
    (∀ o script,
      u.wallet.run (o.answers u.wallet) script =
        ⟨some (u.wallet.closedAnswer o), [], 0, script⟩) ∧
      u.wallet.openStream = .error u.wallet.closedStreamError ∧
      (∀ q hash, u.wallet.relay? = some q →
        (u.wallet.push? hash = some (.error (.closed hash)) ↔
          .relayed ∉ u.streams)) ∧
      ∀ outcomes, u.step? (.ask .close outcomes) = some u := by
  rw [run?, List.foldlM_append] at hRun
  rcases Option.bind_eq_some_iff.mp hRun with
    ⟨m, hBefore, hRest⟩
  rcases Run.run_cons_eq_some_iff.mp hRest with
    ⟨shut, hClose, hAfter⟩
  have hSound : m.IsSound :=
    isSound_of_run (isSound_of_build hBuilt hProvider) hBefore
  have hShut : shut.IsSound :=
    hSound.turn (turn_of_step? hSound.provider hClose)
  have hClosed : shut.wallet.IsClosed := by
    cases hClose
    exact isClosed_close hSound.provider
  have hEnd := isClosed_of_run hShut hClosed hAfter
  refine ⟨hEnd.run_answers, hEnd.openStream_eq, ?_, ?_⟩
  · intro q hash hRelay
    exact push?_eq_closed_iff (isSound_of_run hShut hAfter) hEnd
      hRelay hash
  · intro outcomes
    change some { u with wallet := u.wallet.close } = some u
    rw [hEnd.close_eq]

/- Settings of a wallet at ZBD. -/
def deskSettings : Settings :=
  { Settings.default with
    funding := { FundingSettings.default with source := .zbd }
    zbd := ⟨some "http://zbd.test", some "key"⟩ }

/- The wallet that they describe, with a client and a queue. -/
def desk
    (closed : Bool)
    (readingEnd : ReadingEnd) : Wallet :=
  .zbd ⟨⟨"http://zbd.test", "apikey", "key", "funding/0.1.0",
    closed⟩, ⟨1024, [], readingEnd⟩⟩

/- Its use: a stream is taken, and dropped after the closing. -/
def deskUse : List Act :=
  [.push "aa", .openStream, .ask .balance [.reply ⟨200, ""⟩],
   .poll 0] ++
    .ask .close [] :: [.push "bb", .dropStream 0, .openStream]

/- An invoice over an amount that is out of range. -/
def untold : Operation :=
  .createInvoice [] (.ofSat 18446744073709551615)

/- Why it is refused. -/
def untoldRefusal : Answer :=
  .invoice (.failed
    "invalid invoice: 18446744073709551615 sat is out of range")

/-
  In the end its queue hands hashes back, and what it refuses by
  itself it still refuses for that reason.
-/
theorem closed_for_good_of_desk :
    Wallet.build deskSettings = .ok (desk false .kept) ∧
      InUse.run? ⟨desk false .kept, []⟩ deskUse =
        some ⟨desk true .gone, []⟩ ∧
      (desk true .gone).push? "cc" =
        some (.error (.closed "cc")) ∧
      ∀ script,
        (desk true .gone).run (untold.answers (desk true .gone))
            script =
          ⟨some untoldRefusal, [], 0, script⟩ := by
  have hBuilt :
      Wallet.build deskSettings = .ok (desk false .kept) :=
    rfl
  have hRun :
      InUse.run? ⟨desk false .kept, []⟩ deskUse =
        some ⟨desk true .gone, []⟩ :=
    rfl
  have hRefusal :
      (desk true .gone).closedAnswer untold = untoldRefusal :=
    rfl
  rcases closed_for_good hBuilt nofun hRun with
    ⟨hAnswers, -, hPush, -⟩
  refine ⟨hBuilt, hRun,
    (hPush _ "cc" rfl).mpr List.not_mem_nil, ?_⟩
  intro script
  rw [hAnswers, hRefusal]

end InUse

end Wallet

end LightningGateway
