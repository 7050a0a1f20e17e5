import LightningGateway.Proofs.Backend.Lookup
import LightningGateway.Proofs.Backend.Secrecy
import LightningGateway.Proofs.Backend.Submission

/-
  What wallets make of replies whose status is no success.

  A status from 400 to 599 is an error, and every operation
  then reports a failure or, for lookups, a state that is not
  known.  Any other status is overlooked: the body is read as
  if the status were a success.  Only a new invoice at LNPay
  needs one status, and is refused under all others.

  Key definitions include:
    * `Outcome.asSuccess`, `Outcome.withoutError`
    * `Dialogue.Overlooks`
    * `Wallet.needsCreated`
    * `Wallet.Answer.IsRefusal`

  Main results:
    * `Wallet.answers_refused`
    * `Wallet.answers_overlooks`
    * `Wallet.next_answers_overlooks`
    * `Wallet.unsuccessful_replies_exact`
-/

namespace LightningGateway

open Backend Payment Provider

------------------------------------------------------------
-- Overlooked Statuses
------------------------------------------------------------

namespace Provider

/- A reply that is no error, with the status of a success. -/
def Reply.asSuccess (r : Reply) : Reply :=
  if r.isError then r else { r with status := 200 }

/- An error stays as it is. -/
theorem Reply.asSuccess_of_isError
    {r : Reply}
    (hError : r.isError = true) :
    r.asSuccess = r :=
  if_pos hError

/- Of any other reply the body stays. -/
theorem Reply.asSuccess_of_usable
    {r : Reply}
    (hUsable : r.isError = false) :
    r.asSuccess = ⟨200, r.body⟩ := by
  unfold asSuccess
  rw [hUsable]
  rfl

/- A reader overlooks a status if it does so without an error. -/
theorem Reply.read_asSuccess
    {α : Type}
    (read : Reply → α)
    (hRead :
      ∀ r, r.isError = false → read ⟨200, r.body⟩ = read r)
    (r : Reply) :
    read r.asSuccess = read r := by
  cases hError : r.isError with
  | true => rw [asSuccess_of_isError hError]
  | false =>
      rw [asSuccess_of_usable hError]
      exact hRead r hError

/- An outcome, with the status of a success if it is no error. -/
def Outcome.asSuccess : Outcome → Outcome
  | .reply r => .reply r.asSuccess
  | o => o

/- An outcome, with an error as if there were no reply. -/
def Outcome.withoutError : Outcome → Outcome
  | .reply r => if r.isError then .closed else .reply r
  | o => o

/- A reader that overlooks a status does so in any outcome. -/
theorem Client.bind_asSuccess
    {α : Type}
    {read : Reply → Except GatewayError α}
    (hRead : ∀ r, read r.asSuccess = read r)
    (c : Client)
    (o : Outcome) :
    (c.receive o.asSuccess).bind read =
      (c.receive o).bind read := by
  cases o with
  | reply r => exact hRead r
  | _ => rfl

/- The body of an outcome is there whatever is overlooked. -/
theorem Outcome.tree?_asSuccess (o : Outcome) :
    o.asSuccess.tree? = o.tree? := by
  cases o with
  | reply r =>
      have hTree :
          ∀ r : Reply, r.isError = false →
            tree? (.reply ⟨200, r.body⟩) = tree? (.reply r) := by
        intro r hUsable
        rw [tree?, tree?, hUsable]
        rfl
      exact Reply.read_asSuccess (fun r => tree? (.reply r)) hTree r
  | _ => rfl

/- There is no body in an error. -/
theorem Outcome.tree?_withoutError (o : Outcome) :
    o.withoutError.tree? = o.tree? := by
  cases o with
  | reply r =>
      by_cases hError : r.isError = true
      · rw [withoutError, if_pos hError, tree?, if_pos hError]
        rfl
      · rw [withoutError, if_neg hError]
  | _ => rfl

namespace Dialogue

variable {α β : Type}

/- What is left of a dialogue after its first call. -/
def next
    (o : Outcome) : Dialogue α → Dialogue α
  | .done a => .done a
  | .ask _ next => next o

/- The first outcome leaves the others to the rest. -/
theorem resultOf?_cons
    (d : Dialogue α)
    (o : Outcome)
    (rest : List Outcome) :
    d.resultOf? (o :: rest) = (d.next o).resultOf? rest := by
  cases d <;> rfl

/- To change the result does not change the calls that are left. -/
theorem next_map
    (d : Dialogue α)
    (g : α → β)
    (o : Outcome) :
    (d.map g).next o = (d.next o).map g := by
  cases d <;> rfl

/- A dialogue goes on alike after outcomes that `f` makes one. -/
inductive Overlooks
    (f : Outcome → Outcome) : Dialogue α → Prop
  | done (a : α) : Overlooks f (.done a)
  | ask
      {call : Call}
      {next : Outcome → Dialogue α}
      (hSame : ∀ o, next (f o) = next o)
      (hNext : ∀ o, Overlooks f (next o)) :
      Overlooks f (.ask call next)

/- One call overlooks what the reading of its outcome does. -/
theorem overlooks_once
    {f : Outcome → Outcome}
    {read : Outcome → α}
    (hRead : ∀ o, read (f o) = read o)
    (call : Call) :
    (once call read).Overlooks f := by
  refine .ask ?_ fun o => .done (read o)
  intro o
  rw [hRead]

/- To change the result does not change what is overlooked. -/
theorem Overlooks.map
    {f : Outcome → Outcome}
    {d : Dialogue α}
    (hOverlooks : d.Overlooks f)
    (g : α → β) :
    (d.map g).Overlooks f := by
  induction hOverlooks with
  | done a => exact .done (g a)
  | ask hSame hNext ih =>
      refine .ask ?_ ih
      intro o
      rw [hSame]

/- The result does not depend on what is overlooked. -/
theorem Overlooks.resultOf?_eq
    {f : Outcome → Outcome}
    {d : Dialogue α}
    (hOverlooks : d.Overlooks f)
    {os ps : List Outcome}
    (hSame : os.map f = ps.map f) :
    d.resultOf? os = d.resultOf? ps := by
  have hMap (outcomes : List Outcome) :
      d.resultOf? (outcomes.map f) = d.resultOf? outcomes := by
    clear hSame
    induction hOverlooks generalizing outcomes with
    | done a => rfl
    | ask hSame hNext ih =>
        cases outcomes with
        | nil => rfl
        | cons o rest =>
            rw [List.map_cons, resultOf?, resultOf?, hSame]
            exact ih o rest
  rw [← hMap os, ← hMap ps, hSame]

end Dialogue

end Provider

------------------------------------------------------------
-- Readers
------------------------------------------------------------

namespace Backend

/- The status of an LNbits balance is overlooked. -/
theorem Lnbits.readBalance_asSuccess (endpoint : String) :
    ∀ r, readBalance endpoint r.asSuccess =
      readBalance endpoint r := by
  apply Reply.read_asSuccess
  intro r hUsable
  rw [readBalance, readBalance, hUsable]
  rfl

/- The status of an LNbits invoice is overlooked. -/
theorem Lnbits.readInvoice_asSuccess :
    ∀ r, readInvoice r.asSuccess = readInvoice r := by
  apply Reply.read_asSuccess
  intro r hUsable
  rw [readInvoice, readInvoice, hUsable]
  rfl

/- The status of an LNbits payment is overlooked. -/
theorem Lnbits.readSent_asSuccess :
    ∀ r, readSent r.asSuccess = readSent r := by
  apply Reply.read_asSuccess
  intro r hUsable
  rw [readSent, readSent, hUsable]
  rfl

/- The status of an LNPay balance is overlooked. -/
theorem Lnpay.readBalance_asSuccess :
    ∀ r, readBalance r.asSuccess = readBalance r := by
  apply Reply.read_asSuccess
  intro r hUsable
  rw [readBalance, readBalance, hUsable]
  rfl

/- The status of an LNPay payment is overlooked. -/
theorem Lnpay.readPayment_asSuccess :
    ∀ r, readPayment r.asSuccess = readPayment r := by
  apply Reply.read_asSuccess
  intro r hUsable
  rw [readPayment, readPayment, hUsable]
  rfl

/- The status of a ZBD balance is overlooked. -/
theorem Zbd.readBalance_asSuccess :
    ∀ r, readBalance r.asSuccess = readBalance r := by
  apply Reply.read_asSuccess
  intro r hUsable
  rw [readBalance, readBalance, hUsable]
  rfl

/- The status of a ZBD charge is overlooked. -/
theorem Zbd.readInvoice_asSuccess :
    ∀ r, readInvoice r.asSuccess = readInvoice r := by
  apply Reply.read_asSuccess
  intro r hUsable
  rw [readInvoice, readInvoice, hUsable]
  rfl

/- The status of a ZBD payment is overlooked. -/
theorem Zbd.readPayment_asSuccess (hash : String) :
    ∀ r, readPayment hash r.asSuccess = readPayment hash r := by
  apply Reply.read_asSuccess
  intro r hUsable
  rw [readPayment, readPayment, hUsable]
  rfl

end Backend

namespace Wallet

------------------------------------------------------------
-- Refusals
------------------------------------------------------------

/-
  The answers that report no success: an error instead of a
  balance, a failure, or a state that is not known.
-/
inductive Answer.IsRefusal : Answer → Prop
  | balance (message : String) :
      IsRefusal (.balance (.failed message))
  | invoice (message : String) :
      IsRefusal (.invoice (.failed message))
  | payment (message : String) :
      IsRefusal (.payment (.failed message))
  | status : IsRefusal (.status .pending)

/- Whether an operation needs a reply with one status. -/
def needsCreated : Wallet → Operation → Bool
  | .lnpay _, .createInvoice _ _ => true
  | _, _ => false

/- An error is no balance. -/
theorem balance_refused
    {w : Wallet}
    {r : Reply}
    (hProvider : w.client?.isSome = true)
    (hError : r.isError = true) :
    ∃ message, ∀ rest,
      w.balance.resultOf? (.reply r :: rest) =
        some (.failed message) := by
  cases w with
  | lnbits v =>
      have hRead :
          Lnbits.readBalance v.client.endpoint r =
            .error (r.providerError Lnbits.errorField) :=
        if_pos hError
      refine ⟨(r.providerError Lnbits.errorField).message, ?_⟩
      intro rest
      exact congrArg (fun x => some (BalanceAnswer.ofExcept x)) hRead
  | lnpay v =>
      have hRead :
          Lnpay.readBalance r =
            .error (r.providerError Lnpay.errorField) :=
        if_pos hError
      refine ⟨(r.providerError Lnpay.errorField).message, ?_⟩
      intro rest
      exact congrArg (fun x => some (BalanceAnswer.ofExcept x)) hRead
  | zbd v =>
      have hRead :
          Zbd.readBalance r =
            .error (r.providerError Zbd.errorField) :=
        if_pos hError
      refine ⟨(r.providerError Zbd.errorField).message, ?_⟩
      intro rest
      exact congrArg (fun x => some (BalanceAnswer.ofExcept x)) hRead
  | memory l => cases hProvider

/- An error is no invoice, and at LNPay only one status is. -/
theorem createInvoice_refused
    {w : Wallet}
    {r : Reply}
    (hProvider : w.client?.isSome = true)
    (random : List UInt8)
    (q : InvoiceRequest)
    (hRefused :
      r.isError = true ∨
        w.needsCreated (.createInvoice random q) = true ∧
          r.status ≠ Lnpay.created) :
    ∃ message, ∀ rest,
      (w.createInvoice random q).resultOf? (.reply r :: rest) =
        some (.failed message, w) := by
  cases w with
  | lnbits v =>
      have hError : r.isError = true := by
        simpa [needsCreated] using hRefused
      have hRead :
          Lnbits.readInvoice r =
            .ok (.failed (r.errorMessage Lnbits.errorField)) :=
        if_pos hError
      refine ⟨r.errorMessage Lnbits.errorField, ?_⟩
      intro rest
      exact congrArg
        (fun x => some (InvoiceAnswer.ofExcept x, lnbits v)) hRead
  | lnpay v =>
      have hStatus : r.status ≠ Lnpay.created := by
        rcases hRefused with hError | ⟨_, hOther⟩
        · have hRange := r.isError_iff.mp hError
          unfold Lnpay.created
          omega
        · exact hOther
      have hRead :
          Lnpay.readInvoice r =
            .ok (.failed (r.errorMessage Lnpay.errorField)) :=
        if_pos hStatus
      refine ⟨r.errorMessage Lnpay.errorField, ?_⟩
      intro rest
      exact congrArg
        (fun x => some (InvoiceAnswer.ofExcept x, lnpay v)) hRead
  | zbd v =>
      have hError : r.isError = true := by
        simpa [needsCreated] using hRefused
      have hRead :
          Zbd.readInvoice r =
            .ok (.failed (r.errorMessage Zbd.errorField)) :=
        if_pos hError
      rcases zbd_createInvoice_cases v q with
        ⟨⟨message, hUnasked⟩, _⟩ | ⟨⟨call, _, hAsked⟩, _⟩
      · refine ⟨message, ?_⟩
        intro rest
        rw [createInvoice, hUnasked]
        rfl
      · refine ⟨r.errorMessage Zbd.errorField, ?_⟩
        intro rest
        rw [createInvoice, hAsked]
        exact congrArg
          (fun x => some (InvoiceAnswer.ofExcept x, zbd v)) hRead
  | memory l => cases hProvider

/- An error is no payment. -/
theorem payInvoice_refused
    {w : Wallet}
    {r : Reply}
    (hProvider : w.client?.isSome = true)
    (random : List UInt8)
    (request : String)
    (hError : r.isError = true) :
    ∃ message, ∀ rest,
      (w.payInvoice random request).resultOf?
          (.reply r :: rest) =
        some (.failed message, w) := by
  cases w with
  | lnbits v =>
      have hRead :
          Lnbits.readSent r =
            .ok (.refused (r.errorMessage Lnbits.errorField)) :=
        if_pos hError
      refine ⟨r.errorMessage Lnbits.errorField, ?_⟩
      intro rest
      rw [payInvoice, Dialogue.resultOf?_map, Lnbits.payInvoice,
        Dialogue.resultOf?, Client.receive, Except.bind, hRead]
      rfl
  | lnpay v =>
      -- The body is read first, so it may be what is reported.
      have hRead :
          ∃ message,
            PaymentAnswer.ofExcept (Lnpay.readPayment r) =
              .failed message := by
        unfold Lnpay.readPayment
        cases r.read Lnpay.withdrawal? with
        | error e => exact ⟨e.message, rfl⟩
        | ok sent =>
            refine ⟨r.errorMessage Lnpay.errorField, ?_⟩
            simp only [hError, if_true, PaymentAnswer.ofExcept]
      rcases hRead with ⟨message, hFailed⟩
      refine ⟨message, ?_⟩
      intro rest
      exact congrArg (fun a => some (a, lnpay v)) hFailed
  | zbd v =>
      cases hHash : Bolt11.Invoice.paymentHashOf request with
      | error e =>
          refine ⟨e.message, ?_⟩
          intro rest
          rw [payInvoice, Zbd.payInvoice, hHash]
          rfl
      | ok hash =>
          have hRead :
              Zbd.readPayment hash r =
                .ok (.failed (r.errorMessage Zbd.errorField)) :=
            if_pos hError
          refine ⟨r.errorMessage Zbd.errorField, ?_⟩
          intro rest
          rw [payInvoice, Zbd.payInvoice, hHash]
          exact congrArg
            (fun x => some (PaymentAnswer.ofExcept x, zbd v)) hRead
  | memory l => cases hProvider

/- An error tells no state. -/
theorem lookUp_refused
    {w : Wallet}
    {r : Reply}
    (hProvider : w.client?.isSome = true)
    (subject : Subject)
    (id : String)
    (hError : r.isError = true)
    (rest : List Outcome) :
    (w.lookUp subject id).resultOf? (.reply r :: rest) =
      some .pending := by
  rw [resultOf?_lookUp hProvider, Outcome.tree?, if_pos hError]
  rfl

/- An operation answers with the result of its dialogue. -/
theorem resultOf?_answers
    {α : Type}
    {w : Wallet}
    {o : Operation}
    {d : Dialogue α}
    {g : α → Answer × Wallet}
    (hDialogue : o.dialogue w = d.map g)
    {outcomes : List Outcome}
    {a : α}
    (hResult : d.resultOf? outcomes = some a)
    {b : Answer}
    (hAnswer : (g a).1 = b) :
    (o.answers w).resultOf? outcomes = some b := by
  rw [Operation.answers, Dialogue.resultOf?_map, hDialogue,
    Dialogue.resultOf?_map, hResult, ← hAnswer]
  rfl

/- Every operation that makes a call refuses an error. -/
theorem answers_refused
    {w : Wallet}
    {o : Operation}
    {r : Reply}
    (hProvider : w.client?.isSome = true)
    (hCalls : o ≠ .close)
    (hRefused :
      r.isError = true ∨
        w.needsCreated o = true ∧ r.status ≠ Lnpay.created) :
    ∃ a : Answer, a.IsRefusal ∧ ∀ rest,
      (o.answers w).resultOf? (.reply r :: rest) = some a := by
  have hError :
      w.needsCreated o = false → r.isError = true := by
    intro hOther
    rcases hRefused with hError | ⟨hNeeds, _⟩
    · exact hError
    · exact absurd (hNeeds.symm.trans hOther) nofun
  cases o with
  | balance =>
      rcases balance_refused hProvider (hError (by cases w <;> rfl))
        with ⟨message, hResult⟩
      refine ⟨_, .balance message, ?_⟩
      intro rest
      exact resultOf?_answers rfl (hResult rest) rfl
  | createInvoice random q =>
      rcases createInvoice_refused hProvider random q hRefused
        with ⟨message, hResult⟩
      refine ⟨_, .invoice message, ?_⟩
      intro rest
      exact resultOf?_answers rfl (hResult rest) rfl
  | payInvoice random request =>
      rcases payInvoice_refused hProvider random request
          (hError (by cases w <;> rfl)) with
        ⟨message, hResult⟩
      refine ⟨_, .payment message, ?_⟩
      intro rest
      exact resultOf?_answers rfl (hResult rest) rfl
  | invoiceStatus id =>
      have hResult :=
        lookUp_refused hProvider .invoice id
          (hError (by cases w <;> rfl))
      refine ⟨_, .status, ?_⟩
      intro rest
      exact resultOf?_answers rfl (hResult rest) rfl
  | paymentStatus id =>
      have hResult :=
        lookUp_refused hProvider .payment id
          (hError (by cases w <;> rfl))
      refine ⟨_, .status, ?_⟩
      intro rest
      exact resultOf?_answers rfl (hResult rest) rfl
  | close => exact absurd rfl hCalls

------------------------------------------------------------
-- Replies Read as Successes
------------------------------------------------------------

/- A balance overlooks the status of a usable reply. -/
theorem balance_overlooks (w : Wallet) :
    w.balance.Overlooks Outcome.asSuccess := by
  cases w with
  | lnbits v =>
      apply Dialogue.overlooks_once
      intro o
      rw [v.client.bind_asSuccess
        (Lnbits.readBalance_asSuccess v.client.endpoint)]
  | lnpay v =>
      apply Dialogue.overlooks_once
      intro o
      rw [v.client.bind_asSuccess Lnpay.readBalance_asSuccess]
  | zbd v =>
      apply Dialogue.overlooks_once
      intro o
      rw [v.client.bind_asSuccess Zbd.readBalance_asSuccess]
  | memory l => exact .done _

/- So does a new invoice, unless it needs one status. -/
theorem createInvoice_overlooks
    {w : Wallet}
    {random : List UInt8}
    {q : InvoiceRequest}
    (hNeeds :
      w.needsCreated (.createInvoice random q) = false) :
    (w.createInvoice random q).Overlooks
      Outcome.asSuccess := by
  cases w with
  | lnbits v =>
      apply Dialogue.Overlooks.map
      apply Dialogue.overlooks_once
      intro o
      rw [v.client.bind_asSuccess Lnbits.readInvoice_asSuccess]
  | lnpay v => cases hNeeds
  | zbd v =>
      apply Dialogue.Overlooks.map
      rcases zbd_createInvoice_cases v q with
        ⟨⟨message, hUnasked⟩, _⟩ | ⟨⟨call, _, hAsked⟩, _⟩
      · rw [hUnasked]
        exact .done _
      · rw [hAsked]
        apply Dialogue.overlooks_once
        intro o
        rw [v.client.bind_asSuccess Zbd.readInvoice_asSuccess]
  | memory l => exact .done _

/- A lookup reads only the body of a usable reply. -/
theorem lookUp_overlooks
    {f : Outcome → Outcome}
    (hTree : ∀ o, (f o).tree? = o.tree?)
    (w : Wallet)
    (subject : Subject)
    (id : String) :
    (w.lookUp subject id).Overlooks f := by
  cases w with
  | lnbits v =>
      cases subject <;>
        apply Dialogue.overlooks_once <;>
        intro o <;>
        rw [lnbits_statusOf, lnbits_statusOf, hTree]
  | lnpay v =>
      cases subject <;>
        apply Dialogue.overlooks_once <;>
        intro o <;>
        rw [lnpay_statusOf, lnpay_statusOf, hTree]
  | zbd v =>
      cases subject <;>
        apply Dialogue.overlooks_once <;>
        intro o <;>
        rw [zbd_statusOf, zbd_statusOf, hTree]
  | memory l => cases subject <;> exact .done _

/- After an LNbits payment only its lookup is left. -/
theorem afterSent_overlooks
    {f : Outcome → Outcome}
    (hTree : ∀ o, (f o).tree? = o.tree?)
    (v : Lnbits)
    (sent : Except GatewayError Lnbits.Sent) :
    (v.afterSent sent).Overlooks f := by
  rcases sent with e | message | hash
  · exact .done _
  · exact .done _
  · exact (lookUp_overlooks hTree (lnbits v) .payment hash).map _

/- A payment overlooks the status, also of its own lookup. -/
theorem payInvoice_overlooks
    (w : Wallet)
    (random : List UInt8)
    (request : String) :
    (w.payInvoice random request).Overlooks
      Outcome.asSuccess := by
  cases w with
  | lnbits v =>
      apply Dialogue.Overlooks.map
      refine .ask ?_ fun o =>
        afterSent_overlooks Outcome.tree?_asSuccess v _
      intro o
      rw [v.client.bind_asSuccess Lnbits.readSent_asSuccess]
  | lnpay v =>
      apply Dialogue.Overlooks.map
      apply Dialogue.overlooks_once
      intro o
      rw [v.client.bind_asSuccess Lnpay.readPayment_asSuccess]
  | zbd v =>
      apply Dialogue.Overlooks.map
      unfold Zbd.payInvoice
      cases Bolt11.Invoice.paymentHashOf request with
      | error e => exact .done _
      | ok hash =>
          apply Dialogue.overlooks_once
          intro o
          rw [v.client.bind_asSuccess
            (Zbd.readPayment_asSuccess hash)]
  | memory l => exact .done _

/- An operation that needs no one status overlooks it. -/
theorem answers_overlooks
    {w : Wallet}
    {o : Operation}
    (hNeeds : w.needsCreated o = false) :
    (o.answers w).Overlooks Outcome.asSuccess := by
  apply Dialogue.Overlooks.map
  cases o with
  | balance => exact w.balance_overlooks.map _
  | createInvoice random q =>
      exact (createInvoice_overlooks hNeeds).map _
  | payInvoice random request =>
      exact (w.payInvoice_overlooks random request).map _
  | invoiceStatus id =>
      exact (lookUp_overlooks Outcome.tree?_asSuccess w
        .invoice id).map _
  | paymentStatus id =>
      exact (lookUp_overlooks Outcome.tree?_asSuccess w
        .payment id).map _
  | close => exact .done _

/- After the first call nothing is left but a lookup. -/
theorem next_answers_overlooks
    {f : Outcome → Outcome}
    (hTree : ∀ o, (f o).tree? = o.tree?)
    (w : Wallet)
    (o : Operation)
    (first : Outcome) :
    ((o.answers w).next first).Overlooks f := by
  rw [Operation.answers, Dialogue.next_map]
  apply Dialogue.Overlooks.map
  cases o with
  | balance => cases w <;> exact .done _
  | createInvoice random q =>
      rw [Operation.dialogue, Dialogue.next_map]
      apply Dialogue.Overlooks.map
      cases w with
      | zbd v =>
          rw [createInvoice, Dialogue.next_map]
          apply Dialogue.Overlooks.map
          rcases zbd_createInvoice_cases v q with
            ⟨⟨message, hUnasked⟩, _⟩ | ⟨⟨call, _, hAsked⟩, _⟩
          · rw [hUnasked]
            exact .done _
          · rw [hAsked]
            exact .done _
      | _ => exact .done _
  | payInvoice random request =>
      rw [Operation.dialogue, Dialogue.next_map]
      apply Dialogue.Overlooks.map
      cases w with
      | lnbits v =>
          rw [payInvoice, Dialogue.next_map]
          exact (afterSent_overlooks hTree v _).map _
      | zbd v =>
          rw [payInvoice, Dialogue.next_map, Zbd.payInvoice]
          apply Dialogue.Overlooks.map
          cases Bolt11.Invoice.paymentHashOf request <;>
            exact .done _
      | _ => exact .done _
  | invoiceStatus id => cases w <;> exact .done _
  | paymentStatus id => cases w <;> exact .done _
  | close => exact .done _

/-
  For every wallet with a provider, every operation that makes a
  call and every reply whose status is no success, whatever its
  body: if the status is an error, or if the wallet is at LNPay
  and the operation is a new invoice, the reply to the first
  call is answered with a refusal.  A later call only looks a
  payment up that has been sent, and an error tells it no more
  than a connection that broke off.  Under any other status
  each reply is read as if its status were a success.
-/
theorem unsuccessful_replies_exact
    (w : Wallet)
    (o : Operation)
    (r : Reply)
    (hProvider : w.client?.isSome = true)
    (hCalls : o ≠ .close)
    (hStatus : ¬(200 ≤ r.status ∧ r.status < 300)) :
    ((400 ≤ r.status ∧ r.status < 600) ∨
        w.needsCreated o = true →
      ∃ a : Answer, a.IsRefusal ∧ ∀ rest,
        (o.answers w).resultOf? (.reply r :: rest) = some a) ∧
    (400 ≤ r.status ∧ r.status < 600 →
      ∀ first rest,
        (o.answers w).resultOf? (first :: .reply r :: rest) =
          (o.answers w).resultOf? (first :: .closed :: rest)) ∧
    (¬(400 ≤ r.status ∧ r.status < 600) →
      w.needsCreated o = false →
      ∀ before rest,
        (o.answers w).resultOf? (before ++ .reply r :: rest) =
          (o.answers w).resultOf?
            (before ++ .reply ⟨200, r.body⟩ :: rest)) := by
  refine ⟨?_, ?_, ?_⟩
  · intro hRefused
    apply answers_refused hProvider hCalls
    rcases hRefused with hError | hNeeds
    · exact .inl (r.isError_iff.mpr hError)
    · have hOther : r.status ≠ Lnpay.created := by
        unfold Lnpay.created
        omega
      exact .inr ⟨hNeeds, hOther⟩
  · intro hError first rest
    have hClosed :
        Outcome.withoutError (.reply r) =
          Outcome.withoutError .closed :=
      if_pos (r.isError_iff.mpr hError)
    have hLater :
        ((o.answers w).next first).Overlooks
          Outcome.withoutError :=
      next_answers_overlooks Outcome.tree?_withoutError w o first
    rw [(o.answers w).resultOf?_cons first,
      (o.answers w).resultOf?_cons first]
    apply hLater.resultOf?_eq
    rw [List.map_cons, List.map_cons, hClosed]
  · intro hUsable hNeeds before rest
    have hPassed : r.isError = false :=
      eq_false_of_ne_true (mt r.isError_iff.mp hUsable)
    have hSame :
        Outcome.asSuccess (.reply r) =
          Outcome.asSuccess (.reply ⟨200, r.body⟩) :=
      congrArg Outcome.reply (Reply.asSuccess_of_usable hPassed)
    apply (answers_overlooks hNeeds).resultOf?_eq
    rw [List.map_append, List.map_append, List.map_cons,
      List.map_cons, hSame]

/- A wallet at LNbits. -/
def atLnbits : Wallet :=
  .lnbits
    ⟨⟨"https://lnbits.example", "x-api-key", "key", "agent",
      false⟩, 5, 8⟩

/- A wallet at LNPay. -/
def atLnpay : Wallet :=
  .lnpay
    ⟨⟨"https://lnpay.example", "x-api-key", "key", "agent",
      false⟩, "waka", .ofCapacity 8⟩

/- A new invoice in the words of LNbits. -/
def issuedBody : String :=
  "\x7b\"checking_id\":\"c\",\"payment_request\":\"p\"\x7d"

/- The reply of a cache that holds nothing newer. -/
def unmodified : Reply := ⟨304, issuedBody⟩

/- LNPay refuses it and LNbits reads an invoice in it. -/
theorem unsuccessful_replies_exact_of_unmodified :
    ¬(200 ≤ unmodified.status ∧ unmodified.status < 300) ∧
      (∃ a : Answer, a.IsRefusal ∧ ∀ rest,
        ((Operation.createInvoice [] (.ofSat 1)).answers
            atLnpay).resultOf? (.reply unmodified :: rest) =
          some a) ∧
      ((Operation.createInvoice [] (.ofSat 1)).answers
          atLnbits).resultOf? [.reply unmodified] =
        some (.invoice (.success "c" "p")) := by
  have hStatus :
      ¬(200 ≤ unmodified.status ∧ unmodified.status < 300) := by
    decide
  have hRefused :=
    (unsuccessful_replies_exact atLnpay
      (.createInvoice [] (.ofSat 1)) unmodified rfl nofun
      hStatus).1 (.inr rfl)
  have hRead :=
    (unsuccessful_replies_exact atLnbits
      (.createInvoice [] (.ofSat 1)) unmodified rfl nofun
      hStatus).2.2 (by decide) rfl [] []
  exact ⟨hStatus, hRefused, hRead.trans (by decide +kernel)⟩

/- So not every reply without success is refused. -/
theorem not_all_unsuccessful_refused :
    ¬∀ (w : Wallet) (o : Operation) (r : Reply),
      w.client?.isSome = true → o ≠ .close →
      ¬(200 ≤ r.status ∧ r.status < 300) →
      ∃ a : Answer, a.IsRefusal ∧
        (o.answers w).resultOf? [.reply r] = some a := by
  intro hRefused
  have hIssued :
      ((Operation.createInvoice [] (.ofSat 1)).answers
          atLnbits).resultOf? [.reply unmodified] =
        some (.invoice (.success "c" "p")) := by
    decide +kernel
  rcases hRefused atLnbits (.createInvoice [] (.ofSat 1))
      unmodified rfl nofun (by decide) with
    ⟨a, hRefusal, hResult⟩
  rw [hIssued] at hResult
  cases hResult
  cases hRefusal

end Wallet

end LightningGateway
