import LightningGateway.Proofs.Backend.Charging
import LightningGateway.Proofs.Backend.Refusal
import LightningGateway.Proofs.Backend.Wording

/-
  Failures in the words of the provider.

  A reply whose status is an error is answered with the text
  that its body holds in the error field of the provider.  Two
  things stand in the way.  The body is read as a value first,
  so another member that has no value spoils it, and then the
  beginning of the body is all that is told.  And the wallet at
  LNPay reads the reply to a payment before it looks at the
  status: what is no such reply in the words of the service, is
  malformed, whatever the service has said.

  Key definitions include:
    * `Json.Tree.said?`
    * `Wallet.Misreads`
    * `Wallet.GetsThrough`

  Main results:
    * `Reply.errorMessage_of_said?`
    * `Wallet.answers_of_passesOn`
    * `Wallet.answers_of_misreads`
    * `Wallet.provider_messages_told`
-/

namespace LightningGateway

open Backend Payment Provider

------------------------------------------------------------
-- Texts in Objects
------------------------------------------------------------

namespace Json

namespace Tree

/- The text of an object under a name, the last one if repeated. -/
def said?
    (name : String) : Tree → Option String
  | .object members =>
      (members.reverse.lookup (some name)).bind text?
  | _ => none

/- A member, and what it means. -/
def Means
    (depth : Nat)
    (m : Option String × Tree)
    (n : String × Value) : Prop :=
  m.1 = some n.1 ∧ valueWithin? depth m.2 = some n.2

/- The members of a value are those of its tree, one by one. -/
theorem forall₂_of_membersWithin?
    {depth : Nat}
    {members : List (Option String × Tree)}
    {values : List (String × Value)}
    (hValues : membersWithin? depth members = some values) :
    List.Forall₂ (Means depth) members values := by
  induction members generalizing values with
  | nil =>
      unfold membersWithin? at hValues
      cases hValues
      exact .nil
  | cons m rest ih =>
      unfold membersWithin? at hValues
      split at hValues
      · rename_i hName hValue hRest
        cases hValues
        exact .cons ⟨hName, hValue⟩ (ih hRest)
      · cases hValues

/- What is found among members, its meaning is found too. -/
theorem exists_lookup_of_forall₂
    {depth : Nat}
    {members : List (Option String × Tree)}
    {values : List (String × Value)}
    (hMeans : List.Forall₂ (Means depth) members values)
    {name : String}
    {t : Tree}
    (hFound : members.lookup (some name) = some t) :
    ∃ v, valueWithin? depth t = some v ∧
      values.lookup name = some v := by
  induction hMeans with
  | nil => cases hFound
  | @cons m n rest others hFirst hRest ih =>
      rcases m with ⟨k, u⟩
      rcases n with ⟨l, w⟩
      rcases hFirst with ⟨hName, hValue⟩
      dsimp only at hName hValue
      rw [hName, List.lookup_cons] at hFound
      rw [Value.lookup_cons_eq_ite]
      by_cases hSame : name = l
      · rw [hSame, beq_self_eq_true] at hFound
        cases hFound
        exact ⟨w, hValue, if_pos hSame⟩
      · rw [if_neg hSame]
        apply ih
        have hOther : (some name == some l) = false :=
          beq_eq_false_iff_ne.mpr fun h => hSame (Option.some.inj h)
        rw [hOther] at hFound
        exact hFound

/- A text that an object holds is a member of its value. -/
theorem member?_of_said?
    {t : Tree}
    {name text : String}
    {v : Value}
    (hSaid : t.said? name = some text)
    (hValue : t.value? = some v) :
    v.member? name = some (.text text) := by
  cases t with
  | object members =>
      rcases Option.bind_eq_some_iff.mp hSaid with
        ⟨u, hFound, hText⟩
      rw [value?, deepest, valueWithin?] at hValue
      rcases Option.map_eq_some_iff.mp hValue with
        ⟨values, hMembers, rfl⟩
      have hMeans :=
        (forall₂_of_membersWithin? hMembers)
      rcases exists_lookup_of_forall₂
          (List.forall₂_reverse_iff.mpr hMeans) hFound with
        ⟨w, hMeant, hMember⟩
      rw [Value.member?, Value.lookup_sortMembers_reverse,
        hMember]
      cases u with
      | text s =>
          rw [text?] at hText
          rw [hText, valueWithin?] at hMeant
          exact hMeant.symm
      | _ => cases hText
  | _ => cases hSaid

end Tree

end Json

namespace Provider.Reply

variable {r : Reply}
variable {t : Json.Tree}
variable {field text : String}

/- A reply tells the text in its error field, if it has a value. -/
theorem errorMessage_of_said?
    (hBody : Json.Tree.parse? r.body = some t)
    (hSaid : t.said? field = some text)
    (hValue : t.value?.isSome = true) :
    r.errorMessage field = text := by
  rcases Option.isSome_iff_exists.mp hValue with ⟨v, hSome⟩
  have hParse : Json.Value.parse? r.body = some v := by
    rw [Json.Value.parse?, hBody]
    exact hSome
  refine errorMessage_of_holds (v := .text text)
    (holds_iff.mpr ?_) rfl
  rw [hParse, Option.bind_some]
  exact Json.Tree.member?_of_said? hSaid hSome

/- Without a value, it tells the beginning of its body. -/
theorem errorMessage_of_value?_eq_none
    (hBody : Json.Tree.parse? r.body = some t)
    (hValue : t.value? = none) :
    r.errorMessage field = r.excerpt := by
  apply errorMessage_eq_excerpt
  rintro ⟨v, hHolds, _⟩
  rw [holds_iff, Json.Value.parse?, hBody, Option.bind_some,
    hValue] at hHolds
  cases hHolds

/- A reply that is read as nothing is malformed. -/
theorem read_eq_malformed_iff
    {α : Type}
    {read? : Json.Tree → Option α}
    (hBody : Json.Tree.parse? r.body = some t) :
    r.read read? = .error r.malformed ↔ read? t = none := by
  rw [read, hBody, Option.bind_some]
  cases read? t with
  | none => simp
  | some a => simp

end Provider.Reply

namespace Wallet

------------------------------------------------------------
-- Errors That Are Passed On
------------------------------------------------------------

/- An error instead of a balance is told in its own words. -/
theorem resultOf?_balance_of_isError
    {w : Wallet}
    {r : Reply}
    (hProvider : w.client?.isSome = true)
    (hError : r.isError = true) :
    w.balance.resultOf? [.reply r] =
      some (.failed (r.errorMessage w.errorField)) := by
  cases w with
  | lnbits v =>
      have hRead :
          Lnbits.readBalance v.client.endpoint r =
            .error (r.providerError Lnbits.errorField) :=
        if_pos hError
      exact congrArg (some ∘ BalanceAnswer.ofExcept) hRead
  | lnpay v =>
      have hRead :
          Lnpay.readBalance r =
            .error (r.providerError Lnpay.errorField) :=
        if_pos hError
      exact congrArg (some ∘ BalanceAnswer.ofExcept) hRead
  | zbd v =>
      have hRead :
          Zbd.readBalance r =
            .error (r.providerError Zbd.errorField) :=
        if_pos hError
      exact congrArg (some ∘ BalanceAnswer.ofExcept) hRead
  | memory l => cases hProvider

/- So is one instead of a new invoice. -/
theorem resultOf?_createInvoice_of_passesOn
    {w : Wallet}
    {random : List UInt8}
    {q : InvoiceRequest}
    {r : Reply}
    (hProvider : w.client?.isSome = true)
    (hPasses : w.PassesOn r (.createInvoice random q)) :
    (w.createInvoice random q).resultOf? [.reply r] =
      some (.failed (r.errorMessage w.errorField), w) := by
  cases w with
  | lnbits v =>
      have hRead :
          Lnbits.readInvoice r =
            .ok (.failed (r.errorMessage Lnbits.errorField)) :=
        if_pos hPasses
      exact congrArg
        (fun x => some (InvoiceAnswer.ofExcept x, lnbits v)) hRead
  | lnpay v =>
      have hRead :
          Lnpay.readInvoice r =
            .ok (.failed (r.errorMessage Lnpay.errorField)) :=
        if_pos hPasses
      exact congrArg
        (fun x => some (InvoiceAnswer.ofExcept x, lnpay v)) hRead
  | zbd v =>
      rcases hPasses with ⟨hTaken, hError⟩
      have hRead :
          Zbd.readInvoice r =
            .ok (.failed (r.errorMessage Zbd.errorField)) :=
        if_pos hError
      rcases charge_cases v q with
        ⟨message, hRefusal, _⟩ | ⟨_, call, hOnce⟩
      · rw [hTaken] at hRefusal
        cases hRefusal
      · rw [createInvoice, hOnce]
        exact congrArg
          (fun x => some (InvoiceAnswer.ofExcept x, zbd v)) hRead
  | memory l => cases hProvider

/- And one instead of a payment. -/
theorem resultOf?_payInvoice_of_passesOn
    {w : Wallet}
    {random : List UInt8}
    {paymentRequest : String}
    {r : Reply}
    (hProvider : w.client?.isSome = true)
    (hPasses : w.PassesOn r (.payInvoice random paymentRequest)) :
    (w.payInvoice random paymentRequest).resultOf? [.reply r] =
      some (.failed (r.errorMessage w.errorField), w) := by
  cases w with
  | lnbits v =>
      have hRead :
          Lnbits.readSent r =
            .ok (.refused (r.errorMessage Lnbits.errorField)) :=
        if_pos hPasses
      rw [payInvoice, Dialogue.resultOf?_map, Lnbits.payInvoice,
        Dialogue.resultOf?, Client.receive, Except.bind, hRead]
      rfl
  | lnpay v =>
      rcases hPasses with ⟨⟨tx, hTx⟩, hError⟩
      have hRead :
          Lnpay.readPayment r =
            .ok (.failed (r.errorMessage Lnpay.errorField)) := by
        simp only [Lnpay.readPayment, hTx, if_pos hError]
      exact congrArg
        (fun x => some (PaymentAnswer.ofExcept x, lnpay v)) hRead
  | zbd v =>
      rcases hPasses with ⟨hTaken, hError⟩
      rcases payment_cases v paymentRequest with
        ⟨message, hRefusal, _⟩ | ⟨_, call, hash, hOnce⟩
      · rw [hTaken] at hRefusal
        cases hRefusal
      · have hRead :
            Zbd.readPayment hash r =
              .ok (.failed (r.errorMessage Zbd.errorField)) :=
          if_pos hError
        rw [payInvoice, hOnce]
        exact congrArg
          (fun x => some (PaymentAnswer.ofExcept x, zbd v)) hRead
  | memory l => cases hProvider

/-
  Every error that an operation passes on is told in the words
  of the reply.
-/
theorem answers_of_passesOn
    {w : Wallet}
    {o : Operation}
    {r : Reply}
    (hProvider : w.client?.isSome = true)
    (hPasses : w.PassesOn r o) :
    ∃ a : Answer, a.IsRefusal ∧
      a.failure? = some (r.errorMessage w.errorField) ∧
      (o.answers w).resultOf? [.reply r] = some a := by
  cases o with
  | balance =>
      refine ⟨_, .balance (r.errorMessage w.errorField), rfl, ?_⟩
      exact resultOf?_answers rfl
        (resultOf?_balance_of_isError hProvider hPasses) rfl
  | createInvoice random q =>
      refine ⟨_, .invoice (r.errorMessage w.errorField), rfl, ?_⟩
      exact resultOf?_answers rfl
        (resultOf?_createInvoice_of_passesOn hProvider hPasses) rfl
  | payInvoice random paymentRequest =>
      refine ⟨_, .payment (r.errorMessage w.errorField), rfl, ?_⟩
      exact resultOf?_answers rfl
        (resultOf?_payInvoice_of_passesOn hProvider hPasses) rfl
  | invoiceStatus id => cases hPasses
  | paymentStatus id => cases hPasses
  | close => cases hPasses

------------------------------------------------------------
-- Errors That Are Not Seen
------------------------------------------------------------

/-
  Whether the status of a reply is never looked at: LNPay's
  wallet wants the body of a reply to a payment to hold a
  transaction, or none, in any case.
-/
def Misreads
    (w : Wallet)
    (t : Json.Tree) : Operation → Prop
  | .payInvoice _ _ =>
      (∃ v, w = .lnpay v) ∧ Lnpay.withdrawal? t = none
  | _ => False

/- What is misread is told as malformed. -/
theorem answers_of_misreads
    {w : Wallet}
    {o : Operation}
    {r : Reply}
    {t : Json.Tree}
    (hBody : Json.Tree.parse? r.body = some t)
    (hMisreads : w.Misreads t o) :
    ∃ a : Answer, a.IsRefusal ∧
      a.failure? = some r.malformed.message ∧
      (o.answers w).resultOf? [.reply r] = some a := by
  cases o with
  | payInvoice random paymentRequest =>
      rcases hMisreads with ⟨⟨v, rfl⟩, hUnread⟩
      have hRead : Lnpay.readPayment r = .error r.malformed := by
        simp only [Lnpay.readPayment,
          (Reply.read_eq_malformed_iff hBody).mpr hUnread]
      have hResult :
          ((lnpay v).payInvoice random paymentRequest).resultOf?
              [.reply r] =
            some (.failed r.malformed.message, lnpay v) :=
        congrArg
          (fun x => some (PaymentAnswer.ofExcept x, lnpay v)) hRead
      refine ⟨_, .payment r.malformed.message, rfl, ?_⟩
      exact resultOf?_answers rfl hResult rfl
  | _ => cases hMisreads

------------------------------------------------------------
-- Errors of the Provider
------------------------------------------------------------

/-
  Whether an operation gets through to the provider: it makes a
  call, and the client of the wallet sends it.
-/
def GetsThrough
    (w : Wallet)
    (o : Operation) : Prop :=
  ∃ c call, w.client? = some c ∧
    (o.answers w).callsOf [] = [call] ∧ c.sent call true ≠ []

/- A reply to its call is what the operation is told. -/
theorem result_run_of_getsThrough
    {w : Wallet}
    {o : Operation}
    {r : Reply}
    {a : Answer}
    (hThrough : w.GetsThrough o)
    (hResult : (o.answers w).resultOf? [.reply r] = some a)
    (later : List Behaviour) :
    (w.run (o.answers w) ⟨true, .answers r :: later⟩).result =
      some a := by
  rcases hThrough with ⟨c, call, hClient, hCall, hSent⟩
  rw [run, hClient]
  cases hDialogue : o.answers w with
  | done b =>
      rw [hDialogue] at hCall
      cases hCall
  | ask first next =>
      rw [hDialogue] at hCall hResult
      cases hCall
      have hOpen : c.closed = false := by
        apply eq_false_of_ne_true
        intro hClosed
        exact hSent (if_pos hClosed)
      rcases c.sent_eq_nil_or call true with
        hNone | ⟨q, url, _, hRequest⟩
      · exact absurd hNone hSent
      · have hRun :
            ((Dialogue.ask call next).run c
              ⟨true, .answers r :: later⟩).result =
              ((next (.reply r)).run c ⟨true, later⟩).result :=
          Dialogue.result_run_ask hOpen hRequest rfl later
        refine hRun.trans ?_
        -- No second call, or the reply would not be enough.
        change (next (.reply r)).resultOf? [] = some a at hResult
        cases hNext : next (.reply r) with
        | done b =>
            rw [hNext] at hResult
            exact hResult
        | ask second further =>
            rw [hNext] at hResult
            cases hResult

/-
  Of an operation that makes a call, an error is passed on or
  not seen.
-/
theorem passesOn_of_isError
    {w : Wallet}
    {o : Operation}
    {r : Reply}
    {t : Json.Tree}
    (hReports : o.reports = true)
    (hCalls : (o.answers w).callsOf [] ≠ [])
    (hError : r.isError = true)
    (hBody : Json.Tree.parse? r.body = some t)
    (hSeen : ¬w.Misreads t o) :
    w.PassesOn r o := by
  cases o with
  | balance => exact hError
  | createInvoice random q =>
      cases w with
      | lnpay v =>
          intro hCreated
          have hStatus := r.isError_iff.mp hError
          rw [hCreated, Lnpay.created] at hStatus
          omega
      | zbd v =>
          rcases charge_cases v q with
            ⟨message, _, hDone⟩ | ⟨hTaken, _⟩
          · refine absurd ?_ hCalls
            rw [Operation.answers, Operation.dialogue,
              createInvoice, hDone]
            rfl
          · exact ⟨hTaken, hError⟩
      | _ => exact hError
  | payInvoice random paymentRequest =>
      cases w with
      | lnpay v =>
          cases hTx : Lnpay.withdrawal? t with
          | none => exact absurd ⟨⟨v, rfl⟩, hTx⟩ hSeen
          | some tx =>
              refine ⟨⟨tx, ?_⟩, hError⟩
              simp only [Reply.read, hBody, Option.bind_some, hTx]
      | zbd v =>
          rcases payment_cases v paymentRequest with
            ⟨message, _, hDone⟩ | ⟨hTaken, _⟩
          · refine absurd ?_ hCalls
            rw [Operation.answers, Operation.dialogue,
              payInvoice, hDone]
            rfl
          · exact ⟨hTaken, hError⟩
      | _ => exact hError
  | _ => cases hReports

/-
  For every wallet, every balance, new invoice and payment that
  gets through to the provider, and every reply whose status is
  an error and whose body is an object with a text in the error
  field, whatever else is in the object: the operation fails,
  and what it fails with is that text.

  Where it is not, the body does not mean anything, as another
  member of it has no value, and its beginning is told; or the
  wallet at LNPay has taken the body for the reply to a payment
  that it is not, and calls it malformed.
-/
theorem provider_messages_told
    {w : Wallet}
    {o : Operation}
    {r : Reply}
    {t : Json.Tree}
    {text : String}
    (hReports : o.reports = true)
    (hThrough : w.GetsThrough o)
    (hStatus : 400 ≤ r.status ∧ r.status < 600)
    (hBody : Json.Tree.parse? r.body = some t)
    (hSaid : t.said? w.errorField = some text)
    (later : List Behaviour) :
    ∃ a : Answer,
      (w.run (o.answers w) ⟨true, .answers r :: later⟩).result =
        some a ∧
      a.IsRefusal ∧
      (¬w.Misreads t o → t.value?.isSome = true →
        a.failure? = some text) ∧
      (¬w.Misreads t o → t.value? = none →
        a.failure? = some r.excerpt) ∧
      (w.Misreads t o →
        a.failure? = some r.malformed.message) := by
  have hError : r.isError = true := r.isError_iff.mpr hStatus
  have hGoes := hThrough
  rcases hThrough with ⟨c, call, hClient, hCall, hSent⟩
  by_cases hMisreads : w.Misreads t o
  · rcases answers_of_misreads hBody hMisreads with
      ⟨a, hRefusal, hMessage, hResult⟩
    exact ⟨a, result_run_of_getsThrough hGoes hResult later,
      hRefusal, fun hSeen => absurd hMisreads hSeen,
      fun hSeen => absurd hMisreads hSeen, fun _ => hMessage⟩
  · have hProvider : w.client?.isSome = true := by
      rw [hClient]
      rfl
    have hCalls : (o.answers w).callsOf [] ≠ [] := by
      rw [hCall]
      exact List.cons_ne_nil _ _
    have hPasses :=
      passesOn_of_isError hReports hCalls hError hBody hMisreads
    rcases answers_of_passesOn hProvider hPasses with
      ⟨a, hRefusal, hMessage, hResult⟩
    refine ⟨a, result_run_of_getsThrough hGoes hResult later,
      hRefusal, fun _ hValue => ?_, fun _ hNone => ?_,
      fun hSame => absurd hSame hMisreads⟩
    · rw [hMessage, Reply.errorMessage_of_said? hBody hSaid hValue]
    · rw [hMessage,
        Reply.errorMessage_of_value?_eq_none hBody hNone]

/- LNPay refuses a payment and says why, beside a number. -/
def refused : Reply :=
  ⟨400, "\x7b\"message\":\"no\",\"code\":5\x7d"⟩

/- It refuses it with the number in place of a transaction. -/
def misread : Reply :=
  ⟨400, "\x7b\"message\":\"no\",\"lnTx\":5\x7d"⟩

/- The client of the wallet there. -/
def lnpayClient : Client :=
  ⟨"https://lnpay.example", "x-api-key", "key", "agent", false⟩

/- A payment gets through to LNPay. -/
theorem payInvoice_getsThrough :
    atLnpay.GetsThrough (.payInvoice [] "") := by
  have hSent :
      lnpayClient.sent
        ⟨.post (Lnpay.paymentBody ""), "wallet/waka/withdraw",
          none⟩ true ≠ [] := by
    decide +kernel
  exact ⟨lnpayClient, _, rfl, rfl, hSent⟩

/- The first is told in the words of the service. -/
theorem provider_messages_told_of_refused :
    (Operation.payInvoice [] "").reports = true ∧
      atLnpay.GetsThrough (.payInvoice [] "") ∧
      (400 ≤ refused.status ∧ refused.status < 600) ∧
      ∃ t a, Json.Tree.parse? refused.body = some t ∧
        t.said? atLnpay.errorField = some "no" ∧
        (atLnpay.run ((Operation.payInvoice [] "").answers atLnpay)
          ⟨true, [.answers refused]⟩).result = some a ∧
        a.failure? = some "no" := by
  have hStatus : 400 ≤ refused.status ∧ refused.status < 600 := by
    decide
  have hSaid :
      (Json.Tree.parse? refused.body).bind
        (Json.Tree.said? atLnpay.errorField) = some "no" := by
    decide +kernel
  have hRead :
      ((Json.Tree.parse? refused.body).bind
        Lnpay.withdrawal?).isSome = true := by
    decide +kernel
  have hValue :
      ((Json.Tree.parse? refused.body).bind
        Json.Tree.value?).isSome = true := by
    decide +kernel
  rcases Option.bind_eq_some_iff.mp hSaid with ⟨t, hBody, hText⟩
  rw [hBody] at hRead hValue
  have hSeen : ¬atLnpay.Misreads t (.payInvoice [] "") := by
    rintro ⟨_, hNone⟩
    rw [Option.bind_some, hNone] at hRead
    cases hRead
  rcases provider_messages_told (o := .payInvoice [] "") rfl
      payInvoice_getsThrough hStatus hBody hText [] with
    ⟨a, hResult, _, hTold, _⟩
  exact ⟨rfl, payInvoice_getsThrough, hStatus, t, a, hBody, hText,
    hResult, hTold hSeen hValue⟩

/- The second is not, although the body has the same text. -/
theorem not_all_provider_messages_told :
    ¬∀ (w : Wallet) (o : Operation) (r : Reply) (text : String),
      o.reports = true → w.GetsThrough o →
      400 ≤ r.status ∧ r.status < 600 →
      (Json.Tree.parse? r.body).bind
        (Json.Tree.said? w.errorField) = some text →
      ∃ a : Answer,
        (w.run (o.answers w) ⟨true, [.answers r]⟩).result =
          some a ∧
        a.failure? = some text := by
  intro hTold
  have hMalformed :
      ((Operation.payInvoice [] "").answers atLnpay).resultOf?
          [.reply misread] =
        some (.payment (.failed misread.malformed.message)) := by
    decide +kernel
  rcases hTold atLnpay (.payInvoice [] "") misread "no" rfl
      payInvoice_getsThrough (by decide) (by decide +kernel) with
    ⟨a, hResult, hText⟩
  rw [result_run_of_getsThrough payInvoice_getsThrough
    hMalformed []] at hResult
  cases hResult
  have hOther :
      (Answer.payment
        (.failed misread.malformed.message)).failure? ≠
        some "no" := by
    decide +kernel
  exact hOther hText

end Wallet

end LightningGateway
