import LightningGateway.Proofs.Backend.Closing
import LightningGateway.Proofs.Backend.Submission
import LightningGateway.Proofs.Provider.Quotation

/-
  When a failure says nothing.

  Whatever goes wrong with a balance, a new invoice or a payment
  becomes the wording of an answer.  A wallet's own words are
  never empty.  A provider's are passed on as they are: its own
  message if the body of its reply has one, else the beginning
  of the body.

  Key definitions include:
    * `Reply.IsSilent`
    * `Wallet.Answer.failure?`
    * `Wallet.PassesOn`

  Main results:
    * `GatewayError.message_eq_empty_iff`
    * `Reply.errorMessage_eq_empty_iff`
    * `Wallet.failures_worded_iff`
-/

namespace LightningGateway

open Backend Payment Provider

------------------------------------------------------------
-- Empty Texts
------------------------------------------------------------

/- Of all errors only a provider's may have nothing to say. -/
theorem Payment.GatewayError.message_eq_empty_iff
    {e : GatewayError} :
    e.message = "" ↔ ∃ status, e = .provider status "" := by
  cases e with
  | closed => exact iff_of_false nofun nofun
  | streamTaken => exact iff_of_false nofun nofun
  | _ =>
      unfold message
      simp

namespace Json

/- A real number that is written has a character at least. -/
theorem Real.chars_ne_nil (x : Decimal.Double) :
    chars x ≠ [] := by
  have hDigits (n : Nat) : digitChars n ≠ [] :=
    Nat.toDigits_ne_nil
  have hShortest (s : Decimal.Shortest) :
      shortestChars s ≠ [] := by
    unfold shortestChars
    dsimp only
    split
    · simp
    · split
      · simp
      · split
        · simp
        · split
          · rename_i hNil
            exact absurd hNil (hDigits _)
          · simp
          · simp
  unfold chars
  dsimp only
  split
  · simp
  · split
    · simp
    · exact hShortest _

/- A value that is written has a character at least. -/
theorem Value.render_ne_empty (v : Value) :
    v.render ≠ "" := by
  have hChars : v.chars ≠ [] := by
    cases v with
    | bool b => cases b <;> simp [chars]
    | int n =>
        unfold chars intChars
        split
        · simp
        · exact Nat.toDigits_ne_nil
    | real x =>
        unfold chars
        exact Real.chars_ne_nil x
    | _ => simp [chars, quote]
  unfold render
  simpa using hChars

end Json

namespace Provider.Reply

/-
  Whether a reply has nothing to say about an error: its body is
  empty, or the provider's message in it is.
-/
def IsSilent
    (r : Reply)
    (field : String) : Prop :=
  r.body = "" ∨
    (Json.Value.parse? r.body).bind (·.member? field) =
      some (.text "")

/- Only an empty text is shown as nothing. -/
theorem plainText?_eq_empty_iff
    {v : Json.Value} :
    plainText? v = some "" ↔ v = .text "" := by
  cases v with
  | null => simp [plainText?]
  | text s => simp [plainText?]
  | _ => simp [plainText?, Json.Value.render_ne_empty]

/- A reply passes nothing on only if it has nothing to say. -/
theorem errorMessage_eq_empty_iff
    {r : Reply}
    {field : String} :
    r.errorMessage field = "" ↔ r.IsSilent field := by
  by_cases hTold : ∃ v, r.Holds field v ∧ v ≠ .null
  · rcases hTold with ⟨v, hHolds, hValue⟩
    have hMember := holds_iff.mp hHolds
    -- An empty body has no members.
    have hBody : r.body ≠ "" := by
      intro hEmpty
      rw [hEmpty, show Json.Value.parse? "" = none by
        decide +kernel] at hMember
      cases hMember
    rcases Option.ne_none_iff_exists'.mp
        (mt plainText?_eq_none_iff.mp hValue) with
      ⟨message, hText⟩
    rw [errorMessage_of_holds hHolds hText, IsSilent,
      or_iff_right hBody, hMember, Option.some.injEq,
      ← plainText?_eq_empty_iff, hText, Option.some.injEq]
  · have hUntold :
        (Json.Value.parse? r.body).bind (·.member? field) ≠
          some (.text "") :=
      fun hMember => hTold ⟨_, holds_iff.mpr hMember, nofun⟩
    rw [errorMessage_eq_excerpt hTold, IsSilent,
      or_iff_left hUntold]
    exact Text.excerpt_eq_empty_iff

end Provider.Reply

/- The error of a body that cannot be used has words of its own. -/
theorem Provider.Reply.message_malformed_ne_empty (r : Reply) :
    r.malformed.message ≠ "" := by
  exact mt GatewayError.message_eq_empty_iff.mp nofun

/- So has the error of a body that cannot be read. -/
theorem Provider.Reply.message_ne_empty_of_read
    {α : Type}
    {r : Reply}
    {read? : Json.Tree → Option α}
    {e : GatewayError}
    (hRead : r.read read? = .error e) :
    e.message ≠ "" := by
  unfold Reply.read at hRead
  split at hRead
  · cases hRead
  · cases hRead
    exact r.message_malformed_ne_empty

------------------------------------------------------------
-- Reading Replies
------------------------------------------------------------

namespace Payment

/- A balance fails without words only if its error has none. -/
theorem BalanceAnswer.errorMessage_ne_empty
    {e : GatewayError}
    (hWords : e.message ≠ "") :
    (ofExcept (.error e)).errorMessage ≠ some "" :=
  fun hEmpty => hWords (Option.some.inj hEmpty)

/- So does a new invoice. -/
theorem InvoiceAnswer.errorMessage?_ne_empty
    {e : GatewayError}
    (hWords : e.message ≠ "") :
    (ofExcept (.error e)).errorMessage? ≠ some "" :=
  fun hEmpty => hWords (Option.some.inj hEmpty)

/- So does a payment. -/
theorem PaymentAnswer.errorMessage?_ne_empty
    {e : GatewayError}
    (hWords : e.message ≠ "") :
    (ofExcept (.error e)).errorMessage? ≠ some "" :=
  fun hEmpty => hWords (Option.some.inj hEmpty)

end Payment

/-
  What is told without words, if it is what a provider says in
  one case, and never without words in any other.
-/
theorem eq_empty_iff_of_cases
    {c : Prop}
    {words : String}
    {told : Option String}
    (hPassed : c → told = some words)
    (hOther : ¬c → told ≠ some "") :
    told = some "" ↔ c ∧ words = "" := by
  by_cases hCase : c
  · rw [hPassed hCase, Option.some.injEq]
    exact (and_iff_right hCase).symm
  · exact iff_of_false (hOther hCase) fun hBoth => hCase hBoth.1

namespace Backend

/- A balance at LNbits that is told without words. -/
theorem Lnbits.readBalance_eq_empty_iff
    (endpoint : String)
    (r : Reply) :
    (BalanceAnswer.ofExcept (readBalance endpoint r)).errorMessage =
        some "" ↔
      r.isError = true ∧ r.errorMessage errorField = "" := by
  refine eq_empty_iff_of_cases ?_ ?_
  · intro hError
    rw [readBalance, if_pos hError]
    rfl
  · intro hUsable
    rw [readBalance, if_neg hUsable]
    split
    · exact (Option.some_ne_none "").symm
    · have hWords : noBalance endpoint r ≠ "" := by
        unfold noBalance
        simp
      exact fun hEmpty => hWords (Option.some.inj hEmpty)

/- A balance at LNPay that is told without words. -/
theorem Lnpay.readBalance_eq_empty_iff (r : Reply) :
    (BalanceAnswer.ofExcept (readBalance r)).errorMessage =
        some "" ↔
      r.isError = true ∧ r.errorMessage errorField = "" := by
  refine eq_empty_iff_of_cases ?_ ?_
  · intro hError
    rw [readBalance, if_pos hError]
    rfl
  · intro hUsable
    rw [readBalance, if_neg hUsable]
    cases hRead : r.read walletInfo? with
    | error e =>
        exact BalanceAnswer.errorMessage_ne_empty
          (Reply.message_ne_empty_of_read hRead)
    | ok info =>
        dsimp only
        split
        · split
          · exact (Option.some_ne_none "").symm
          · exact BalanceAnswer.errorMessage_ne_empty
              r.message_malformed_ne_empty
        · have hWords : info.inactive ≠ "" := by
            unfold WalletInfo.inactive
            simp
          exact fun hEmpty => hWords (Option.some.inj hEmpty)

/- A balance at ZBD that is told without words. -/
theorem Zbd.readBalance_eq_empty_iff (r : Reply) :
    (BalanceAnswer.ofExcept (readBalance r)).errorMessage =
        some "" ↔
      r.isError = true ∧ r.errorMessage errorField = "" := by
  refine eq_empty_iff_of_cases ?_ ?_
  · intro hError
    rw [readBalance, if_pos hError]
    rfl
  · intro hUsable
    rw [readBalance, if_neg hUsable]
    cases hRead : r.read (envelope? balance?) with
    | error e =>
        exact BalanceAnswer.errorMessage_ne_empty
          (Reply.message_ne_empty_of_read hRead)
    | ok data =>
        dsimp only
        split
        · exact (Option.some_ne_none "").symm
        · exact BalanceAnswer.errorMessage_ne_empty
            r.message_malformed_ne_empty

/- What LNbits reads as no balance comes with a zero. -/
theorem Lnbits.balance_eq_zero_of_read
    {endpoint : String}
    {r : Reply}
    {a : BalanceAnswer}
    (hRead : readBalance endpoint r = .ok a)
    (hFailed : a.errorMessage ≠ none) :
    a.balance = .zero := by
  unfold readBalance at hRead
  split at hRead
  · cases hRead
  · split at hRead
    · cases hRead
      exact absurd rfl hFailed
    · cases hRead
      rfl

/- What LNPay reads as no balance comes with a zero. -/
theorem Lnpay.balance_eq_zero_of_read
    {r : Reply}
    {a : BalanceAnswer}
    (hRead : readBalance r = .ok a)
    (hFailed : a.errorMessage ≠ none) :
    a.balance = .zero := by
  unfold readBalance at hRead
  split at hRead
  · cases hRead
  · split at hRead
    · cases hRead
    · split at hRead
      · split at hRead
        · cases hRead
          exact absurd rfl hFailed
        · cases hRead
      · cases hRead
        rfl

/- What ZBD reads is a balance, or an error. -/
theorem Zbd.balance_eq_zero_of_read
    {r : Reply}
    {a : BalanceAnswer}
    (hRead : readBalance r = .ok a)
    (hFailed : a.errorMessage ≠ none) :
    a.balance = .zero := by
  unfold readBalance at hRead
  split at hRead
  · cases hRead
  · split at hRead
    · cases hRead
    · split at hRead
      · cases hRead
        exact absurd rfl hFailed
      · cases hRead

/- A body that is to hold an invoice is never without words. -/
theorem Lnbits.wholeInvoice_ne_empty
    (r : Reply)
    (field : String) :
    (InvoiceAnswer.ofExcept
      ((r.read (invoice? field)).bind
        (wholeInvoice r))).errorMessage? ≠ some "" := by
  cases hRead : r.read (invoice? field) with
  | error e =>
      exact InvoiceAnswer.errorMessage?_ne_empty
        (Reply.message_ne_empty_of_read hRead)
  | ok parts =>
      change (InvoiceAnswer.ofExcept
        (wholeInvoice r parts)).errorMessage? ≠ some ""
      unfold wholeInvoice
      split
      · exact (Option.some_ne_none "").symm
      · exact InvoiceAnswer.errorMessage?_ne_empty
          r.message_malformed_ne_empty

/- A new invoice at LNbits that is refused without words. -/
theorem Lnbits.readInvoice_eq_empty_iff (r : Reply) :
    (InvoiceAnswer.ofExcept (readInvoice r)).errorMessage? =
        some "" ↔
      r.isError = true ∧ r.errorMessage errorField = "" := by
  refine eq_empty_iff_of_cases ?_ ?_
  · intro hError
    rw [readInvoice, if_pos hError]
    rfl
  · intro hUsable
    rw [readInvoice, if_neg hUsable]
    exact wholeInvoice_ne_empty r _

/- A new invoice at LNPay that is refused without words. -/
theorem Lnpay.readInvoice_eq_empty_iff (r : Reply) :
    (InvoiceAnswer.ofExcept (readInvoice r)).errorMessage? =
        some "" ↔
      r.status ≠ created ∧ r.errorMessage errorField = "" := by
  refine eq_empty_iff_of_cases ?_ ?_
  · intro hOther
    rw [readInvoice, if_pos hOther]
    rfl
  · intro hCreated
    rw [readInvoice, if_neg hCreated]
    exact Lnbits.wholeInvoice_ne_empty r _

/- A new invoice at ZBD that is refused without words. -/
theorem Zbd.readInvoice_eq_empty_iff (r : Reply) :
    (InvoiceAnswer.ofExcept (readInvoice r)).errorMessage? =
        some "" ↔
      r.isError = true ∧ r.errorMessage errorField = "" := by
  refine eq_empty_iff_of_cases ?_ ?_
  · intro hError
    rw [readInvoice, if_pos hError]
    rfl
  · intro hUsable
    rw [readInvoice, if_neg hUsable]
    split
    · rename_i e hRead
      exact InvoiceAnswer.errorMessage?_ne_empty
        (Reply.message_ne_empty_of_read hRead)
    · exact (Option.some_ne_none "").symm
    · exact InvoiceAnswer.errorMessage?_ne_empty
        r.message_malformed_ne_empty

/- Why LNbits has not accepted a payment. -/
def Lnbits.sentFailure? : Except GatewayError Sent → Option String
  | .error e => some e.message
  | .ok (.refused message) => some message
  | .ok (.accepted _) => none

/- A payment at LNbits that is refused without words. -/
theorem Lnbits.readSent_eq_empty_iff (r : Reply) :
    sentFailure? (readSent r) = some "" ↔
      r.isError = true ∧ r.errorMessage errorField = "" := by
  refine eq_empty_iff_of_cases ?_ ?_
  · intro hError
    rw [readSent, if_pos hError]
    rfl
  · intro hUsable
    rw [readSent, if_neg hUsable]
    split
    · exact (Option.some_ne_none "").symm
    · exact fun hEmpty =>
        r.message_malformed_ne_empty (Option.some.inj hEmpty)

/- A payment fails at LNbits exactly if it was not accepted. -/
theorem Lnbits.errorMessage?_of_afterSent
    {w : Lnbits}
    {x : Except GatewayError Sent}
    {rest : List Outcome}
    {a : PaymentAnswer}
    (hResult : (w.afterSent x).resultOf? rest = some a) :
    a.errorMessage? = sentFailure? x := by
  cases x with
  | error e =>
      cases hResult
      rfl
  | ok sent =>
      cases sent with
      | refused message =>
          cases hResult
          rfl
      | accepted hash =>
          rcases Dialogue.exists_of_resultOf?_map hResult with
            ⟨status, hStatus, rfl⟩
          rfl

/- A payment at LNPay that is refused without words. -/
theorem Lnpay.readPayment_eq_empty_iff (r : Reply) :
    (PaymentAnswer.ofExcept (readPayment r)).errorMessage? =
        some "" ↔
      ((∃ tx, r.read withdrawal? = .ok tx) ∧ r.isError = true) ∧
        r.errorMessage errorField = "" := by
  refine eq_empty_iff_of_cases ?_ ?_
  · rintro ⟨⟨tx, hRead⟩, hError⟩
    simp only [readPayment, hRead, if_pos hError]
    rfl
  · intro hNot
    cases hRead : r.read withdrawal? with
    | error e =>
        simp only [readPayment, hRead]
        exact PaymentAnswer.errorMessage?_ne_empty
          (Reply.message_ne_empty_of_read hRead)
    | ok tx =>
        have hUsable : ¬r.isError = true :=
          fun hError => hNot ⟨⟨tx, hRead⟩, hError⟩
        simp only [readPayment, hRead, if_neg hUsable]
        split
        · exact (Option.some_ne_none "").symm
        · exact PaymentAnswer.errorMessage?_ne_empty
            r.message_malformed_ne_empty

/- A payment at ZBD that is refused without words. -/
theorem Zbd.readPayment_eq_empty_iff
    (hash : String)
    (r : Reply) :
    (PaymentAnswer.ofExcept (readPayment hash r)).errorMessage? =
        some "" ↔
      r.isError = true ∧ r.errorMessage errorField = "" := by
  refine eq_empty_iff_of_cases ?_ ?_
  · intro hError
    rw [readPayment, if_pos hError]
    rfl
  · intro hUsable
    rw [readPayment, if_neg hUsable]
    split
    · rename_i e hRead
      exact PaymentAnswer.errorMessage?_ne_empty
        (Reply.message_ne_empty_of_read hRead)
    · exact PaymentAnswer.errorMessage?_ne_empty
        r.message_malformed_ne_empty
    · rename_i fee preimage hRead
      unfold outgoingFee
      split
      · exact (Option.some_ne_none "").symm
      · split
        · exact (Option.some_ne_none "").symm
        · exact PaymentAnswer.errorMessage?_ne_empty
            r.message_malformed_ne_empty

end Backend

------------------------------------------------------------
-- Calls
------------------------------------------------------------

namespace Provider

/-
  Where every error is told, what comes of a call is told without
  words only if the call ends in a reply that is passed on and
  has nothing to say.
-/
theorem Client.bind_receive_eq_empty_iff
    {α : Type}
    {tell : Except GatewayError α → Option String}
    {read : Reply → Except GatewayError α}
    {passes : Reply → Prop}
    {field : String}
    (hTell : ∀ e, tell (.error e) = some e.message)
    (hRead :
      ∀ r, tell (read r) = some "" ↔
        passes r ∧ r.errorMessage field = "")
    (c : Client)
    (o : Outcome)
    (rest : List Outcome) :
    tell ((c.receive o).bind read) = some "" ↔
      ∃ r later, o :: rest = .reply r :: later ∧
        passes r ∧ r.IsSilent field := by
  have hWords (e : GatewayError) (hEmpty : e.message ≠ "") :
      tell (.error e) ≠ some "" := by
    rw [hTell]
    exact fun hSome => hEmpty (Option.some.inj hSome)
  cases o with
  | reply r =>
      change tell (read r) = some "" ↔ _
      rw [hRead, Reply.errorMessage_eq_empty_iff]
      constructor
      · intro hPassed
        exact ⟨r, rest, rfl, hPassed⟩
      · rintro ⟨other, later, hSame, hPassed⟩
        cases hSame
        exact hPassed
  | failed f =>
      refine iff_of_false (hWords (.transport _ _) ?_) nofun
      exact mt GatewayError.message_eq_empty_iff.mp nofun
  | closed =>
      refine iff_of_false (hWords .closed ?_) nofun
      exact mt GatewayError.message_eq_empty_iff.mp nofun

/- So it is with a dialogue of one call. -/
theorem Dialogue.once_eq_empty_iff
    {α β : Type}
    {fold : Except GatewayError α → β}
    {tell : β → Option String}
    {read : Reply → Except GatewayError α}
    {passes : Reply → Prop}
    {field : String}
    (hTell : ∀ e, tell (fold (.error e)) = some e.message)
    (hRead :
      ∀ r, tell (fold (read r)) = some "" ↔
        passes r ∧ r.errorMessage field = "")
    {c : Client}
    {call : Call}
    {outcomes : List Outcome}
    {b : β}
    (hResult :
      (Dialogue.once call fun o =>
        fold ((c.receive o).bind read)).resultOf? outcomes =
        some b) :
    tell b = some "" ↔
      ∃ r rest, outcomes = .reply r :: rest ∧
        passes r ∧ r.IsSilent field := by
  have hFold (e : GatewayError) :
      (tell ∘ fold) (.error e) = some e.message :=
    hTell e
  cases outcomes with
  | nil => cases hResult
  | cons o rest =>
      cases hResult
      exact Client.bind_receive_eq_empty_iff hFold hRead c o rest

/-
  If no reply is read as a balance beside an error, no call is
  told as one.
-/
theorem Dialogue.balance_eq_zero_of_once
    {c : Client}
    {call : Call}
    {read : Reply → Except GatewayError BalanceAnswer}
    {outcomes : List Outcome}
    {b : BalanceAnswer}
    (hRead :
      ∀ r a, read r = .ok a → a.errorMessage ≠ none →
        a.balance = .zero)
    (hResult :
      (Dialogue.once call fun o =>
        BalanceAnswer.ofExcept
          ((c.receive o).bind read)).resultOf? outcomes =
        some b)
    (hFailed : b.errorMessage ≠ none) :
    b.balance = .zero := by
  cases outcomes with
  | nil => cases hResult
  | cons o rest =>
      cases hResult
      cases o with
      | reply r =>
          change (BalanceAnswer.ofExcept (read r)).errorMessage ≠
            none at hFailed
          change (BalanceAnswer.ofExcept (read r)).balance = .zero
          cases hAnswer : read r with
          | error e => rfl
          | ok a =>
              rw [hAnswer] at hFailed
              exact hRead r a hAnswer hFailed
      | failed f => rfl
      | closed => rfl

end Provider

namespace Wallet

/- Why an operation has failed, if it has. -/
def Answer.failure? : Answer → Option String
  | .balance a => a.errorMessage
  | .invoice a => a.errorMessage?
  | .payment a => a.errorMessage?
  | .status _ => none
  | .closed => none

/- The field in which a provider explains errors. -/
def errorField : Wallet → String
  | .lnbits _ => Lnbits.errorField
  | .lnpay _ => Lnpay.errorField
  | .zbd _ => Zbd.errorField
  | .memory _ => ""

/-
  Whether a wallet passes on what a reply to its first call says
  about an error.  LNPay wants a certain status of a new invoice
  and a readable body of a payment; ZBD is not asked at all for
  what its wallet refuses by itself.
-/
def PassesOn
    (w : Wallet)
    (r : Reply) : Operation → Prop
  | .balance => r.isError = true
  | .createInvoice _ q =>
      match w with
      | .lnpay _ => r.status ≠ Lnpay.created
      | .zbd _ => chargeRefusal? q = none ∧ r.isError = true
      | _ => r.isError = true
  | .payInvoice _ paymentRequest =>
      match w with
      | .lnpay _ =>
          (∃ tx, r.read Lnpay.withdrawal? = .ok tx) ∧
            r.isError = true
      | .zbd _ =>
          paymentRefusal? paymentRequest = none ∧
            r.isError = true
      | _ => r.isError = true
  | _ => False

------------------------------------------------------------
-- Operations
------------------------------------------------------------

/- A balance that is told without words. -/
theorem balance_eq_empty_iff
    {w : Wallet}
    {outcomes : List Outcome}
    {b : BalanceAnswer}
    (hProvider : w.client?.isSome = true)
    (hResult : w.balance.resultOf? outcomes = some b) :
    b.errorMessage = some "" ↔
      ∃ r rest, outcomes = .reply r :: rest ∧
        r.isError = true ∧ r.IsSilent w.errorField := by
  cases w with
  | memory l => cases hProvider
  | lnbits v =>
      exact Dialogue.once_eq_empty_iff (fun e => rfl)
        (Lnbits.readBalance_eq_empty_iff _) hResult
  | lnpay v =>
      exact Dialogue.once_eq_empty_iff (fun e => rfl)
        Lnpay.readBalance_eq_empty_iff hResult
  | zbd v =>
      exact Dialogue.once_eq_empty_iff (fun e => rfl)
        Zbd.readBalance_eq_empty_iff hResult

/- What ZBD's wallet refuses by itself, it refuses in words. -/
theorem chargeRefusal?_ne_empty (q : InvoiceRequest) :
    chargeRefusal? q ≠ some "" := by
  unfold chargeRefusal?
  split
  · nofun
  · split
    · intro hEmpty
      have hText := Option.some.inj hEmpty
      simp at hText
    · nofun

/- So with the invoices that it cannot read. -/
theorem paymentRefusal?_ne_empty (paymentRequest : String) :
    paymentRefusal? paymentRequest ≠ some "" := by
  unfold paymentRefusal?
  split
  · intro hEmpty
    have hText := Option.some.inj hEmpty
    simp at hText
  · nofun

/- What is refused in words has nothing to do with a reply. -/
theorem eq_empty_iff_of_refusal
    {refusal? : Option String}
    {message field : String}
    {outcomes : List Outcome}
    (hRefusal : refusal? = some message)
    (hWords : refusal? ≠ some "") :
    some message = some "" ↔
      ∃ r rest, outcomes = .reply r :: rest ∧
        (refusal? = none ∧ r.isError = true) ∧
        r.IsSilent field := by
  rw [hRefusal] at hWords
  refine iff_of_false hWords ?_
  rintro ⟨r, rest, hOutcomes, ⟨hNone, hError⟩, hSilent⟩
  rw [hRefusal] at hNone
  cases hNone

/- A new invoice that is refused without words. -/
theorem createInvoice_eq_empty_iff
    {w next : Wallet}
    {random : List UInt8}
    {q : InvoiceRequest}
    {outcomes : List Outcome}
    {a : InvoiceAnswer}
    (hProvider : w.client?.isSome = true)
    (hResult :
      (w.createInvoice random q).resultOf? outcomes =
        some (a, next)) :
    a.errorMessage? = some "" ↔
      ∃ r rest, outcomes = .reply r :: rest ∧
        w.PassesOn r (.createInvoice random q) ∧
        r.IsSilent w.errorField := by
  cases w with
  | memory l => cases hProvider
  | lnbits v =>
      rcases Dialogue.exists_of_resultOf?_map hResult with
        ⟨b, hAnswer, hPair⟩
      cases hPair
      exact Dialogue.once_eq_empty_iff (fun e => rfl)
        Lnbits.readInvoice_eq_empty_iff hAnswer
  | lnpay v =>
      rcases Dialogue.exists_of_resultOf?_map hResult with
        ⟨b, hAnswer, hPair⟩
      cases hPair
      exact Dialogue.once_eq_empty_iff (fun e => rfl)
        Lnpay.readInvoice_eq_empty_iff hAnswer
  | zbd v =>
      rcases Dialogue.exists_of_resultOf?_map hResult with
        ⟨b, hAnswer, hPair⟩
      cases hPair
      rcases charge_cases v q with
        ⟨message, hRefusal, hDone⟩ | ⟨hRefusal, call, hOnce⟩
      · rw [hDone] at hAnswer
        cases hAnswer
        exact eq_empty_iff_of_refusal hRefusal
          (chargeRefusal?_ne_empty q)
      · rw [hOnce] at hAnswer
        simp only [PassesOn, hRefusal, true_and]
        exact Dialogue.once_eq_empty_iff (fun e => rfl)
          Zbd.readInvoice_eq_empty_iff hAnswer

/- A payment that is refused without words. -/
theorem payInvoice_eq_empty_iff
    {w next : Wallet}
    {random : List UInt8}
    {paymentRequest : String}
    {outcomes : List Outcome}
    {a : PaymentAnswer}
    (hProvider : w.client?.isSome = true)
    (hResult :
      (w.payInvoice random paymentRequest).resultOf? outcomes =
        some (a, next)) :
    a.errorMessage? = some "" ↔
      ∃ r rest, outcomes = .reply r :: rest ∧
        w.PassesOn r (.payInvoice random paymentRequest) ∧
        r.IsSilent w.errorField := by
  cases w with
  | memory l => cases hProvider
  | lnbits v =>
      rcases Dialogue.exists_of_resultOf?_map hResult with
        ⟨b, hAnswer, hPair⟩
      cases hPair
      cases outcomes with
      | nil => cases hAnswer
      | cons o rest =>
          -- What is looked up after a payment was accepted does
          -- not count any more.
          rw [Lnbits.errorMessage?_of_afterSent hAnswer]
          exact Client.bind_receive_eq_empty_iff (fun e => rfl)
            Lnbits.readSent_eq_empty_iff v.client o rest
  | lnpay v =>
      rcases Dialogue.exists_of_resultOf?_map hResult with
        ⟨b, hAnswer, hPair⟩
      cases hPair
      exact Dialogue.once_eq_empty_iff (fun e => rfl)
        Lnpay.readPayment_eq_empty_iff hAnswer
  | zbd v =>
      rcases Dialogue.exists_of_resultOf?_map hResult with
        ⟨b, hAnswer, hPair⟩
      cases hPair
      rcases payment_cases v paymentRequest with
        ⟨message, hRefusal, hDone⟩ |
          ⟨hRefusal, call, hash, hOnce⟩
      · rw [hDone] at hAnswer
        cases hAnswer
        exact eq_empty_iff_of_refusal hRefusal
          (paymentRefusal?_ne_empty paymentRequest)
      · rw [hOnce] at hAnswer
        simp only [PassesOn, hRefusal, true_and]
        exact Dialogue.once_eq_empty_iff (fun e => rfl)
          (Zbd.readPayment_eq_empty_iff hash) hAnswer

/- Beside an error no balance is told. -/
theorem balance_eq_zero
    {w : Wallet}
    {outcomes : List Outcome}
    {b : BalanceAnswer}
    (hProvider : w.client?.isSome = true)
    (hResult : w.balance.resultOf? outcomes = some b)
    (hFailed : b.errorMessage ≠ none) :
    b.balance = .zero := by
  cases w with
  | memory l => cases hProvider
  | lnbits v =>
      exact Dialogue.balance_eq_zero_of_once
        (fun r a => Lnbits.balance_eq_zero_of_read) hResult hFailed
  | lnpay v =>
      exact Dialogue.balance_eq_zero_of_once
        (fun r a => Lnpay.balance_eq_zero_of_read) hResult hFailed
  | zbd v =>
      exact Dialogue.balance_eq_zero_of_once
        (fun r a => Zbd.balance_eq_zero_of_read) hResult hFailed

/- What never fails passes nothing on. -/
theorem failure?_eq_empty_iff_of_none
    {a : Answer}
    {passes : Reply → Prop}
    {field : String}
    {outcomes : List Outcome}
    (hNone : a.failure? = none)
    (hNever : ∀ r, ¬passes r) :
    a.failure? = some "" ↔
      ∃ r rest, outcomes = .reply r :: rest ∧
        passes r ∧ r.IsSilent field := by
  refine iff_of_false ?_ ?_
  · rw [hNone]
    nofun
  · rintro ⟨r, rest, hOutcomes, hPassed, hSilent⟩
    exact hNever r hPassed

/-
  For every wallet with a provider, every operation and all that
  its calls end in: a balance is zero beside an error, and an
  operation fails without words exactly if the first call ends
  in a reply whose error it passes on, and that has nothing to
  say.
-/
theorem failures_worded_iff
    {w : Wallet}
    {o : Operation}
    {outcomes : List Outcome}
    {a : Answer}
    (hProvider : w.client?.isSome = true)
    (hResult : (o.answers w).resultOf? outcomes = some a) :
    (∀ b, a = .balance b → b.errorMessage ≠ none →
      b.balance = .zero) ∧
      (a.failure? = some "" ↔
        ∃ r rest, outcomes = .reply r :: rest ∧
          w.PassesOn r o ∧ r.IsSilent w.errorField) := by
  rcases Dialogue.exists_of_resultOf?_map hResult with
    ⟨⟨answer, next⟩, hDialogue, hAnswer⟩
  cases hAnswer
  cases o with
  | balance =>
      rcases Dialogue.exists_of_resultOf?_map hDialogue with
        ⟨b, hBalance, hPair⟩
      cases hPair
      refine ⟨?_, balance_eq_empty_iff hProvider hBalance⟩
      rintro _ hSame hFailed
      cases hSame
      exact balance_eq_zero hProvider hBalance hFailed
  | createInvoice random q =>
      rcases Dialogue.exists_of_resultOf?_map hDialogue with
        ⟨⟨b, v⟩, hInvoice, hPair⟩
      cases hPair
      exact ⟨fun _ hSame => Answer.noConfusion hSame,
        createInvoice_eq_empty_iff hProvider hInvoice⟩
  | payInvoice random paymentRequest =>
      rcases Dialogue.exists_of_resultOf?_map hDialogue with
        ⟨⟨b, v⟩, hPayment, hPair⟩
      cases hPair
      exact ⟨fun _ hSame => Answer.noConfusion hSame,
        payInvoice_eq_empty_iff hProvider hPayment⟩
  | invoiceStatus id =>
      rcases Dialogue.exists_of_resultOf?_map hDialogue with
        ⟨b, hStatus, hPair⟩
      cases hPair
      exact ⟨fun _ hSame => Answer.noConfusion hSame,
        failure?_eq_empty_iff_of_none rfl fun r hPassed => hPassed⟩
  | paymentStatus id =>
      rcases Dialogue.exists_of_resultOf?_map hDialogue with
        ⟨b, hStatus, hPair⟩
      cases hPair
      exact ⟨fun _ hSame => Answer.noConfusion hSame,
        failure?_eq_empty_iff_of_none rfl fun r hPassed => hPassed⟩
  | close =>
      cases hDialogue
      exact ⟨fun _ hSame => Answer.noConfusion hSame,
        failure?_eq_empty_iff_of_none rfl fun r hPassed => hPassed⟩

/- A wallet at LNbits. -/
def speaking : Wallet :=
  .lnbits ⟨⟨"http://lnbits.test", "x-api-key", "key",
    "funding/0.1.0", false⟩, 5, 8⟩

/- An error whose body is empty. -/
def speechless : Reply := ⟨400, ""⟩

/- A balance without words, which comes with a zero. -/
def wordless : BalanceAnswer := .failed ""

/- It is what comes of that error. -/
theorem resultOf?_speechless :
    (Operation.balance.answers speaking).resultOf?
        [.reply speechless] = some (.balance wordless) := by
  decide +kernel

/- What the reply has to say is what the host is told. -/
theorem failures_worded_iff_of_speechless :
    (Operation.balance.answers speaking).resultOf?
        [.reply speechless] = some (.balance wordless) ∧
      wordless.balance = .zero ∧
      (Answer.balance wordless).failure? = some "" := by
  rcases failures_worded_iff rfl resultOf?_speechless with
    ⟨hZero, hWords⟩
  exact ⟨resultOf?_speechless, hZero wordless rfl nofun,
    hWords.mpr ⟨speechless, [], rfl, rfl, .inl rfl⟩⟩

/- Failures do not always say something. -/
theorem not_all_failures_worded :
    ¬∀ (w : Wallet) (o : Operation)
        (outcomes : List Outcome) (a : Answer),
        w.client?.isSome = true →
        (o.answers w).resultOf? outcomes = some a →
        a.failure? ≠ some "" := by
  intro hWorded
  exact hWorded speaking .balance [.reply speechless]
    (.balance wordless) rfl resultOf?_speechless rfl

end Wallet

end LightningGateway
