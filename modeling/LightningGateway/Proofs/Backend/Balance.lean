import LightningGateway.Proofs.Backend.Charging
import LightningGateway.Proofs.Backend.Lookup
import LightningGateway.Proofs.Payment.Decimal

/-
  Balances and amounts, which are exact or refused.

  A wallet reports the balance that its provider's reply holds,
  converted to thousandths of a satoshi, or it reports an error.
  The amount of an invoice is converted in the same way, and
  what cannot be converted is not asked for.

  Key definitions include:
    * `Wallet.Holds`
    * `Wallet.Reports`
    * `Wallet.balanceIn?`

  Main results:
    * `Wallet.holds_iff`
    * `Wallet.known?_balance`
    * `Wallet.amounts_exact`
-/

namespace LightningGateway

open Backend Payment Provider

------------------------------------------------------------
-- Answers
------------------------------------------------------------

/- The balance of an answer, unless it reports an error. -/
def Payment.BalanceAnswer.known?
    (a : BalanceAnswer) : Option Msat :=
  match a.errorMessage with
  | none => some a.balance
  | some _ => none

/- A balance is known if there is no error. -/
theorem Payment.BalanceAnswer.known?_eq_some_iff
    {a : BalanceAnswer}
    {b : Msat} :
    a.known? = some b ↔ a.errorMessage = none ∧ a.balance = b := by
  rcases a with ⟨_ | message, balance⟩ <;> simp [known?]

/- A query that has failed gives no balance. -/
theorem Payment.BalanceAnswer.known?_ofExcept
    (x : Except GatewayError BalanceAnswer) :
    (ofExcept x).known? = x.toOption.bind known? := by
  cases x <;> rfl

------------------------------------------------------------
-- Amounts in Requests
------------------------------------------------------------

/-
  A request charges an amount if its body is a JSON document
  that has a text for it.
-/
def Provider.Request.Charges
    (q : Request)
    (n : Int) : Prop :=
  ∃ body v text, q.body = some body ∧
    Json.Value.parse? body = some v ∧
    v.member? "amount" = some (.text text) ∧
    Spells text.toList n

namespace Wallet

------------------------------------------------------------
-- Balances in Bodies
------------------------------------------------------------

/-
  The balance that the body of a reply holds, in thousandths of
  a satoshi, by the fields of the provider:

    * at LNbits, a number;
    * at LNPay, a number of satoshis, of a wallet whose status
      is `active`;
    * at ZBD, a number or a text.
-/
inductive Holds : Wallet → Json.Tree → Int → Prop
  | lnbits
      {v : Lnbits}
      {t : Json.Tree}
      {n : Int}
      (hNumber : Lnbits.balanceFields.GivesNumber t "balance" n) :
      Holds (.lnbits v) t n
  | lnpay
      {v : Lnpay}
      {t u : Json.Tree}
      {sat : Int}
      (hNumber : Lnpay.walletFields.GivesNumber t "balance" sat)
      (hStatus : Lnpay.walletFields.Gives t "statusType" u)
      (hActive : Lnpay.statusFields.GivesText u "name" "active") :
      Holds (.lnpay v) t (sat * 1000)
  | zbd
      {v : Zbd}
      {t u : Json.Tree}
      {n : Int}
      (hData :
        (Zbd.envelopeFields Zbd.balanceFields).Gives t "data" u)
      (hAmount : Zbd.GivesAmount Zbd.balanceFields u "balance" n) :
      Holds (.zbd v) t n

/-
  A reply reports a balance if its status is no error, its body
  holds the balance, and the balance is in range.
-/
def Reports
    (w : Wallet)
    (o : Outcome)
    (n : Int) : Prop :=
  ∃ r t, o = .reply r ∧
    ¬(400 ≤ r.status ∧ r.status < 600) ∧
    Json.Tree.parse? r.body = some t ∧
    w.Holds t n ∧
    -Msat.bound ≤ n ∧ n < Msat.bound

/- The balance that a wallet reads in a body. -/
def balanceIn?
    (w : Wallet)
    (t : Json.Tree) : Option Msat :=
  match w with
  | .lnbits _ => (Lnbits.balance? t).join
  | .lnpay _ =>
      (Lnpay.walletInfo? t).bind fun info =>
        if info.statusText = Lnpay.active then
          info.balance.bind Msat.ofSat?
        else none
  | .zbd _ =>
      (Zbd.envelope? Zbd.balance? t).bind fun data =>
        data.join.bind Zbd.WrittenAmount.value?
  | .memory _ => none

/- The balance that an LNbits wallet reads is the one held. -/
theorem lnbits_holds_iff
    {v : Lnbits}
    {t : Json.Tree}
    {b : Msat} :
    (lnbits v).balanceIn? t = some b ↔
      (lnbits v).Holds t b.value := by
  rw [balanceIn?, Option.join_eq_some_iff,
    Lnbits.balance?_eq_some_some_iff]
  constructor
  · exact .lnbits
  · rintro (hNumber | _)
    exact hNumber

/- A wallet at LNPay is active if that is its status. -/
theorem statusText_eq_active_iff {info : Lnpay.WalletInfo} :
    info.statusText = Lnpay.active ↔
      info.status = some (some "active") := by
  rcases info with ⟨id, label, balance, _ | _ | name⟩ <;>
    simp [Lnpay.WalletInfo.statusText, Lnpay.active]

/- The balance that an LNPay wallet reads is the one held. -/
theorem lnpay_holds_iff
    {v : Lnpay}
    {t : Json.Tree}
    {b : Msat} :
    (lnpay v).balanceIn? t = some b ↔
      (lnpay v).Holds t b.value := by
  simp only [balanceIn?, Option.bind_eq_some_iff,
    Option.ite_none_right_eq_some, statusText_eq_active_iff,
    Msat.ofSat?, Msat.ofInt?_eq_some_iff]
  constructor
  · rintro ⟨info, hRead, hActive, sat, hBalance, hMsat⟩
    rcases Lnpay.walletInfo?_gives hRead with ⟨hNumber, hName⟩
    rcases (hName "active").mp hActive with ⟨u, hStatus, hText⟩
    rw [hMsat]
    exact .lnpay ((hNumber sat).mp hBalance).1 hStatus hText
  · intro hHolds
    generalize hValue : b.value = n at hHolds
    cases hHolds with
    | @lnpay _ _ u sat hNumber hStatus hActive =>
        rcases Option.isSome_iff_exists.mp
            ((Lnpay.walletInfo?_isSome_iff t).mpr
              hStatus.admits) with ⟨info, hRead⟩
        rcases Lnpay.walletInfo?_gives hRead with
          ⟨hBalance, hName⟩
        have hRange :=
          hNumber.inRange (by simp [Lnpay.walletFields])
        exact ⟨info, hRead,
          (hName "active").mpr ⟨u, hStatus, hActive⟩, sat,
          (hBalance sat).mpr ⟨hNumber, hRange⟩, rfl⟩

/- The balance that a ZBD wallet reads is the one held. -/
theorem zbd_holds_iff
    {v : Zbd}
    {t : Json.Tree}
    {b : Msat} :
    (zbd v).balanceIn? t = some b ↔
      (zbd v).Holds t b.value := by
  simp only [balanceIn?, Option.bind_eq_some_iff,
    Option.join_eq_some_iff]
  constructor
  · rintro ⟨_, hTold, a, rfl, hValue⟩
    rcases (Zbd.envelope?_eq_some_some_iff
        Zbd.balance?_isSome_iff).mp hTold with
      ⟨u, hData, hBalance⟩
    exact .zbd hData
      (Zbd.exists_balance?_iff.mp ⟨a, hBalance, hValue⟩)
  · intro hHolds
    generalize hSame : b.value = n at hHolds
    cases hHolds with
    | zbd hData hAmount =>
        rw [← hSame] at hAmount
        rcases Zbd.exists_balance?_iff.mpr hAmount with
          ⟨a, hBalance, hValue⟩
        exact ⟨_, (Zbd.envelope?_eq_some_some_iff
          Zbd.balance?_isSome_iff).mpr ⟨_, hData, hBalance⟩, a,
          rfl, hValue⟩

/- The balance that a wallet reads in a body is the one held. -/
theorem holds_iff
    {w : Wallet}
    {t : Json.Tree}
    {b : Msat} :
    w.balanceIn? t = some b ↔ w.Holds t b.value := by
  cases w with
  | lnbits v => exact lnbits_holds_iff
  | lnpay v => exact lnpay_holds_iff
  | zbd v => exact zbd_holds_iff
  | memory l =>
      constructor
      · intro hSome
        cases hSome
      · intro hHolds
        cases hHolds

------------------------------------------------------------
-- Balances of Outcomes
------------------------------------------------------------

/- A balance is reported that a usable body holds, in range. -/
theorem reports_iff
    {w : Wallet}
    {o : Outcome}
    {n : Int} :
    w.Reports o n ↔
      ∃ b, o.tree?.bind w.balanceIn? = some b ∧ b.value = n := by
  constructor
  · rintro ⟨r, t, hReply, hUsable, hTree, hHolds, hRange⟩
    have hBody : o.tree? = some t :=
      Outcome.tree?_eq_some_iff.mpr ⟨r, hReply, hUsable, hTree⟩
    refine ⟨⟨n, hRange.1, hRange.2⟩, ?_, rfl⟩
    rw [hBody, Option.bind_some]
    exact holds_iff.mpr hHolds
  · rintro ⟨b, hSome, rfl⟩
    rcases Option.bind_eq_some_iff.mp hSome with
      ⟨t, hBody, hRead⟩
    rcases Outcome.tree?_eq_some_iff.mp hBody with
      ⟨r, hReply, hUsable, hTree⟩
    exact ⟨r, t, hReply, hUsable, hTree, holds_iff.mp hRead,
      b.lower, b.upper⟩

/- What is known after an outcome, if errors are refused. -/
theorem known?_of_outcome
    {w : Wallet}
    {c : Client}
    {read : Reply → Except GatewayError BalanceAnswer}
    (hError : ∀ r, r.isError = true →
      (read r).toOption.bind BalanceAnswer.known? = none)
    (hUsable : ∀ r, r.isError = false →
      (read r).toOption.bind BalanceAnswer.known? =
        (Json.Tree.parse? r.body).bind w.balanceIn?)
    (o : Outcome) :
    (BalanceAnswer.ofExcept ((c.receive o).bind read)).known? =
      o.tree?.bind w.balanceIn? := by
  rw [BalanceAnswer.known?_ofExcept]
  cases o with
  | reply r =>
      rw [Outcome.tree?]
      cases hStatus : r.isError with
      | true => exact hError r hStatus
      | false => exact hUsable r hStatus
  | failed f => rfl
  | closed => rfl

/- A balance is asked for in one call that may not take forever. -/
theorem balance_eq_once
    {w : Wallet}
    (hProvider : w.client?.isSome = true) :
    ∃ call read, call.limit.isSome = true ∧
      w.balance = .once call read ∧
      ∀ o, (read o).known? = o.tree?.bind w.balanceIn? := by
  cases w with
  | lnbits v =>
      refine ⟨_, _, rfl, rfl, known?_of_outcome ?_ ?_⟩
      · intro r hError
        rw [Lnbits.readBalance, if_pos hError]
        rfl
      · intro r hUsable
        rw [Lnbits.readBalance, if_neg (by simp [hUsable]),
          Reply.read]
        cases Json.Tree.parse? r.body with
        | none => rfl
        | some t =>
            simp only [Option.bind_some, balanceIn?]
            rcases Lnbits.balance? t with _ | _ | b <;> rfl
  | lnpay v =>
      refine ⟨_, _, rfl, rfl, known?_of_outcome ?_ ?_⟩
      · intro r hError
        rw [Lnpay.readBalance, if_pos hError]
        rfl
      · intro r hUsable
        rw [Lnpay.readBalance, if_neg (by simp [hUsable]),
          Reply.read]
        cases Json.Tree.parse? r.body with
        | none => rfl
        | some t =>
            simp only [Option.bind_some, balanceIn?]
            cases Lnpay.walletInfo? t with
            | none => rfl
            | some info =>
                by_cases hActive :
                    info.statusText = Lnpay.active
                · simp only [Option.bind_some, if_pos hActive]
                  cases info.balance.bind Msat.ofSat? <;> rfl
                · simp only [Option.bind_some, if_neg hActive]
                  rfl
  | zbd v =>
      refine ⟨_, _, rfl, rfl, known?_of_outcome ?_ ?_⟩
      · intro r hError
        rw [Zbd.readBalance, if_pos hError]
        rfl
      · intro r hUsable
        rw [Zbd.readBalance, if_neg (by simp [hUsable]),
          Reply.read]
        cases Json.Tree.parse? r.body with
        | none => rfl
        | some t =>
            simp only [Option.bind_some, balanceIn?]
            rcases Zbd.envelope? Zbd.balance? t with
              _ | _ | _ | a
            · rfl
            · rfl
            · rfl
            · simp only [Option.bind_some, Option.join_some]
              cases a.value? <;> rfl
  | memory l => cases hProvider

/- No error is reported if the reply reports a balance. -/
theorem errorMessage_eq_none_iff
    {w : Wallet}
    {o : Outcome}
    {a : BalanceAnswer}
    (hKnown : a.known? = o.tree?.bind w.balanceIn?) :
    a.errorMessage = none ↔ ∃ n, w.Reports o n := by
  simp only [reports_iff, ← hKnown,
    BalanceAnswer.known?_eq_some_iff]
  constructor
  · intro hNone
    exact ⟨_, _, ⟨hNone, rfl⟩, rfl⟩
  · rintro ⟨n, b, ⟨hNone, _⟩, _⟩
    exact hNone

/- The balance of an answer is the one that the reply reports. -/
theorem value_of_reports
    {w : Wallet}
    {o : Outcome}
    {a : BalanceAnswer}
    {n : Int}
    (hKnown : a.known? = o.tree?.bind w.balanceIn?)
    (hReports : w.Reports o n) :
    a.balance.value = n := by
  rcases reports_iff.mp hReports with ⟨b, hSome, rfl⟩
  rw [← hKnown, BalanceAnswer.known?_eq_some_iff] at hSome
  rw [hSome.2]

------------------------------------------------------------
-- Amounts of Invoices
------------------------------------------------------------

/- The amount of a request is the exact one. -/
theorem amount_eq_ok_iff
    {r : InvoiceRequest}
    {a : Msat} :
    r.amount = .ok a ↔
      a.value = (r.amountSat.toNat : Int) * 1000 := by
  have hConverted :
      Msat.ofSat? r.amountSat.toNat = some a ↔
        a.value = (r.amountSat.toNat : Int) * 1000 :=
    Msat.ofInt?_eq_some_iff
  rw [← hConverted, InvoiceRequest.amount]
  cases Msat.ofSat? r.amountSat.toNat with
  | none => simp
  | some b => simp

/- What ZBD is asked to charge is the exact amount. -/
theorem charges_of_mem
    {v : Zbd}
    {random : List UInt8}
    {r : InvoiceRequest}
    {script : Script}
    {q : Request}
    (hMem : q ∈ (zbd v).invoiceRequests random r script) :
    q.Charges ((r.amountSat.toNat : Int) * 1000) := by
  rcases (zbd v).createInvoice_posts random r script with
    hNone | ⟨p, hOne, hPosts⟩
  · rw [hNone] at hMem
    cases hMem
  · rw [hOne] at hMem
    cases List.mem_singleton.mp hMem
    rcases hPosts.exists_document with
      ⟨body, document, hBody, hParse, hTerms⟩
    refine ⟨body, document, _, hBody, hParse,
      hTerms "amount", ?_⟩
    have hText := spells_toString (r.amountSat.toNat * 1000)
    rwa [Int.natCast_mul] at hText

/- A wallet that converts the amount of an invoice. -/
def Converts : Wallet → Prop
  | .zbd _ => True
  | .memory _ => True
  | _ => False

/- An amount out of range is refused on the spot. -/
theorem createInvoice_of_outOfRange
    {w : Wallet}
    {r : InvoiceRequest}
    (hConverts : w.Converts)
    (random : List UInt8)
    (hLarge : Msat.bound ≤ (r.amountSat.toNat : Int) * 1000) :
    ∃ message,
      w.createInvoice random r = .done (.failed message, w) := by
  cases hAmount : r.amount with
  | ok a =>
      have hSmall := r.exists_amount_iff.mp ⟨a, hAmount⟩
      exact absurd hSmall (Int.not_lt.mpr hLarge)
  | error e =>
      cases w with
      | lnbits v => cases hConverts
      | lnpay v => cases hConverts
      | zbd v =>
          rw [createInvoice, Zbd.createInvoice, hAmount]
          split <;> exact ⟨_, rfl⟩
      | memory l =>
          rw [createInvoice, Ledger.createInvoice, hAmount]
          exact ⟨_, rfl⟩

/-
  For every wallet with a provider and every way in which the
  call may end: no error is reported exactly if the reply
  reports a balance, and the balance is then this number.
  Whatever the provider does, the call ends in one of these
  ways.

  The amount of a request for an invoice is a thousand times
  its satoshis, if that is in range, and this is what ZBD is
  asked to charge; otherwise the wallets that need it fail
  without a request, and as they were.
-/
theorem amounts_exact
    (w : Wallet)
    (random : List UInt8)
    (r : InvoiceRequest)
    (hProvider : w.client?.isSome = true) :
    (∀ o, ∃ a, w.balance.resultOf? [o] = some a ∧
      (a.errorMessage = none ↔ ∃ n, w.Reports o n) ∧
      ∀ n, w.Reports o n → a.balance.value = n) ∧
    (∀ script, ∃ o a,
      (w.run w.balance script).result = some a ∧
        w.balance.resultOf? [o] = some a) ∧
    (∀ a, r.amount = .ok a ↔
      a.value = (r.amountSat.toNat : Int) * 1000) ∧
    ((∃ a, r.amount = .ok a) ↔
      (r.amountSat.toNat : Int) * 1000 < Msat.bound) ∧
    (∀ v script q,
      q ∈ (zbd v).invoiceRequests random r script →
      q.Charges ((r.amountSat.toNat : Int) * 1000)) ∧
    (∀ v script, (zbd v).Takes r →
      (zbd v).Reaches (zbd v).invoicePath script →
      (zbd v).invoiceRequests random r script ≠ []) ∧
    (Msat.bound ≤ (r.amountSat.toNat : Int) * 1000 →
      ∀ v : Wallet, v.Converts →
      ∃ message, ∀ script,
        v.run (v.createInvoice random r) script =
          ⟨some (.failed message, v), [], 0, script⟩) := by
  rcases balance_eq_once hProvider with
    ⟨call, read, hLimit, hOnce, hKnown⟩
  refine ⟨?_, ?_, fun a => amount_eq_ok_iff,
    r.exists_amount_iff, fun v script q => charges_of_mem,
    fun v script => createInvoice_sends random, ?_⟩
  · intro o
    have hResult : w.balance.resultOf? [o] = some (read o) := by
      rw [hOnce]
      rfl
    exact ⟨read o, hResult,
      errorMessage_eq_none_iff (hKnown o),
      fun n => value_of_reports (hKnown o)⟩
  · intro script
    rcases Option.isSome_iff_exists.mp hProvider with
      ⟨c, hClient⟩
    rcases Dialogue.exists_outcome c call read hLimit script with
      ⟨o, hEnd⟩
    refine ⟨o, read o, ?_, ?_⟩
    · rw [run, hClient, hOnce]
      exact hEnd
    · rw [hOnce]
      rfl
  · intro hLarge v hConverts
    rcases createInvoice_of_outOfRange hConverts random hLarge
      with ⟨message, hDone⟩
    refine ⟨message, fun script => ?_⟩
    rw [hDone, run]
    cases v.client? <;> rfl

/-
  Balances that the providers tell, and what they come to; the
  last one is the smallest amount, between blanks.
-/
def toldBalances : List (Wallet × Reply × Int) :=
  [(watching, ⟨200, "\x7b\"balance\":-7\x7d"⟩, -7),
   (counting, ⟨200, "\x7b\"balance\":3," ++
      "\"statusType\":\x7b\"name\":\"active\"\x7d\x7d"⟩, 3000),
   (charging, ⟨200, "\x7b\"data\":\x7b\"balance\":" ++
      "\" -9223372036854775808 \"\x7d\x7d"⟩, -Msat.bound)]

/- LNPay tells the balance of a wallet that is not active. -/
def dormant : Reply :=
  ⟨200, "\x7b\"balance\":3," ++
    "\"statusType\":\x7b\"name\":\"frozen\"\x7d\x7d"⟩

/- One satoshi more than can be asked for. -/
def excessive : InvoiceRequest :=
  .ofSat 9223372036854776

/-
  The balances are reported, but not that of a wallet that is
  not active; a large amount is refused.
-/
theorem amounts_exact_of_toldBalances :
    (∀ b ∈ toldBalances,
      b.1.client?.isSome = true ∧
        b.1.Reports (.reply b.2.1) b.2.2 ∧
        ∃ a, b.1.balance.resultOf? [.reply b.2.1] = some a ∧
          a.errorMessage = none ∧ a.balance.value = b.2.2) ∧
      (∃ a, counting.balance.resultOf? [.reply dormant] =
          some a ∧ a.errorMessage ≠ none) ∧
      ∃ message, ∀ script,
        charging.run (charging.createInvoice [] excessive)
            script =
          ⟨some (.failed message, charging), [], 0, script⟩ := by
  refine ⟨?_, ?_, ?_⟩
  · have hTold :
        ∀ b ∈ toldBalances,
          b.1.client?.isSome = true ∧
            (b.1.balance.resultOf? [.reply b.2.1]).map (fun a =>
                (a.errorMessage, a.balance.value)) =
              some (none, b.2.2) := by
      decide +kernel
    rintro ⟨w, r, n⟩ hMem
    rcases hTold _ hMem with ⟨hProvider, hAnswer⟩
    rcases Option.map_eq_some_iff.mp hAnswer with
      ⟨a, hResult, hFound⟩
    rcases Prod.ext_iff.mp hFound with ⟨hNone, hValue⟩
    rcases (amounts_exact w [] excessive hProvider).1 (.reply r)
      with ⟨b, hSame, hNone', hReported⟩
    rw [hResult] at hSame
    cases hSame
    rcases hNone'.mp hNone with ⟨m, hReports⟩
    have hOnly : m = n :=
      (hReported m hReports).symm.trans hValue
    exact ⟨hProvider, hOnly ▸ hReports, a, hResult, hNone,
      hValue⟩
  · have hTold :
        (counting.balance.resultOf? [.reply dormant]).map
            (·.errorMessage.isSome) = some true := by
      decide +kernel
    rcases Option.map_eq_some_iff.mp hTold with
      ⟨a, hResult, hError⟩
    refine ⟨a, hResult, fun hNone => ?_⟩
    rw [hNone] at hError
    cases hError
  · rcases amounts_exact charging [] excessive rfl with
      ⟨_, _, _, _, _, _, hRefused⟩
    exact hRefused (by decide) charging trivial

end Wallet

end LightningGateway
