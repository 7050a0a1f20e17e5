import LightningGateway.Proofs.Backend.Fee
import LightningGateway.Proofs.Json.Place

/-
  Amounts at ZBD that are written as numbers or as texts.

  A balance or a fee may be written either way.  What a wallet
  makes of a reply does not depend on it: whether the body can
  be read is decided by the rest of the body, and the amount
  that is read is the one that is written.  Only a message that
  quotes the body shows the difference.

  Key definitions include:
    * `Reply.Alike`
    * `Zbd.Exchanges`

  Main results:
    * `Reply.errorMessage_cases`
    * `Zbd.balance?_congr`, `Zbd.payment?_congr`,
      `Zbd.lookup?_congr`
    * `Zbd.Exchanges.envelope?_congr`
    * `Wallet.written_amounts_interchangeable`
-/

namespace LightningGateway

open Backend Payment Provider

------------------------------------------------------------
-- Messages That Quote
------------------------------------------------------------

namespace Provider.Reply

/-
  Two answers are the same, or they are failures that say the
  same before they quote a reply each.
-/
def Alike
    {α : Type}
    (fail : String → α)
    (r s : Reply)
    (a b : α) : Prop :=
  a = b ∨
    ∃ words, a = fail (words ++ r.excerpt) ∧
      b = fail (words ++ s.excerpt)

/- Replies with the same status are errors alike. -/
theorem isError_congr
    {r s : Reply}
    (hStatus : r.status = s.status) :
    r.isError = s.isError := by
  rw [isError, isError, hStatus]

/- Two malformed replies are alike. -/
theorem alike_malformed
    {α : Type}
    (fail : String → α)
    (r s : Reply) :
    Alike fail r s (fail r.malformed.message)
      (fail s.malformed.message) :=
  .inr ⟨"Got invalid JSON: ", rfl, rfl⟩

/-
  Bodies that differ in a place tell one message of another
  field, or nothing but their beginnings.
-/
theorem errorMessage_cases
    {names : List String}
    {name field : String}
    {place : Json.Tree → Json.Tree}
    {r s : Reply}
    {t u : Json.Tree}
    (hPlace : Json.Tree.IsPlace names name place)
    (hField : field ≠ name)
    (hFirst : Json.Tree.parse? r.body = some (place t))
    (hSecond : Json.Tree.parse? s.body = some (place u))
    (hValues :
      ∀ depth, (t.valueWithin? depth).isSome =
        (u.valueWithin? depth).isSome) :
    r.errorMessage field = s.errorMessage field ∨
      (r.errorMessage field = r.excerpt ∧
        s.errorMessage field = s.excerpt) := by
  have hMember :
      ((Json.Value.parse? r.body).bind fun v =>
          (v.member? field).bind plainText?) =
        (Json.Value.parse? s.body).bind fun v =>
          (v.member? field).bind plainText? := by
    simp only [Json.Value.parse?, hFirst, hSecond,
      Option.bind_some, Json.Tree.value?]
    rcases hPlace.valueWithin?_cases Json.Tree.deepest with
      hNone | ⟨inner, around, hSome, hSame⟩
    · rw [hNone, hNone]
    · have hBoth := hValues inner
      rw [hSome, hSome]
      cases hLeft : t.valueWithin? inner with
      | none =>
          rw [hLeft, Option.isSome_none, eq_comm,
            Option.isSome_eq_false_iff, Option.isNone_iff_eq_none]
            at hBoth
          rw [hBoth]
      | some v =>
          rw [hLeft, Option.isSome_some, eq_comm,
            Option.isSome_iff_exists] at hBoth
          rcases hBoth with ⟨w, hRight⟩
          rw [hRight, Option.map_some, Option.map_some,
            Option.bind_some, Option.bind_some,
            hSame field hField v w]
  simp only [errorMessage, hMember]
  split
  · exact .inl rfl
  · exact .inr ⟨rfl, rfl⟩

/- Failures with these messages are alike. -/
theorem alike_errorMessage
    {α : Type}
    {names : List String}
    {name field : String}
    {place : Json.Tree → Json.Tree}
    {r s : Reply}
    {t u : Json.Tree}
    (hPlace : Json.Tree.IsPlace names name place)
    (hField : field ≠ name)
    (hFirst : Json.Tree.parse? r.body = some (place t))
    (hSecond : Json.Tree.parse? s.body = some (place u))
    (fail : String → α)
    (hValues :
      ∀ depth, (t.valueWithin? depth).isSome =
        (u.valueWithin? depth).isSome) :
    Alike fail r s (fail (r.errorMessage field))
      (fail (s.errorMessage field)) := by
  rcases errorMessage_cases hPlace hField hFirst hSecond hValues
    with hSame | ⟨hLeft, hRight⟩
  · exact .inl (congrArg fail hSame)
  · refine .inr ⟨"", ?_, ?_⟩
    · rw [hLeft, String.empty_append]
    · rw [hRight, String.empty_append]

end Provider.Reply

namespace Backend.Zbd

------------------------------------------------------------
-- Numbers and Texts
------------------------------------------------------------

/-
  Two bodies that say the same but for one amount: what the one
  has as a number, the other has as a text that spells it, with
  blanks around it or without.  The amount stands in a record
  with the given fields, in an envelope.
-/
inductive Exchanges
    (fields : List String)
    (name : String)
    (n : Int) : Json.Tree → Json.Tree → Prop
  | intro
      {envelope data : Json.Tree → Json.Tree}
      {m : Json.Numeral}
      {text : String}
      (hEnvelope : Json.Tree.IsPlace ["data"] "data" envelope)
      (hData : Json.Tree.IsPlace fields name data)
      (hNumber : m.Spells n)
      (hText : Text.trim text = toString n) :
      Exchanges fields name n (envelope (data (.number m)))
        (envelope (data (.text (some text))))

/- A text that trims to the text of a number writes it. -/
theorem writes_of_trim
    {text : String}
    {n : Int}
    (hText : Text.trim text = toString n) :
    Writes (.text (some text)) n := by
  have hChars : Text.trimBlank text.toList = (toString n).toList := by
    rw [← hText, Text.trim, String.toList_ofList]
  apply Writes.text
  rw [hChars]
  exact spells_toString_int n

/- An amount in range has a value, however it is written. -/
theorem Writes.isSome_valueWithin?
    {t : Json.Tree}
    {a : Msat}
    (hWrites : Writes t a.value)
    (depth : Nat) :
    (t.valueWithin? depth).isSome = true := by
  generalize hValue : a.value = n at hWrites
  cases hWrites with
  | @number m _ hSpells =>
      rw [← hValue] at hSpells
      have hNumber :=
        Msat.ofJson?_eq_some_iff.mpr ⟨m, rfl, hSpells⟩
      rcases Option.bind_eq_some_iff.mp hNumber with
        ⟨i, hInteger, _⟩
      have hValue : m.value? = some (.int i) := by
        rw [Json.Numeral.value?]
        rw [Json.Tree.int?] at hInteger
        rw [hInteger]
      rw [Json.Tree.valueWithin?, hValue]
      rfl
  | text _ => rfl

------------------------------------------------------------
-- Amounts in Their Places
------------------------------------------------------------

section Places

variable {place : Json.Tree → Json.Tree}
variable {a : Msat}
variable {t u : Json.Tree}

/- What a payment tells, whichever way its fee is written. -/
def paidTerms
    (p : Option WrittenAmount × Option String) :
    Option Msat × Option String :=
  (p.1.bind WrittenAmount.value?, p.2)

/- What a lookup tells, whichever way its fee is written. -/
def Lookup.terms
    (l : Lookup) : Option String × Option String × Option Msat :=
  (l.status, l.preimage, l.fee.bind WrittenAmount.value?)

/- An amount that is put in a record is read there. -/
theorem exists_optional?_put
    {name : String}
    {first : Json.Record}
    (hFirst : ∀ p ∈ first, name ≠ p.1)
    (hWrites : Writes t a.value)
    (last : Json.Record) :
    ∃ w,
      Json.Record.optional? WrittenAmount.ofJson? name
          (first ++ (name, t) :: last) =
        some (some w) ∧
      w.value? = some a := by
  rcases exists_written_iff.mpr hWrites with
    ⟨w, hRead, hValue⟩
  refine ⟨w, ?_, hValue⟩
  exact (Json.Record.optional?_eq_some_some_iff rfl).mpr
    ⟨t, Json.Tree.lookup_put hFirst t last, hRead⟩

/- Two ways to write it are read as one amount. -/
theorem exists_optional?_puts
    {name : String}
    {first : Json.Record}
    (hFirst : ∀ p ∈ first, name ≠ p.1)
    (hLeft : Writes t a.value)
    (hRight : Writes u a.value)
    (last : Json.Record) :
    ∃ v w,
      Json.Record.optional? WrittenAmount.ofJson? name
          (first ++ (name, t) :: last) =
        some (some v) ∧
      Json.Record.optional? WrittenAmount.ofJson? name
          (first ++ (name, u) :: last) =
        some (some w) ∧
      v.value? = w.value? := by
  rcases exists_optional?_put hFirst hLeft last with
    ⟨v, hLeft, hFound⟩
  rcases exists_optional?_put hFirst hRight last with
    ⟨w, hRight, hSame⟩
  exact ⟨v, w, hLeft, hRight, hFound.trans hSame.symm⟩

/- Another field is read as if there were no amount. -/
theorem optional?_put_of_ne
    {name other : String}
    (hOther : other ≠ name)
    (first last : Json.Record)
    (t : Json.Tree) :
    Json.Record.optional? Json.Tree.text? other
        (first ++ (name, t) :: last) =
      (first ++ last).optional? Json.Tree.text? other :=
  Json.Record.optional?_congr
    (Json.Tree.lookup_put_of_ne hOther first last t)

/- A balance does not depend on how it is written. -/
theorem balance?_congr
    (hPlace : Json.Tree.IsPlace ["balance"] "balance" place)
    (hLeft : Writes t a.value)
    (hRight : Writes u a.value) :
    (balance? (place t)).map (·.bind WrittenAmount.value?) =
      (balance? (place u)).map (·.bind WrittenAmount.value?) := by
  rcases hPlace.record?_cases (by decide) (by decide) with
    hNone | ⟨first, last, hFirst, hSome⟩
  · rw [balance?, balance?, hNone, hNone]
  · rcases exists_optional?_puts hFirst hLeft hRight last with
      ⟨v, w, hLeft, hRight, hSame⟩
    simp only [balance?, hSome, hLeft, hRight, hSame,
      Option.bind_eq_bind, Option.bind_some, Option.map_some]

/- Neither does what a payment tells depend on it. -/
theorem payment?_congr
    (hPlace : Json.Tree.IsPlace ["fee", "preimage"] "fee" place)
    (hLeft : Writes t a.value)
    (hRight : Writes u a.value) :
    (payment? (place t)).map paidTerms =
      (payment? (place u)).map paidTerms := by
  rcases hPlace.record?_cases (by decide) (by decide) with
    hNone | ⟨first, last, hFirst, hSome⟩
  · rw [payment?, payment?, hNone, hNone]
  · rcases exists_optional?_puts hFirst hLeft hRight last with
      ⟨v, w, hLeft, hRight, hSame⟩
    simp only [payment?, hSome, hLeft, hRight,
      optional?_put_of_ne (show "preimage" ≠ "fee" by decide),
      Option.bind_eq_bind, Option.bind_some]
    cases (first ++ last).optional? Json.Tree.text? "preimage"
    · rfl
    · simp only [Option.bind_some, Option.map_some, paidTerms,
        hSame]

/- Nor does what a lookup tells. -/
theorem lookup?_congr
    (hPlace :
      Json.Tree.IsPlace ["status", "preimage", "fee"] "fee" place)
    (hLeft : Writes t a.value)
    (hRight : Writes u a.value) :
    (lookup? (place t)).map Lookup.terms =
      (lookup? (place u)).map Lookup.terms := by
  rcases hPlace.record?_cases (by decide) (by decide) with
    hNone | ⟨first, last, hFirst, hSome⟩
  · rw [lookup?, lookup?, hNone, hNone]
  · rcases exists_optional?_puts hFirst hLeft hRight last with
      ⟨v, w, hLeft, hRight, hSame⟩
    simp only [lookup?, hSome, hLeft, hRight,
      optional?_put_of_ne (show "preimage" ≠ "fee" by decide),
      optional?_put_of_ne (show "status" ≠ "fee" by decide),
      Option.bind_eq_bind, Option.bind_some]
    cases (first ++ last).optional? Json.Tree.text? "status"
    · rfl
    · cases (first ++ last).optional? Json.Tree.text? "preimage"
      · rfl
      · simp only [Option.bind_some, Option.map_some,
          Lookup.terms, hSame]

/- An envelope hands on what is told of its data. -/
theorem envelope?_congr
    {α β : Type}
    {read? : Json.Tree → Option α}
    {tell : α → β}
    (hPlace : Json.Tree.IsPlace ["data"] "data" place)
    (hLeft : t.isNull = false)
    (hRight : u.isNull = false)
    (hTold : (read? t).map tell = (read? u).map tell) :
    (envelope? read? (place t)).map (Option.map tell) =
      (envelope? read? (place u)).map (Option.map tell) := by
  rcases hPlace.record?_cases (by decide) (by decide) with
    hNone | ⟨first, last, hFirst, hSome⟩
  · rw [envelope?, envelope?, hNone, hNone]
  · have hField
        {w : Json.Tree}
        (hNull : w.isNull = false) :
        (envelope? read? (place w)).map (Option.map tell) =
          ((read? w).map tell).map some := by
      simp only [envelope?, hSome, Option.bind_eq_bind,
        Option.bind_some, Json.Record.optional?,
        Json.Tree.lookup_put hFirst, hNull, Bool.false_eq_true,
        if_false, Option.map_map]
      rfl
    rw [hField hLeft, hField hRight, hTold]

end Places

------------------------------------------------------------
-- Answers of What Is Told
------------------------------------------------------------

/- The answer to a query, given what a body tells of a balance. -/
def balanceAnswer
    (r : Reply) : Option (Option (Option Msat)) → BalanceAnswer
  | some (some (some b)) => .known b
  | _ => .failed r.malformed.message

/- The answer to a payment, given what a body tells of it. -/
def paymentAnswer
    (hash : String)
    (r : Reply) :
    Option (Option (Option Msat × Option String)) → PaymentAnswer
  | some (some (fee, preimage)) => paidAnswer hash r fee preimage
  | _ => .failed r.malformed.message

/- A balance is answered by what its body tells. -/
theorem ofExcept_readBalance
    {r : Reply}
    {t : Json.Tree}
    (hUsable : r.isError = false)
    (hBody : Json.Tree.parse? r.body = some t) :
    BalanceAnswer.ofExcept (readBalance r) =
      balanceAnswer r ((envelope? balance? t).map
        (Option.map (·.bind WrittenAmount.value?))) := by
  simp only [readBalance, hUsable, Bool.false_eq_true, if_false,
    Reply.read, hBody, Option.bind_some]
  rcases envelope? balance? t with _ | _ | _ | w
  · rfl
  · rfl
  · rfl
  · simp only [Option.bind_some, Option.map_some]
    cases w.value? <;> rfl

/- So is a payment. -/
theorem ofExcept_readPayment_terms
    (hash : String)
    {r : Reply}
    {t : Json.Tree}
    (hUsable : r.isError = false)
    (hBody : Json.Tree.parse? r.body = some t) :
    PaymentAnswer.ofExcept (readPayment hash r) =
      paymentAnswer hash r ((envelope? payment? t).map
        (Option.map paidTerms)) := by
  cases hTold : envelope? payment? t with
  | some data =>
      rcases data with _ | ⟨fee, preimage⟩
      · simp only [readPayment, hUsable, Bool.false_eq_true,
          if_false, Reply.read, hBody, Option.bind_some, hTold]
        rfl
      · exact ofExcept_readPayment hash hUsable hBody hTold
  | none =>
      simp only [readPayment, hUsable, Bool.false_eq_true,
        if_false, Reply.read, hBody, Option.bind_some, hTold]
      rfl

/- Replies that tell the same of a balance are alike. -/
theorem alike_balanceAnswer
    (r s : Reply)
    (told : Option (Option (Option Msat))) :
    Reply.Alike .failed r s (balanceAnswer r told)
      (balanceAnswer s told) := by
  rcases told with _ | _ | _ | b
  · exact Reply.alike_malformed _ r s
  · exact Reply.alike_malformed _ r s
  · exact Reply.alike_malformed _ r s
  · exact .inl rfl

/- So are those that tell the same of a payment. -/
theorem alike_paymentAnswer
    (hash : String)
    (r s : Reply)
    (told : Option (Option (Option Msat × Option String))) :
    Reply.Alike .failed r s (paymentAnswer hash r told)
      (paymentAnswer hash s told) := by
  rcases told with _ | _ | ⟨_ | a, preimage⟩
  · exact Reply.alike_malformed _ r s
  · exact Reply.alike_malformed _ r s
  · exact .inl rfl
  · simp only [paymentAnswer, paidAnswer]
    cases a.neg? with
    | none => exact Reply.alike_malformed _ r s
    | some f => exact .inl rfl

/- A state is reported of what a lookup tells. -/
theorem zbdReport?_congr
    (d : Direction)
    {l m : Option Lookup}
    (hTold : l.map Lookup.terms = m.map Lookup.terms) :
    Wallet.zbdReport? d l = Wallet.zbdReport? d m := by
  rcases l with _ | ⟨status, preimage, fee⟩ <;>
    rcases m with _ | ⟨status', preimage', fee'⟩
  · rfl
  · cases hTold
  · cases hTold
  · simp only [Option.map_some, Lookup.terms, Option.some_inj,
      Prod.mk.injEq] at hTold
    rcases hTold with ⟨rfl, rfl, hFee⟩
    have hReported :
        reportedFee? d fee = reportedFee? d fee' := by
      simp only [reportedFee?, hFee]
    cases status with
    | none => rfl
    | some token =>
        simp only [Wallet.zbdReport?, hReported]

------------------------------------------------------------
-- Exchanged Amounts
------------------------------------------------------------

section Exchanged

variable {fields : List String}
variable {name : String}
variable {n : Int}
variable {r s : Reply}
variable {t u : Json.Tree}

/-
  Bodies that are read alike wherever they have the amount tell
  the same in their envelopes.
-/
theorem Exchanges.envelope?_congr
    {α β : Type}
    {read? : Json.Tree → Option α}
    {tell : α → β}
    (hExchange : Exchanges fields name n t u)
    (hLower : -Msat.bound ≤ n)
    (hUpper : n < Msat.bound)
    (hRead :
      ∀ {place : Json.Tree → Json.Tree} {a : Msat}
        {t u : Json.Tree},
        Json.Tree.IsPlace fields name place →
        Writes t a.value → Writes u a.value →
          (read? (place t)).map tell =
            (read? (place u)).map tell) :
    (envelope? read? t).map (Option.map tell) =
      (envelope? read? u).map (Option.map tell) := by
  rcases hExchange with ⟨hEnvelope, hData, hNumber, hText⟩
  let a : Msat := ⟨n, hLower, hUpper⟩
  have hLeft : Writes _ a.value := .number hNumber
  have hRight : Writes _ a.value := writes_of_trim hText
  exact Zbd.envelope?_congr hEnvelope (hData.isNull_eq_false _)
    (hData.isNull_eq_false _) (hRead hData hLeft hRight)

/- Errors are told alike, whichever way the amount is written. -/
theorem Exchanges.alike_errorMessage
    {α : Type}
    (hExchange : Exchanges fields name n t u)
    (hLower : -Msat.bound ≤ n)
    (hUpper : n < Msat.bound)
    (hFirst : Json.Tree.parse? r.body = some t)
    (hSecond : Json.Tree.parse? s.body = some u)
    (fail : String → α) :
    Reply.Alike fail r s (fail (r.errorMessage errorField))
      (fail (s.errorMessage errorField)) := by
  rcases hExchange with ⟨hEnvelope, hData, hNumber, hText⟩
  let a : Msat := ⟨n, hLower, hUpper⟩
  have hLeft : Writes _ a.value := .number hNumber
  have hRight : Writes _ a.value := writes_of_trim hText
  refine Reply.alike_errorMessage hEnvelope (by decide) hFirst
    hSecond fail (hData.isSome_valueWithin? fun depth => ?_)
  rw [hLeft.isSome_valueWithin?, hRight.isSome_valueWithin?]

end Exchanged

end Backend.Zbd

namespace Wallet

------------------------------------------------------------
-- Interchangeable Replies
------------------------------------------------------------

section Replies

variable {v : Zbd}
variable {n : Int}
variable {r s : Reply}
variable {t u : Json.Tree}

/- A balance, written one way and the other. -/
theorem alike_readBalance
    (hExchange : Zbd.Exchanges ["balance"] "balance" n t u)
    (hLower : -Msat.bound ≤ n)
    (hUpper : n < Msat.bound)
    (hStatus : r.status = s.status)
    (hFirst : Json.Tree.parse? r.body = some t)
    (hSecond : Json.Tree.parse? s.body = some u) :
    Reply.Alike BalanceAnswer.failed r s
      (BalanceAnswer.ofExcept (Zbd.readBalance r))
      (BalanceAnswer.ofExcept (Zbd.readBalance s)) := by
  have hErrors := Reply.isError_congr hStatus
  cases hError : r.isError with
  | true =>
      rw [Zbd.readBalance, Zbd.readBalance, ← hErrors, hError]
      exact hExchange.alike_errorMessage hLower hUpper hFirst
        hSecond BalanceAnswer.failed
  | false =>
      have hTold := hExchange.envelope?_congr hLower hUpper
        Zbd.balance?_congr
      rw [Zbd.ofExcept_readBalance hError hFirst,
        Zbd.ofExcept_readBalance (hErrors ▸ hError) hSecond,
        hTold]
      exact Zbd.alike_balanceAnswer r s _

/- A payment, with its fee written one way and the other. -/
theorem alike_readPayment
    (hExchange : Zbd.Exchanges ["fee", "preimage"] "fee" n t u)
    (hLower : -Msat.bound ≤ n)
    (hUpper : n < Msat.bound)
    (hStatus : r.status = s.status)
    (hFirst : Json.Tree.parse? r.body = some t)
    (hSecond : Json.Tree.parse? s.body = some u)
    (hash : String) :
    Reply.Alike PaymentAnswer.failed r s
      (PaymentAnswer.ofExcept (Zbd.readPayment hash r))
      (PaymentAnswer.ofExcept (Zbd.readPayment hash s)) := by
  have hErrors := Reply.isError_congr hStatus
  cases hError : r.isError with
  | true =>
      rw [Zbd.readPayment, Zbd.readPayment, ← hErrors, hError]
      exact hExchange.alike_errorMessage hLower hUpper hFirst
        hSecond PaymentAnswer.failed
  | false =>
      have hTold := hExchange.envelope?_congr hLower hUpper
        Zbd.payment?_congr
      rw [Zbd.ofExcept_readPayment_terms hash hError hFirst,
        Zbd.ofExcept_readPayment_terms hash (hErrors ▸ hError)
          hSecond,
        hTold]
      exact Zbd.alike_paymentAnswer hash r s _

/- A lookup, with its fee written one way and the other. -/
theorem report?_congr
    (hExchange :
      Zbd.Exchanges ["status", "preimage", "fee"] "fee" n t u)
    (hLower : -Msat.bound ≤ n)
    (hUpper : n < Msat.bound)
    (subject : Subject) :
    (zbd v).report? subject t = (zbd v).report? subject u := by
  have hTold := hExchange.envelope?_congr hLower hUpper
    Zbd.lookup?_congr
  simp only [report?]
  cases hLeft : Zbd.envelope? Zbd.lookup? t with
  | none =>
      rw [hLeft, Option.map_none, eq_comm, Option.map_eq_none_iff]
        at hTold
      rw [hTold]
  | some l =>
      rw [hLeft, Option.map_some, eq_comm, Option.map_eq_some_iff]
        at hTold
      rcases hTold with ⟨m, hRight, hSame⟩
      rw [hRight, Option.bind_some, Option.bind_some,
        Zbd.zbdReport?_congr subject.direction hSame]

/-
  For every wallet at ZBD, every amount in range and every two
  replies with one status whose bodies are the same but for that
  amount, which the one has as a number and the other as a text
  that is its decimal form once it is trimmed:

    * if it is the balance, a query gives the same answer;
    * if it is the fee of a payment, every payment does, whether
      or not its invoice can be read;
    * if it is the fee of a lookup, every lookup of an invoice or
      a payment gives the same state.

  Answers to queries and payments are the same up to what they
  quote of the bodies, in messages of failures.
-/
theorem written_amounts_interchangeable
    (hLower : -Msat.bound ≤ n)
    (hUpper : n < Msat.bound)
    (hStatus : r.status = s.status)
    (hFirst : Json.Tree.parse? r.body = some t)
    (hSecond : Json.Tree.parse? s.body = some u) :
    (Zbd.Exchanges ["balance"] "balance" n t u →
      ∃ a b,
        (zbd v).balance.resultOf? [.reply r] = some a ∧
        (zbd v).balance.resultOf? [.reply s] = some b ∧
        Reply.Alike BalanceAnswer.failed r s a b) ∧
    (Zbd.Exchanges ["fee", "preimage"] "fee" n t u →
      ∀ random request, ∃ a b,
        ((zbd v).payInvoice random request).resultOf?
          [.reply r] = some (a, zbd v) ∧
        ((zbd v).payInvoice random request).resultOf?
          [.reply s] = some (b, zbd v) ∧
        Reply.Alike PaymentAnswer.failed r s a b) ∧
    (Zbd.Exchanges ["status", "preimage", "fee"] "fee" n t u →
      ∀ subject id, ∃ state,
        ((zbd v).lookUp subject id).resultOf? [.reply r] =
          some state ∧
        ((zbd v).lookUp subject id).resultOf? [.reply s] =
          some state) := by
  refine ⟨fun hExchange => ?_, fun hExchange => ?_,
    fun hExchange => ?_⟩
  · exact ⟨_, _, rfl, rfl, alike_readBalance hExchange hLower
      hUpper hStatus hFirst hSecond⟩
  · intro random request
    cases hInvoice : Bolt11.Invoice.paymentHashOf request with
    | error e =>
        -- Nothing is sent, so that no reply is read.
        have hAnswer (o : Outcome) :
            ((zbd v).payInvoice random request).resultOf? [o] =
              some (.ofError e, zbd v) := by
          rw [payInvoice, Zbd.payInvoice, hInvoice]
          rfl
        exact ⟨_, _, hAnswer _, hAnswer _, .inl rfl⟩
    | ok hash =>
        exact ⟨_, _, resultOf?_payInvoice_zbd hInvoice,
          resultOf?_payInvoice_zbd hInvoice,
          alike_readPayment hExchange hLower hUpper hStatus
            hFirst hSecond hash⟩
  · intro subject id
    refine ⟨_, resultOf?_lookUp rfl subject id (.reply r) [], ?_⟩
    have hErrors := Reply.isError_congr hStatus
    rw [resultOf?_lookUp rfl subject id (.reply s) []]
    simp only [Outcome.tree?, hErrors, hFirst, hSecond]
    cases s.isError with
    | true => rfl
    | false =>
        simp only [Bool.false_eq_true, if_false,
          Option.bind_some,
          report?_congr hExchange hLower hUpper subject]

end Replies

/- What ZBD tells of a payment, with its fee written some way. -/
def completedAt (fee : Json.Tree) : Json.Tree :=
  .object [(some "data", .object
    [(some "status", .text (some "completed")),
     (some "fee", fee),
     (some "preimage", .text (some "00ff"))])]

/- The reply that says so. -/
def costing (fee : Json.Value) : Reply :=
  ⟨200, (Json.Value.object
    [("data", .object
      [("status", .text "completed"),
       ("fee", fee),
       ("preimage", .text "00ff")])]).render⟩

/- It has this body. -/
theorem parse?_costing
    {fee : Json.Value}
    {t : Json.Tree}
    (hTree : fee.tree? = some t) :
    Json.Tree.parse? (costing fee).body =
      some (completedAt t) := by
  apply Json.Value.parse?_render
  simp only [Json.Value.tree?, Json.Value.memberTrees?, hTree]
  rfl

/- Either way its lookup tells the fee. -/
theorem written_amounts_interchangeable_of_costing :
    ∃ t u fee,
      Json.Tree.parse? (costing (.int 1500)).body = some t ∧
      Json.Tree.parse? (costing (.text "\t1500 ")).body =
        some u ∧
      Zbd.Exchanges ["status", "preimage", "fee"] "fee" 1500
        t u ∧
      fee.value = -1500 ∧
      ((zbd payer).lookUp .payment "p").resultOf?
          [.reply (costing (.int 1500))] =
        some (.success (some fee) (some "00ff")) ∧
      ((zbd payer).lookUp .payment "p").resultOf?
          [.reply (costing (.text "\t1500 "))] =
        some (.success (some fee) (some "00ff")) := by
  let fee : Msat := ⟨-1500, by decide, by decide⟩
  have hFirst :
      Json.Tree.parse? (costing (.int 1500)).body =
        some (completedAt (.number (.ofInt 1500))) :=
    parse?_costing rfl
  have hSecond :
      Json.Tree.parse? (costing (.text "\t1500 ")).body =
        some (completedAt (.text (some "\t1500 "))) :=
    parse?_costing rfl
  have hNumber : (Json.Numeral.ofInt 1500).Spells 1500 :=
    ⟨rfl, rfl, by decide, by decide⟩
  have hExchange :
      Zbd.Exchanges ["status", "preimage", "fee"] "fee" 1500
        (completedAt (.number (.ofInt 1500)))
        (completedAt (.text (some "\t1500 "))) :=
    .intro (.member [] [])
      (.member [(some "status", .text (some "completed"))]
        [(some "preimage", .text (some "00ff"))])
      hNumber (by decide)
  have hState :
      ((zbd payer).lookUp .payment "p").resultOf?
          [.reply (costing (.int 1500))] =
        some (.success (some fee) (some "00ff")) := by
    decide +kernel
  have hStatus :
      (costing (.int 1500)).status =
        (costing (.text "\t1500 ")).status :=
    rfl
  rcases written_amounts_interchangeable (v := payer) (n := 1500)
      (by decide) (by decide) hStatus hFirst hSecond with
    ⟨_, _, hLookup⟩
  rcases hLookup hExchange .payment "p" with
    ⟨state, hLeft, hRight⟩
  rw [hState] at hLeft
  exact ⟨_, _, fee, hFirst, hSecond, hExchange, rfl, hState,
    hRight.trans hLeft.symm⟩

end Wallet

end LightningGateway
