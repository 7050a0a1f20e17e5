import LightningGateway.Proofs.Backend.Balance

/-
  Fees of payments at ZBD, as they are paid and as they are
  looked up.

  The reply to a payment and the reply to its lookup are read by
  different schemas.  What both can read is one object, of which
  both find the same fee and the same preimage, so that a wallet
  tells the same of either: the fee with its sign changed, and
  no fee at all where it cannot be read.  A fee that has no
  opposite is never told.

  Key definitions include:
    * `Zbd.Wraps`
    * `Zbd.FeeIn`

  Main results:
    * `Zbd.exists_members_of_lookup?`
    * `Wallet.fees_agree`
-/

namespace LightningGateway

open Backend Payment Provider

namespace Backend.Zbd

------------------------------------------------------------
-- Fees in Bodies
------------------------------------------------------------

/- An envelope with an object that has these members. -/
def Wraps
    (t : Json.Tree)
    (members : List (Option String × Json.Tree)) : Prop :=
  ∃ r, t.record? ["data"] = some r ∧
    r.lookup "data" = some (.object members)

/-
  The fee that a body reports: an amount in range, as ZBD
  writes them, in the object of its envelope.
-/
def FeeIn
    (t : Json.Tree)
    (n : Int) : Prop :=
  ∃ members u, Wraps t members ∧
    members.lookup (some "fee") = some u ∧
    Writes u n ∧ -Msat.bound ≤ n ∧ n < Msat.bound

/- What an envelope holds, if it can be read. -/
theorem envelope?_eq_some_some_iff_lookup
    {α : Type}
    {read? : Json.Tree → Option α}
    {t : Json.Tree}
    {a : α}
    (hNull : read? .null = none) :
    envelope? read? t = some (some a) ↔
      ∃ r data, t.record? ["data"] = some r ∧
        r.lookup "data" = some data ∧ read? data = some a := by
  simp only [envelope?, Option.bind_eq_bind,
    Option.bind_eq_some_iff,
    Json.Record.optional?_eq_some_some_iff hNull]
  constructor
  · rintro ⟨r, hEnvelope, data, hData, hRead⟩
    exact ⟨r, data, hEnvelope, hData, hRead⟩
  · rintro ⟨r, data, hEnvelope, hData, hRead⟩
    exact ⟨r, hEnvelope, data, hData, hRead⟩

/- An envelope has one object at most. -/
theorem Wraps.unique
    {t : Json.Tree}
    {members others : List (Option String × Json.Tree)}
    (hWraps : Wraps t members)
    (hOthers : Wraps t others) :
    members = others := by
  rcases hWraps with ⟨r, hRecord, hData⟩
  rcases hOthers with ⟨s, hSame, hOther⟩
  rw [hRecord] at hSame
  cases hSame
  rw [hData] at hOther
  cases hOther
  rfl

/-
  What can be read as a payment and as a lookup is an object,
  and the payment has the fee and the preimage of the lookup.
-/
theorem exists_members_of_lookup?
    {data : Json.Tree}
    {l : Lookup}
    (hPayment : (payment? data).isSome = true)
    (hLookup : lookup? data = some l) :
    ∃ members, ∃ r : Json.Record,
      data = .object members ∧
      r.lookup "fee" = members.lookup (some "fee") ∧
      r.optional? WrittenAmount.ofJson? "fee" = some l.fee ∧
      payment? data = some (l.fee, l.preimage) := by
  simp only [lookup?, Option.bind_eq_bind,
    Option.bind_eq_some_iff, Option.some_inj] at hLookup
  rcases hLookup with
    ⟨r, hRecord, status, hStatus, preimage, hPreimage, fee, hFee,
      rfl⟩
  rcases Option.isSome_iff_exists.mp hPayment with ⟨paid, hPaid⟩
  simp only [payment?, Option.bind_eq_bind,
    Option.bind_eq_some_iff] at hPaid
  rcases hPaid with ⟨s, hOther, _⟩
  cases data with
  | object members =>
      have hSame (name : String)
          (hShort : name ∈ ["fee", "preimage"])
          (hLong : name ∈ ["status", "preimage", "fee"]) :
          s.lookup name = r.lookup name := by
        rw [Json.Tree.lookup_known? hOther hShort,
          Json.Tree.lookup_known? hRecord hLong]
      have hFeeOf :
          s.optional? WrittenAmount.ofJson? "fee" = some fee := by
        rw [Json.Record.optional?_congr
          (hSame "fee" (by decide) (by decide)), hFee]
      have hPreimageOf :
          s.optional? Json.Tree.text? "preimage" =
            some preimage := by
        rw [Json.Record.optional?_congr
          (hSame "preimage" (by decide) (by decide)), hPreimage]
      have hFound :
          r.lookup "fee" = members.lookup (some "fee") :=
        Json.Tree.lookup_known? hRecord (by decide)
      refine ⟨members, r, rfl, hFound, hFee, ?_⟩
      simp only [payment?, hOther, hFeeOf, hPreimageOf,
        Option.bind_eq_bind, Option.bind_some]
  | list items =>
      -- A list has an item for each field, of two or of three.
      simp only [Json.Tree.record?, List.length_cons,
        List.length_nil, Option.ite_none_right_eq_some]
        at hRecord hOther
      omega
  | _ => cases hRecord

/- So it is with what an envelope holds. -/
theorem envelope?_payment?_of_lookup?
    {t : Json.Tree}
    {l : Lookup}
    (hPayment : (envelope? payment? t).isSome = true)
    (hLookup : envelope? lookup? t = some (some l)) :
    envelope? payment? t = some (some (l.fee, l.preimage)) ∧
      ∀ b : Msat,
        FeeIn t b.value ↔
          l.fee.bind WrittenAmount.value? = some b := by
  rcases (envelope?_eq_some_some_iff_lookup rfl).mp hLookup with
    ⟨r, data, hEnvelope, hData, hRead⟩
  have hPaid : (payment? data).isSome = true := by
    have hField :
        r.optional? payment? "data" =
          (payment? data).map some := by
      cases data with
      | null => cases hRead
      | _ =>
          unfold Json.Record.optional?
          rw [hData]
          rfl
    rw [envelope?, hEnvelope, Option.bind_eq_bind,
      Option.bind_some, hField, Option.isSome_map] at hPayment
    exact hPayment
  rcases exists_members_of_lookup? hPaid hRead with
    ⟨members, s, rfl, hFound, hFee, hSame⟩
  constructor
  · exact (envelope?_eq_some_some_iff_lookup rfl).mpr
      ⟨r, _, hEnvelope, hData, hSame⟩
  · intro b
    have hWraps : Wraps t members := ⟨r, hEnvelope, hData⟩
    constructor
    · rintro ⟨others, u, hOthers, hField, hWrites, _⟩
      rw [hOthers.unique hWraps, ← hFound] at hField
      rcases exists_written_iff.mpr hWrites with
        ⟨a, hWritten, hValue⟩
      have hSome :=
        (Json.Record.optional?_eq_some_some_iff rfl).mpr
          ⟨u, hField, hWritten⟩
      rw [hFee, Option.some_inj] at hSome
      rw [hSome, Option.bind_some, hValue]
    · intro hValue
      rcases Option.bind_eq_some_iff.mp hValue with
        ⟨a, hSome, hAmount⟩
      rw [hSome] at hFee
      rcases (Json.Record.optional?_eq_some_some_iff rfl).mp hFee
        with ⟨u, hField, hWritten⟩
      exact ⟨members, u, hWraps, hFound.symm.trans hField,
        exists_written_iff.mp ⟨a, hWritten, hAmount⟩,
        b.lower, b.upper⟩

------------------------------------------------------------
-- The Sign of a Fee
------------------------------------------------------------

/- All amounts but the smallest have an opposite. -/
theorem neg?_eq_none_iff {a : Msat} :
    a.neg? = none ↔ a.value = -Msat.bound := by
  have hLower := a.lower
  have hUpper := a.upper
  have hRange := Msat.ofInt?_isSome_iff (-a.value)
  rw [Msat.neg?, ← Option.not_isSome_iff_eq_none, hRange]
  unfold Msat.bound at hLower hUpper ⊢
  omega

/- The opposite has the other sign. -/
theorem neg?_eq_some_iff {a b : Msat} :
    a.neg? = some b ↔ b.value = -a.value :=
  Msat.ofInt?_eq_some_iff

/- What is told of a payment, given what is read of its fee. -/
def paidAnswer
    (hash : String)
    (r : Reply)
    (fee : Option Msat)
    (preimage : Option String) : PaymentAnswer :=
  match fee with
  | none => .success hash .zero preimage
  | some a =>
      match a.neg? with
      | some f => .success hash f preimage
      | none => .failed r.malformed.message

/- What is told of its lookup. -/
def polledStatus
    (fee : Option Msat)
    (preimage : Option String) : SettlementStatus :=
  match fee with
  | none => .success none preimage
  | some a =>
      match a.neg? with
      | some f => .success (some f) preimage
      | none => .pending

/- What a body reports is what is read of its fee. -/
theorem feeIn_iff
    {t : Json.Tree}
    {told : Option Msat}
    (hTold : ∀ b : Msat, FeeIn t b.value ↔ told = some b)
    {n : Int} :
    FeeIn t n ↔ ∃ b, told = some b ∧ b.value = n := by
  constructor
  · intro hIn
    have hAmount := hIn
    rcases hIn with ⟨_, _, _, _, _, hLower, hUpper⟩
    let b : Msat := ⟨n, hLower, hUpper⟩
    exact ⟨b, (hTold b).mp hAmount, rfl⟩
  · rintro ⟨b, hSome, rfl⟩
    exact (hTold b).mpr hSome

section Told

variable {hash : String}
variable {r : Reply}
variable {told : Option Msat}
variable {preimage : Option String}

/- A payment fails if its fee has no opposite. -/
theorem paidAnswer_eq_failed_iff :
    paidAnswer hash r told preimage =
        .failed r.malformed.message ↔
      ∃ b, told = some b ∧ b.value = -Msat.bound := by
  cases told with
  | none => simp [paidAnswer]
  | some a =>
      simp only [paidAnswer, Option.some_inj,
        exists_eq_left', ← neg?_eq_none_iff]
      cases a.neg? <;> simp

/- Its lookup is pending then. -/
theorem polledStatus_eq_pending_iff :
    polledStatus told preimage = .pending ↔
      ∃ b, told = some b ∧ b.value = -Msat.bound := by
  cases told with
  | none => simp [polledStatus]
  | some a =>
      simp only [polledStatus, Option.some_inj,
        exists_eq_left', ← neg?_eq_none_iff]
      cases a.neg? <;> simp

/- Otherwise it succeeds. -/
theorem exists_paidAnswer_iff :
    (∃ f p, paidAnswer hash r told preimage =
        .success hash f p) ↔
      ¬∃ b, told = some b ∧ b.value = -Msat.bound := by
  cases told with
  | none => simp [paidAnswer]
  | some a =>
      simp only [paidAnswer, Option.some_inj,
        exists_eq_left', ← neg?_eq_none_iff]
      cases a.neg? <;> simp

/- The lookup of a payment that succeeds tells the same. -/
theorem polledStatus_of_success
    {i : String}
    {f : Msat}
    {p : Option String}
    (hGood :
      paidAnswer hash r told preimage = .success i f p) :
    i = hash ∧ p = preimage ∧
      ∃ fee, polledStatus told preimage = .success fee p ∧
        f = fee.getD .zero ∧
        (fee = none ↔ told = none) ∧
        ∀ b, told = some b → f.value = -b.value := by
  cases told with
  | none =>
      cases hGood
      refine ⟨rfl, rfl, none, rfl, rfl, Iff.rfl, ?_⟩
      intro b hSome
      cases hSome
  | some a =>
      cases hNeg : a.neg? with
      | none =>
          simp only [paidAnswer, hNeg] at hGood
          cases hGood
      | some b =>
          simp only [paidAnswer, hNeg] at hGood
          cases hGood
          refine ⟨rfl, rfl, some f, ?_, rfl, by simp, ?_⟩
          · simp only [polledStatus, hNeg]
          · rintro _ ⟨⟩
            exact neg?_eq_some_iff.mp hNeg

end Told

/- The answer to a payment is this one. -/
theorem ofExcept_readPayment
    (hash : String)
    {r : Reply}
    {t : Json.Tree}
    {fee : Option WrittenAmount}
    {preimage : Option String}
    (hUsable : r.isError = false)
    (hBody : Json.Tree.parse? r.body = some t)
    (hRead : envelope? payment? t = some (some (fee, preimage))) :
    PaymentAnswer.ofExcept (readPayment hash r) =
      paidAnswer hash r (fee.bind WrittenAmount.value?)
        preimage := by
  have hTold :
      r.read (envelope? payment?) =
        .ok (some (fee, preimage)) := by
    simp only [Reply.read, hBody, Option.bind_some, hRead]
  simp only [readPayment, hUsable, Bool.false_eq_true, if_false,
    hTold, outgoingFee, paidAnswer]
  cases fee.bind WrittenAmount.value? with
  | none => rfl
  | some a =>
      dsimp only
      cases a.neg? <;> rfl

/- The state that is looked up is that one. -/
theorem zbdReport?_of_success
    {l : Lookup}
    {token : String}
    (hStatus : l.status = some token)
    (hSuccess : token ∈ statusTable.success) :
    (Wallet.zbdReport? .outgoing (some l)).getD .pending =
      polledStatus (l.fee.bind WrittenAmount.value?)
        l.preimage := by
  have hToken (fee : Option Msat) :
      statusTable.resolveWith token fee l.preimage =
        .success fee l.preimage :=
    ((StatusTable.tells_iff rfl token fee l.preimage _).mp
      (.success hSuccess)).1
  rcases l with ⟨status, preimage, fee⟩
  cases hStatus
  simp only [Wallet.zbdReport?, reportedFee?, polledStatus]
  cases fee.bind WrittenAmount.value? with
  | none => exact hToken none
  | some a =>
      dsimp only
      cases a.neg? with
      | none => rfl
      | some f => exact hToken (some f)

end Backend.Zbd

namespace Wallet

------------------------------------------------------------
-- Payments and Lookups
------------------------------------------------------------

/- A payment that is answered, as it is read. -/
theorem resultOf?_payInvoice_zbd
    {v : Zbd}
    {random : List UInt8}
    {request hash : String}
    {r : Reply}
    (hInvoice : Bolt11.Invoice.paymentHashOf request = .ok hash) :
    ((zbd v).payInvoice random request).resultOf? [.reply r] =
      some (.ofExcept (Zbd.readPayment hash r), zbd v) := by
  rw [payInvoice, Zbd.payInvoice, hInvoice]
  rfl

/- A lookup that is answered, as it is read. -/
theorem resultOf?_paymentStatus_zbd
    {v : Zbd}
    {r : Reply}
    {t : Json.Tree}
    {l : Zbd.Lookup}
    (hUsable : r.isError = false)
    (hBody : Json.Tree.parse? r.body = some t)
    (hLookup : Zbd.envelope? Zbd.lookup? t = some (some l))
    (id : String) :
    ((zbd v).paymentStatus id).resultOf? [.reply r] =
      some ((zbdReport? .outgoing (some l)).getD .pending) := by
  have hTree : (Outcome.reply r).tree? = some t := by
    rw [Outcome.tree?, hUsable]
    exact hBody
  have hStatus :=
    resultOf?_lookUp (w := zbd v) rfl .payment id (.reply r) []
  rw [hTree] at hStatus
  refine hStatus.trans ?_
  simp only [Option.bind_some, report?, hLookup,
    Subject.direction]

/-
  For every wallet at ZBD, every invoice that can be read, and
  every body that is both the reply to a payment and the reply
  to a lookup whose state is a success: a payment answered with
  it and a lookup answered with it both give a result.

  If the payment succeeds, so does the lookup, with the same
  preimage and with the same fee; only where the body has no fee
  that can be read the lookup tells none, and the payment tells
  zero.  The fee is the opposite of the one in the body.  If
  that one is the smallest amount, which has no opposite, and
  only then, the payment fails and the lookup is pending.
-/
theorem fees_agree
    {v : Zbd}
    {request hash : String}
    {paid polled : Reply}
    {t : Json.Tree}
    {l : Zbd.Lookup}
    {token : String}
    (hInvoice : Bolt11.Invoice.paymentHashOf request = .ok hash)
    (hPaid : ¬(400 ≤ paid.status ∧ paid.status < 600))
    (hPolled : ¬(400 ≤ polled.status ∧ polled.status < 600))
    (hSame : polled.body = paid.body)
    (hBody : Json.Tree.parse? paid.body = some t)
    (hPayment : (Zbd.envelope? Zbd.payment? t).isSome = true)
    (hLookup : Zbd.envelope? Zbd.lookup? t = some (some l))
    (hStatus : l.status = some token)
    (hSuccess : token ∈ Zbd.statusTable.success)
    (random : List UInt8)
    (id : String) :
    ∃ a s,
      ((zbd v).payInvoice random request).resultOf?
        [.reply paid] = some (a, zbd v) ∧
      ((zbd v).paymentStatus id).resultOf?
        [.reply polled] = some s ∧
      (∀ i f p, a = .success i f p →
        i = hash ∧ p = l.preimage ∧
        ∃ fee, s = .success fee p ∧
          f = fee.getD .zero ∧
          (fee = none ↔ ¬∃ n, Zbd.FeeIn t n) ∧
          ∀ n, Zbd.FeeIn t n → f.value = -n) ∧
      (Zbd.FeeIn t (-Msat.bound) ↔
        a = .failed paid.malformed.message) ∧
      (Zbd.FeeIn t (-Msat.bound) ↔ s = .pending) ∧
      (¬Zbd.FeeIn t (-Msat.bound) ↔
        ∃ f p, a = .success hash f p) := by
  have hUsable {r : Reply}
      (hOk : ¬(400 ≤ r.status ∧ r.status < 600)) :
      r.isError = false :=
    eq_false_of_ne_true (mt r.isError_iff.mp hOk)
  rcases Zbd.envelope?_payment?_of_lookup? hPayment hLookup with
    ⟨hRead, hFee⟩
  have hAnswer :=
    Zbd.ofExcept_readPayment hash (hUsable hPaid) hBody hRead
  have hState :=
    resultOf?_paymentStatus_zbd (v := v) (hUsable hPolled)
      (hSame ▸ hBody) hLookup id
  rw [Zbd.zbdReport?_of_success hStatus hSuccess] at hState
  refine ⟨_, _, resultOf?_payInvoice_zbd hInvoice, hState, ?_⟩
  have hIn {n : Int} := Zbd.feeIn_iff hFee (n := n)
  rw [hAnswer, hIn, Zbd.paidAnswer_eq_failed_iff,
    Zbd.polledStatus_eq_pending_iff, Zbd.exists_paidAnswer_iff]
  refine ⟨?_, Iff.rfl, Iff.rfl, Iff.rfl⟩
  intro i f p hGood
  rcases Zbd.polledStatus_of_success hGood with
    ⟨hHash, hPreimage, fee, hState, hFound, hNone, hOpposite⟩
  refine ⟨hHash, hPreimage, fee, hState, hFound, ?_, ?_⟩
  · rw [hNone]
    constructor
    · rintro hNothing ⟨n, hFound⟩
      rcases hIn.mp hFound with ⟨b, hSome, _⟩
      rw [hNothing] at hSome
      cases hSome
    · intro hNever
      cases hTold : l.fee.bind Zbd.WrittenAmount.value? with
      | none => rfl
      | some b =>
          exact absurd ⟨_, hIn.mpr ⟨b, hTold, rfl⟩⟩ hNever
  · intro n hFound
    rcases hIn.mp hFound with ⟨b, hSome, rfl⟩
    exact hOpposite b hSome

/- ZBD has paid it, and writes what that has cost as a text. -/
def completed : Reply :=
  ⟨200, "\x7b\"data\":\x7b\"status\":\"completed\"," ++
    "\"fee\":\" 1500\",\"preimage\":\"00ff\"\x7d\x7d"⟩

/- A wallet at ZBD. -/
def payer : Zbd :=
  ⟨⟨"https://zbd.test", "apikey", "key", "agent", false⟩,
    .ofCapacity 1⟩

/- The payment and its lookup tell the same. -/
theorem fees_agree_of_completed :
    ∃ hash t f,
      Bolt11.Invoice.paymentHashOf tenSats = .ok hash ∧
      Json.Tree.parse? completed.body = some t ∧
      Zbd.FeeIn t 1500 ∧
      f.value = -1500 ∧
      ((zbd payer).payInvoice [] tenSats).resultOf?
          [.reply completed] =
        some (.success hash f (some "00ff"), zbd payer) ∧
      ((zbd payer).paymentStatus "p").resultOf?
          [.reply completed] =
        some (.success (some f) (some "00ff")) := by
  let l : Zbd.Lookup :=
    ⟨some "completed", some "00ff", some (.text " 1500")⟩
  have hTold :
      (Json.Tree.parse? completed.body).bind
        (Zbd.envelope? Zbd.lookup?) = some (some l) := by
    decide +kernel
  have hPaid :
      ((Json.Tree.parse? completed.body).bind
        (Zbd.envelope? Zbd.payment?)).isSome = true := by
    decide +kernel
  rcases Option.bind_eq_some_iff.mp hTold with
    ⟨t, hBody, hLookup⟩
  rw [hBody, Option.bind_some] at hPaid
  rcases Zbd.envelope?_payment?_of_lookup? hPaid hLookup with
    ⟨_, hFee⟩
  have hIn : Zbd.FeeIn t 1500 :=
    (hFee ⟨1500, by decide, by decide⟩).mpr
      (by decide +kernel)
  have hNot : ¬Zbd.FeeIn t (-Msat.bound) := by
    intro hLeast
    have hOther : l.fee.bind Zbd.WrittenAmount.value? ≠
        some .smallest := by
      decide +kernel
    exact hOther ((hFee .smallest).mp hLeast)
  rcases fees_agree (v := payer) paymentHashOf_tenSats (by decide)
      (by decide) rfl hBody hPaid hLookup rfl (by decide) []
      "p" with
    ⟨a, s, hAnswer, hState, hBoth, _, _, hGood⟩
  rcases hGood.mp hNot with ⟨f, p, rfl⟩
  rcases hBoth tenSatsHash f p rfl with
    ⟨_, rfl, fee, rfl, hFound, hNone, hOpposite⟩
  have hSome : fee = some f := by
    cases fee with
    | none => exact absurd ⟨1500, hIn⟩ (hNone.mp rfl)
    | some g => exact congrArg some hFound.symm
  rw [hSome] at hState
  exact ⟨tenSatsHash, t, f, paymentHashOf_tenSats, hBody, hIn,
    hOpposite 1500 hIn, hAnswer, hState⟩

end Wallet

end LightningGateway
