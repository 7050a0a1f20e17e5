import LightningGateway.Payment.Wire
import LightningGateway.Proofs.Json.Record

/-
  Answers and states keep their meaning as JSON text.

  Each is written as a record of scalars, tagged where there are
  several kinds.  What was written is read back, whatever the
  texts and amounts in it are, and no two of them are written as
  the same JSON document, also if the order of the members and
  the spelling of the document do not count.

  Key definitions include:
    * `IsFaithful`

  Main results:
    * `BalanceAnswer.isFaithful`
    * `InvoiceAnswer.isFaithful`
    * `PaymentAnswer.isFaithful`
    * `SettlementStatus.isFaithful`
    * `wire_forms_faithful`
-/

namespace LightningGateway.Payment

open Json

------------------------------------------------------------
-- Faithful Forms
------------------------------------------------------------

/-
  A JSON form is faithful if all that is written is read back,
  and different things make different documents.
-/
structure IsFaithful
    {α : Type}
    (toJson : α → Value)
    (parse? : String → Option α) : Prop where
  read_back : ∀ a, parse? (toJson a).render = some a
  apart :
    ∀ a b,
      Value.parse? (toJson a).render =
          Value.parse? (toJson b).render →
        a = b

/- Records that are one document have the same fields. -/
theorem lookup_eq_of_parse?_eq
    {xs ys : List (String × Value)}
    (hFirst : Value.IsRecord xs)
    (hSecond : Value.IsRecord ys)
    (hSame :
      Value.parse? (Value.object xs).render =
        Value.parse? (Value.object ys).render)
    (name : String) :
    xs.lookup name = ys.lookup name := by
  rcases hFirst.exists_parse? with ⟨v, hRead, hFields⟩
  rcases hSecond.exists_parse? with ⟨w, hOther, hOthers⟩
  rw [hRead, hOther] at hSame
  cases hSame
  rw [← hFields, hOthers]

/- Tagged records that are one document are of one kind. -/
theorem kind_eq_of_parse?_eq
    {tag kind kind' : String}
    {xs ys : List (String × Value)}
    (hFirst : Value.IsRecord ((tag, .text kind) :: xs))
    (hSecond : Value.IsRecord ((tag, .text kind') :: ys))
    (hSame :
      Value.parse?
          (Value.object ((tag, .text kind) :: xs)).render =
        Value.parse?
          (Value.object ((tag, .text kind') :: ys)).render) :
    kind = kind' := by
  have hTag := lookup_eq_of_parse?_eq hFirst hSecond hSame tag
  rw [List.lookup_cons_self, List.lookup_cons_self] at hTag
  exact Value.text.inj (Option.some.inj hTag)

------------------------------------------------------------
-- Fields
------------------------------------------------------------

/- A text or null is a scalar. -/
theorem isScalar_ofText? (s : Option String) :
    (Value.ofText? s).IsScalar := by
  cases s <;> trivial

/- Texts that may be absent are different as values. -/
theorem ofText?_inj
    {s t : Option String}
    (hSame : Value.ofText? s = Value.ofText? t) :
    s = t := by
  cases s <;> cases t <;> cases hSame <;> rfl

namespace Msat

/- An amount fits a signed word. -/
theorem isScalar_toJson (a : Msat) :
    a.toJson.IsScalar := by
  have hLower : -(9223372036854775808 : Int) ≤ a.value := a.lower
  have hUpper : a.value < 9223372036854775808 := a.upper
  constructor
  · exact hLower
  · exact Int.lt_trans hUpper (by decide)

/- The number of an amount is read as the amount. -/
theorem ofJson?_tree (a : Msat) :
    ofJson? (.number (.ofInt a.value)) = some a := by
  have hScalar := a.isScalar_toJson
  rw [ofJson?, Tree.int?,
    Numeral.integer?_ofInt hScalar.1 hScalar.2,
    Option.bind_some, ofInt?_value]

/- Different amounts are different numbers. -/
theorem toJson_inj
    {a b : Msat}
    (hSame : a.toJson = b.toJson) :
    a = b :=
  ext_value (Value.int.inj hSame)

/- An amount or null is a scalar. -/
theorem isScalar_optionToJson (a : Option Msat) :
    (optionToJson a).IsScalar := by
  cases a with
  | none => trivial
  | some a => exact a.isScalar_toJson

/- Amounts that may be absent are different as values. -/
theorem optionToJson_inj
    {a b : Option Msat}
    (hSame : optionToJson a = optionToJson b) :
    a = b := by
  cases a with
  | none => cases b <;> cases hSame; rfl
  | some a =>
      cases b with
      | none => cases hSame
      | some b => exact congrArg some (toJson_inj hSame)

end Msat

section Fields

variable {r : Record} {members : List (String × Value)}
variable {name : String}

/- An amount that was written is read. -/
theorem Holds.amount
    {a : Msat}
    (hHolds : r.Holds members)
    (hField : members.lookup name = some a.toJson) :
    r.required? Msat.ofJson? name = some a := by
  rw [Record.required?, hHolds, hField]
  exact a.ofJson?_tree

/- So is an amount that may be absent. -/
theorem Holds.amount?
    {a : Option Msat}
    (hHolds : r.Holds members)
    (hField : members.lookup name = some (Msat.optionToJson a)) :
    r.optional? Msat.ofJson? name = some a := by
  rw [Record.optional?, hHolds, hField]
  cases a with
  | none => rfl
  | some a => exact congrArg (Option.map some) a.ofJson?_tree

end Fields

------------------------------------------------------------
-- Balances
------------------------------------------------------------

namespace BalanceAnswer

/- The fields of a balance are a record. -/
theorem isRecord (a : BalanceAnswer) :
    Value.IsRecord
      [("error_message", .ofText? a.errorMessage),
       ("balance_msat", a.balance.toJson)] where
  scalar := by
    simp only [List.forall_mem_cons]
    exact ⟨isScalar_ofText? _, Msat.isScalar_toJson _, nofun⟩
  nodup := by
    change fields.Nodup
    decide

/- Balances keep their meaning. -/
theorem isFaithful : IsFaithful toJson parse? where
  read_back := by
    intro a
    rcases Tree.exists_parse?_record a.isRecord with
      ⟨t, r, hParse, hRecord, hHolds⟩
    have hMessage :
        r.optional? Tree.text? "error_message" =
          some a.errorMessage :=
      hHolds.ofText? rfl
    have hBalance :
        r.required? Msat.ofJson? "balance_msat" =
          some a.balance :=
      Holds.amount hHolds rfl
    change t.record? fields = some r at hRecord
    simp only [parse?, toJson, hParse, ofJson?, hRecord,
      hMessage, hBalance, Option.bind_eq_bind, Option.bind_some]
  apart := by
    intro a b hSame
    have hFields :=
      lookup_eq_of_parse?_eq a.isRecord b.isRecord hSame
    have hMessage :
        Value.ofText? a.errorMessage = .ofText? b.errorMessage :=
      Option.some.inj (hFields "error_message")
    have hBalance : a.balance.toJson = b.balance.toJson :=
      Option.some.inj (hFields "balance_msat")
    cases a
    cases b
    rw [mk.injEq]
    exact ⟨ofText?_inj hMessage, Msat.toJson_inj hBalance⟩

end BalanceAnswer

------------------------------------------------------------
-- Invoices
------------------------------------------------------------

/- A failure is a tagged record. -/
theorem isRecord_failed (message : String) :
    Value.IsRecord
      [(resultTag, .text "failed"),
       ("error_message", .text message)] where
  scalar := by
    simp only [List.forall_mem_cons]
    exact ⟨trivial, trivial, nofun⟩
  nodup := by
    change [resultTag, "error_message"].Nodup
    decide

/- Its message is found in its text. -/
theorem exists_message_of_failed (message : String) :
    ∃ t ts r,
      Tree.parse?
          (Value.object
            [(resultTag, .text "failed"),
             ("error_message", .text message)]).render =
        some t ∧
      t.tagged? resultTag = some ("failed", .object ts) ∧
      Tree.record? ["error_message"] (.object ts) = some r ∧
      r.required? Tree.text? "error_message" = some message := by
  rcases Tree.exists_parse?_tagged (isRecord_failed message) with
    ⟨t, ts, r, hParse, hTagged, hRecord, hHolds⟩
  exact ⟨t, ts, r, hParse, hTagged, hRecord, hHolds.text rfl⟩

namespace InvoiceAnswer

/- A new invoice is a tagged record. -/
theorem isRecord_success (id request : String) :
    Value.IsRecord
      [(resultTag, .text "success"),
       ("checking_id", .text id),
       ("payment_request", .text request)] where
  scalar := by
    simp only [List.forall_mem_cons]
    exact ⟨trivial, trivial, trivial, nofun⟩
  nodup := by
    change
      [resultTag, "checking_id", "payment_request"].Nodup
    decide

/- What was written of an invoice is read back. -/
theorem parse?_render_toJson (a : InvoiceAnswer) :
    parse? a.toJson.render = some a := by
  cases a with
  | success id request =>
      rcases Tree.exists_parse?_tagged
          (isRecord_success id request) with
        ⟨t, ts, r, hParse, hTagged, hRecord, hHolds⟩
      have hId :
          r.required? Tree.text? "checking_id" = some id :=
        hHolds.text rfl
      have hRequest :
          r.required? Tree.text? "payment_request" =
            some request :=
        hHolds.text rfl
      change
        Tree.record? ["checking_id", "payment_request"]
          (.object ts) = some r at hRecord
      simp only [parse?, toJson, hParse, ofJson?, hTagged,
        hRecord, hId, hRequest, Option.bind_eq_bind,
        Option.bind_some, if_true]
  | failed message =>
      rcases exists_message_of_failed message with
        ⟨t, ts, r, hParse, hTagged, hRecord, hMessage⟩
      simp [parse?, toJson, hParse, ofJson?, hTagged, hRecord,
        hMessage]

/- Invoices keep their meaning. -/
theorem isFaithful : IsFaithful toJson parse? where
  read_back := parse?_render_toJson
  apart := by
    intro a b hSame
    cases a with
    | success id request =>
        cases b with
        | success id' request' =>
            have hFields :=
              lookup_eq_of_parse?_eq (isRecord_success id request)
                (isRecord_success id' request') hSame
            cases hFields "checking_id"
            cases hFields "payment_request"
            rfl
        | failed message =>
            have hKind :=
              kind_eq_of_parse?_eq (isRecord_success id request)
                (isRecord_failed message) hSame
            exact absurd hKind (by decide)
    | failed message =>
        cases b with
        | success id request =>
            have hKind :=
              kind_eq_of_parse?_eq (isRecord_failed message)
                (isRecord_success id request) hSame
            exact absurd hKind (by decide)
        | failed message' =>
            cases lookup_eq_of_parse?_eq
              (isRecord_failed message)
              (isRecord_failed message') hSame "error_message"
            rfl

end InvoiceAnswer

------------------------------------------------------------
-- Payments
------------------------------------------------------------

namespace PaymentAnswer

/- A payment that was sent is a tagged record. -/
theorem isRecord_success
    (id : String)
    (fee : Msat)
    (preimage : Option String) :
    Value.IsRecord
      [(resultTag, .text "success"),
       ("checking_id", .text id),
       ("fee_msat", fee.toJson),
       ("preimage", .ofText? preimage)] where
  scalar := by
    simp only [List.forall_mem_cons]
    exact ⟨trivial, trivial, fee.isScalar_toJson,
      isScalar_ofText? preimage, nofun⟩
  nodup := by
    change
      [resultTag, "checking_id", "fee_msat", "preimage"].Nodup
    decide

/- What was written of a payment is read back. -/
theorem parse?_render_toJson (a : PaymentAnswer) :
    parse? a.toJson.render = some a := by
  cases a with
  | success id fee preimage =>
      rcases Tree.exists_parse?_tagged
          (isRecord_success id fee preimage) with
        ⟨t, ts, r, hParse, hTagged, hRecord, hHolds⟩
      have hId :
          r.required? Tree.text? "checking_id" = some id :=
        hHolds.text rfl
      have hFee :
          r.required? Msat.ofJson? "fee_msat" = some fee :=
        Holds.amount hHolds rfl
      have hPreimage :
          r.optional? Tree.text? "preimage" = some preimage :=
        hHolds.ofText? rfl
      change
        Tree.record? ["checking_id", "fee_msat", "preimage"]
          (.object ts) = some r at hRecord
      simp only [parse?, toJson, hParse, ofJson?, hTagged,
        hRecord, hId, hFee, hPreimage, Option.bind_eq_bind,
        Option.bind_some, if_true]
  | failed message =>
      rcases exists_message_of_failed message with
        ⟨t, ts, r, hParse, hTagged, hRecord, hMessage⟩
      simp [parse?, toJson, hParse, ofJson?, hTagged, hRecord,
        hMessage]

/- Payments keep their meaning. -/
theorem isFaithful : IsFaithful toJson parse? where
  read_back := parse?_render_toJson
  apart := by
    intro a b hSame
    cases a with
    | success id fee preimage =>
        cases b with
        | success id' fee' preimage' =>
            have hFields :=
              lookup_eq_of_parse?_eq
                (isRecord_success id fee preimage)
                (isRecord_success id' fee' preimage') hSame
            have hFee : fee.toJson = fee'.toJson :=
              Option.some.inj (hFields "fee_msat")
            have hPreimage :
                Value.ofText? preimage = .ofText? preimage' :=
              Option.some.inj (hFields "preimage")
            cases hFields "checking_id"
            cases Msat.toJson_inj hFee
            cases ofText?_inj hPreimage
            rfl
        | failed message =>
            have hKind :=
              kind_eq_of_parse?_eq (isRecord_success id fee preimage)
                (isRecord_failed message) hSame
            exact absurd hKind (by decide)
    | failed message =>
        cases b with
        | success id fee preimage =>
            have hKind :=
              kind_eq_of_parse?_eq (isRecord_failed message)
                (isRecord_success id fee preimage) hSame
            exact absurd hKind (by decide)
        | failed message' =>
            cases lookup_eq_of_parse?_eq
              (isRecord_failed message)
              (isRecord_failed message') hSame "error_message"
            rfl

end PaymentAnswer

------------------------------------------------------------
-- States
------------------------------------------------------------

namespace SettlementStatus

/- A state without terms is a tagged record. -/
theorem isRecord_bare (kind : String) :
    Value.IsRecord [(statusTag, .text kind)] where
  scalar := by
    simp only [List.forall_mem_cons]
    exact ⟨trivial, nofun⟩
  nodup := List.pairwise_singleton _ statusTag

/- A settlement is a tagged record. -/
theorem isRecord_success
    (fee : Option Msat)
    (preimage : Option String) :
    Value.IsRecord
      [(statusTag, .text "success"),
       ("fee_msat", Msat.optionToJson fee),
       ("preimage", .ofText? preimage)] where
  scalar := by
    simp only [List.forall_mem_cons]
    exact ⟨trivial, Msat.isScalar_optionToJson fee,
      isScalar_ofText? preimage, nofun⟩
  nodup := by
    change [statusTag, "fee_msat", "preimage"].Nodup
    decide

/- What was written of a state is read back. -/
theorem parse?_render_toJson (s : SettlementStatus) :
    parse? s.toJson.render = some s := by
  cases s with
  | success fee preimage =>
      rcases Tree.exists_parse?_tagged
          (isRecord_success fee preimage) with
        ⟨t, ts, r, hParse, hTagged, hRecord, hHolds⟩
      have hFee :
          r.optional? Msat.ofJson? "fee_msat" = some fee :=
        Holds.amount? hHolds rfl
      have hPreimage :
          r.optional? Tree.text? "preimage" = some preimage :=
        hHolds.ofText? rfl
      change
        Tree.record? ["fee_msat", "preimage"] (.object ts) =
          some r at hRecord
      simp [parse?, toJson, hParse, ofJson?, hTagged, hRecord,
        hFee, hPreimage]
  | pending =>
      rcases Tree.exists_parse?_tagged
          (isRecord_bare "pending") with
        ⟨t, ts, r, hParse, hTagged, -⟩
      simp [parse?, toJson, hParse, ofJson?, hTagged, isBare]
  | failed =>
      rcases Tree.exists_parse?_tagged
          (isRecord_bare "failed") with
        ⟨t, ts, r, hParse, hTagged, -⟩
      simp [parse?, toJson, hParse, ofJson?, hTagged, isBare]

/- The kind of a state and its terms make a tagged record. -/
theorem exists_isRecord (s : SettlementStatus) :
    ∃ terms,
      s.toJson = .object ((statusTag, .text s.name) :: terms) ∧
      Value.IsRecord ((statusTag, .text s.name) :: terms) := by
  cases s with
  | success fee preimage =>
      exact ⟨_, rfl, isRecord_success fee preimage⟩
  | pending => exact ⟨_, rfl, isRecord_bare "pending"⟩
  | failed => exact ⟨_, rfl, isRecord_bare "failed"⟩

/- States keep their meaning. -/
theorem isFaithful : IsFaithful toJson parse? where
  read_back := parse?_render_toJson
  apart := by
    intro s t hSame
    have hName : s.name = t.name := by
      rcases s.exists_isRecord with ⟨terms, hForm, hRecord⟩
      rcases t.exists_isRecord with ⟨others, hOther, hOthers⟩
      rw [hForm, hOther] at hSame
      exact kind_eq_of_parse?_eq hRecord hOthers hSame
    cases s with
    | success fee preimage =>
        cases t with
        | success fee' preimage' =>
            have hFields :=
              lookup_eq_of_parse?_eq
                (isRecord_success fee preimage)
                (isRecord_success fee' preimage') hSame
            have hFee :
                Msat.optionToJson fee = Msat.optionToJson fee' :=
              Option.some.inj (hFields "fee_msat")
            have hPreimage :
                Value.ofText? preimage = .ofText? preimage' :=
              Option.some.inj (hFields "preimage")
            cases Msat.optionToJson_inj hFee
            cases ofText?_inj hPreimage
            rfl
        | pending => exact absurd hName (by simp [name])
        | failed => exact absurd hName (by simp [name])
    | pending =>
        cases t with
        | pending => rfl
        | success fee preimage => exact absurd hName (by simp [name])
        | failed => exact absurd hName (by simp [name])
    | failed =>
        cases t with
        | pending => exact absurd hName (by simp [name])
        | success fee preimage => exact absurd hName (by simp [name])
        | failed => rfl

end SettlementStatus

------------------------------------------------------------
-- All Forms
------------------------------------------------------------

/-
  Every balance, invoice, payment and state is read back from
  the JSON text that is written of it, and two different ones of
  a type never make one JSON document.
-/
theorem wire_forms_faithful :
    IsFaithful BalanceAnswer.toJson BalanceAnswer.parse? ∧
      IsFaithful InvoiceAnswer.toJson InvoiceAnswer.parse? ∧
      IsFaithful PaymentAnswer.toJson PaymentAnswer.parse? ∧
      IsFaithful SettlementStatus.toJson
        SettlementStatus.parse? :=
  ⟨BalanceAnswer.isFaithful, InvoiceAnswer.isFaithful,
    PaymentAnswer.isFaithful, SettlementStatus.isFaithful⟩

end LightningGateway.Payment
