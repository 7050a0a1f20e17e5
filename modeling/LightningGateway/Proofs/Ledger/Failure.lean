import LightningGateway.Proofs.Ledger.Settlement

/-
  When a wallet in memory refuses something.

  An invoice is refused if its amount is too large, a payment if
  its request is neither one of the wallet itself nor can be
  read and paid, and a settlement if there is no such invoice.
  Nothing else is ever refused, and what is refused leaves no
  trace: the wallet is the same with and without it, whatever
  is done by others meanwhile.

  Key definitions include:
    * `Ledger.Owns`
    * `Ledger.Refuses`
    * `Ledger.failure?`
    * `Ledger.Shared.failures`
    * `Ledger.Shared.succeeding`

  Main results:
    * `Ledger.failure?_eq_some_iff`
    * `Ledger.Shared.step?_of_failure?`
    * `Ledger.Shared.run?_succeeding`
    * `Ledger.Shared.failures_change_nothing`
-/

namespace LightningGateway

open Payment

------------------------------------------------------------
-- Amounts That Are Too Large
------------------------------------------------------------

/- A natural number has no amount if it is too large. -/
theorem Payment.Msat.ofInt?_natCast_eq_none_iff {n : Nat} :
    Msat.ofInt? n = none ↔ Msat.bound ≤ n := by
  have hLower : -Msat.bound ≤ (n : Int) :=
    Int.le_trans (by decide) (Int.natCast_nonneg n)
  rw [← Option.not_isSome_iff_eq_none, Msat.ofInt?_isSome_iff,
    and_iff_right hLower, Int.not_lt]

/- The amount of a request is refused if it is too large. -/
theorem Payment.InvoiceRequest.amount_eq_error_iff
    {r : InvoiceRequest}
    {e : GatewayError} :
    r.amount = .error e ↔
      Msat.bound ≤ (r.amountSat.toNat : Int) * 1000 ∧
        e = .invalidInvoice
          (toString r.amountSat.toNat ++
            " sat is out of range") := by
  have hCast :
      (r.amountSat.toNat : Int) * 1000 =
        (r.amountSat.toNat * 1000 : Nat) :=
    (Int.natCast_mul _ 1000).symm
  unfold InvoiceRequest.amount Msat.ofSat? Msat.perSat
  rw [hCast, ← Msat.ofInt?_natCast_eq_none_iff]
  split
  · rename_i a hSome
    rw [hSome]
    simp
  · rename_i hNone
    rw [hNone, Except.error.injEq, eq_comm]
    simp only [true_and]

namespace Ledger

------------------------------------------------------------
-- Refusals
------------------------------------------------------------

/- Whether a request is the one of an invoice on record. -/
def Owns
    (l : Ledger)
    (request : String) : Prop :=
  ∃ p ∈ l.invoices, p.2.paymentRequest = request

/- Whether an invoice is on record as paid. -/
def IsPaid
    (l : Ledger)
    (id : String) : Prop :=
  ∃ e, l.invoices.lookup id = some e ∧ e.settled = true

/- What a wallet refuses, and how it words that. -/
inductive Refuses (l : Ledger) : Act → String → Prop
  | tooLarge
      (random : List UInt8)
      (r : InvoiceRequest)
      (hLarge :
        Msat.bound ≤ (r.amountSat.toNat : Int) * 1000) :
      Refuses l (.createInvoice random r)
        ("invalid invoice: " ++
          (toString r.amountSat.toNat ++ " sat is out of range"))
  | unreadable
      (random : List UInt8)
      (request : String)
      (e : Bolt11.InvoiceError)
      (hForeign : ¬l.Owns request)
      (hRead : Bolt11.Invoice.parse request = .error e) :
      Refuses l (.payInvoice random request)
        ("invalid invoice: " ++ e.message)
  | unpayable
      (random : List UInt8)
      (request : String)
      (i : Bolt11.Invoice)
      (n : Nat)
      (hForeign : ¬l.Owns request)
      (hRead : Bolt11.Invoice.parse request = .ok i)
      (hAmount : i.amount = some n)
      (hLarge : Msat.bound ≤ n) :
      Refuses l (.payInvoice random request)
        ("invalid invoice: " ++
          (toString n ++ " msat is out of range"))
  | unknown
      (id : String)
      (hUnknown : id ∉ l.invoices.map Prod.fst) :
      Refuses l (.mark id)
        ("invalid invoice: " ++ (id ++ " not found"))

/- What the answer to an act says went wrong, if anything did. -/
def failure?
    (l : Ledger) : Act → Option String
  | .createInvoice random r =>
      (l.createInvoice random r).1.errorMessage?
  | .payInvoice random request =>
      (l.payInvoice random request).1.errorMessage?
  | .mark id =>
      match l.settle id with
      | .ok _ => none
      | .error e => some e.message
  | _ => none

variable {l : Ledger}

------------------------------------------------------------
-- One Refusal for Each Operation
------------------------------------------------------------

/- A request has no amount on record if it is not one of them. -/
theorem ownAmount?_eq_none_iff {request : String} :
    l.ownAmount? request = none ↔ ¬l.Owns request := by
  simp [ownAmount?, Owns]

/- An invoice from elsewhere is refused if it cannot be paid. -/
theorem foreignAmount_eq_error_iff
    {request : String}
    {e : GatewayError} :
    foreignAmount request = .error e ↔
      (∃ f, Bolt11.Invoice.parse request = .error f ∧
        e = .invalidInvoice f.message) ∨
      (∃ i n, Bolt11.Invoice.parse request = .ok i ∧
        i.amount = some n ∧ Msat.bound ≤ n ∧
        e = .invalidInvoice
          (toString n ++ " msat is out of range")) := by
  unfold foreignAmount Bolt11.Invoice.amountOf Bolt11.Invoice.read
  cases hRead : Bolt11.Invoice.parse request with
  | error f =>
      simp [Except.mapError, Except.map, eq_comm]
  | ok i =>
      simp only [Except.mapError, Except.map, reduceCtorEq,
        false_and, exists_false, Except.ok.injEq, false_or,
        exists_and_left, exists_eq_left']
      cases hAmount : i.amount with
      | none =>
          -- An invoice may leave its amount open.
          have hZero : Msat.ofInt? 0 = some .zero := by decide
          simp [hZero]
      | some n =>
          simp only [Option.getD_some, Option.some.injEq,
            exists_eq_left', ← Msat.ofInt?_natCast_eq_none_iff]
          cases Msat.ofInt? n <;> simp [eq_comm]

/- A payment is refused if its request is neither of the two. -/
theorem amountToPay_eq_error_iff
    {request : String}
    {e : GatewayError} :
    l.amountToPay request = .error e ↔
      ¬l.Owns request ∧ foreignAmount request = .error e := by
  rw [← ownAmount?_eq_none_iff, amountToPay]
  cases l.ownAmount? request <;> simp

/- A settlement is refused if there is no such invoice. -/
theorem settle_eq_error_iff
    {id : String}
    {e : GatewayError} :
    l.settle id = .error e ↔
      id ∉ l.invoices.map Prod.fst ∧ e = notFound id := by
  constructor
  · intro hError
    constructor
    · intro hRecorded
      rcases exists_settle hRecorded with ⟨m, hSettled⟩
      rw [hSettled] at hError
      cases hError
    · unfold settle at hError
      split at hError
      · cases hError
        rfl
      · split at hError <;> cases hError
  · rintro ⟨hUnknown, rfl⟩
    have hNone : l.invoices.lookup id = none := by
      refine List.lookup_eq_none_iff.mpr fun p hMem => ?_
      rw [bne_iff_ne]
      rintro rfl
      exact hUnknown (List.mem_map_of_mem hMem)
    rw [settle, hNone]

------------------------------------------------------------
-- Refused Acts
------------------------------------------------------------

/- An invoice is not issued if its amount is refused. -/
theorem failure?_createInvoice_iff
    {random : List UInt8}
    {r : InvoiceRequest}
    {text : String} :
    l.failure? (.createInvoice random r) = some text ↔
      ∃ e, r.amount = .error e ∧ e.message = text := by
  cases hAmount : r.amount <;>
    simp [failure?, createInvoice, hAmount,
      InvoiceAnswer.ofError, InvoiceAnswer.errorMessage?]

/- A payment is not sent if its amount is refused. -/
theorem failure?_payInvoice_iff
    {random : List UInt8}
    {request text : String} :
    l.failure? (.payInvoice random request) = some text ↔
      ∃ e, l.amountToPay request = .error e ∧
        e.message = text := by
  cases hAmount : l.amountToPay request <;>
    simp [failure?, payInvoice, hAmount,
      PaymentAnswer.ofError, PaymentAnswer.errorMessage?]

/- An invoice is not marked if its settlement is refused. -/
theorem failure?_mark_iff {id text : String} :
    l.failure? (.mark id) = some text ↔
      ∃ e, l.settle id = .error e ∧ e.message = text := by
  cases hSettle : l.settle id <;> simp [failure?, hSettle]

/- Something goes wrong exactly if it is refused. -/
theorem failure?_eq_some_iff
    {a : Act}
    {text : String} :
    l.failure? a = some text ↔ l.Refuses a text := by
  constructor
  · intro hFailure
    cases a with
    | createInvoice random r =>
        rcases failure?_createInvoice_iff.mp hFailure with
          ⟨e, hError, rfl⟩
        rcases InvoiceRequest.amount_eq_error_iff.mp hError with
          ⟨hLarge, rfl⟩
        exact .tooLarge random r hLarge
    | payInvoice random request =>
        rcases failure?_payInvoice_iff.mp hFailure with
          ⟨e, hError, rfl⟩
        rcases amountToPay_eq_error_iff.mp hError with
          ⟨hForeign, hAmount⟩
        rcases foreignAmount_eq_error_iff.mp hAmount with
          ⟨f, hRead, rfl⟩ | ⟨i, n, hRead, hNumber, hLarge, rfl⟩
        · exact .unreadable random request f hForeign hRead
        · exact .unpayable random request i n hForeign hRead
            hNumber hLarge
    | mark id =>
        rcases failure?_mark_iff.mp hFailure with
          ⟨e, hError, rfl⟩
        rcases settle_eq_error_iff.mp hError with
          ⟨hUnknown, rfl⟩
        exact .unknown id hUnknown
    | _ => cases hFailure
  · intro hRefuses
    cases hRefuses with
    | tooLarge random r hLarge =>
        exact failure?_createInvoice_iff.mpr
          ⟨_, InvoiceRequest.amount_eq_error_iff.mpr
            ⟨hLarge, rfl⟩, rfl⟩
    | unreadable random request e hForeign hRead =>
        exact failure?_payInvoice_iff.mpr
          ⟨_, amountToPay_eq_error_iff.mpr
            ⟨hForeign, foreignAmount_eq_error_iff.mpr
              (.inl ⟨e, hRead, rfl⟩)⟩, rfl⟩
    | unpayable random request i n hForeign hRead hAmount hLarge =>
        exact failure?_payInvoice_iff.mpr
          ⟨_, amountToPay_eq_error_iff.mpr
            ⟨hForeign, foreignAmount_eq_error_iff.mpr
              (.inr ⟨i, n, hRead, hAmount, hLarge, rfl⟩)⟩, rfl⟩
    | unknown id hUnknown =>
        exact failure?_mark_iff.mpr
          ⟨_, settle_eq_error_iff.mpr ⟨hUnknown, rfl⟩, rfl⟩

namespace Shared

variable {s t : Shared} {a : Act}

/- What is refused leaves the wallet as it is. -/
theorem step?_of_failure?
    {text : String}
    (hFailure : s.ledger.failure? a = some text) :
    s.step? a = some s := by
  cases a with
  | createInvoice random r =>
      rcases failure?_createInvoice_iff.mp hFailure with
        ⟨e, hError, -⟩
      simp only [step?, createInvoice, hError]
  | payInvoice random request =>
      rcases failure?_payInvoice_iff.mp hFailure with
        ⟨e, hError, -⟩
      simp only [step?, payInvoice, hError]
  | mark id =>
      rcases failure?_mark_iff.mp hFailure with
        ⟨e, hError, -⟩
      have hNone : s.ledger.invoices.lookup id = none := by
        rw [settle] at hError
        split at hError
        · assumption
        · split at hError <;> cases hError
      simp only [step?, mark, hNone]
  | _ => cases hFailure

/- An invoice that is paid is settled again without a trace. -/
theorem settle_of_isPaid
    {id : String}
    (hPaid : s.ledger.IsPaid id) :
    s.ledger.settle id = .ok s.ledger ∧
      s.step? (.mark id) = some s := by
  rcases hPaid with ⟨e, hFound, hSettled⟩
  constructor
  · simp only [settle, hFound, if_pos hSettled]
  · simp only [step?, mark, hFound, if_pos hSettled]

------------------------------------------------------------
-- Whole Runs
------------------------------------------------------------

/- What goes wrong in the course of some acts. -/
def failures
    (s : Shared)
    (acts : List Act) : List String :=
  Run.outputs step? (fun s a => (s.ledger.failure? a).toList)
    s acts

/- The acts with which nothing goes wrong. -/
def succeeding
    (s : Shared)
    (acts : List Act) : List Act :=
  Run.outputs step?
    (fun s a => if (s.ledger.failure? a).isNone then [a] else [])
    s acts

/- Acts may be left out if they go wrong. -/
theorem run?_succeeding
    {acts : List Act}
    (hRun : s.run? acts = some t) :
    s.run? (s.succeeding acts) = some t := by
  refine Run.run_outputs (p := id) ?_ hRun
  intro s t a hStep
  cases hFailure : s.ledger.failure? a with
  | none =>
      exact Run.run_cons_eq_some_iff.mpr ⟨t, hStep, rfl⟩
  | some text =>
      rw [step?_of_failure? hFailure] at hStep
      exact hStep

/- Then nothing goes wrong any more. -/
theorem failures_succeeding
    (s : Shared)
    (acts : List Act) :
    s.failures (s.succeeding acts) = [] := by
  induction acts generalizing s with
  | nil => rfl
  | cons a rest ih =>
      unfold succeeding
      rw [Run.outputs]
      cases hStep : s.step? a with
      | none => rfl
      | some m =>
          cases hFailure : s.ledger.failure? a with
          | none =>
              simp only [failures, Run.outputs, hFailure, hStep,
                Option.isNone_none, if_true, Option.toList_none,
                List.singleton_append, List.nil_append]
              exact ih m
          | some text =>
              rw [step?_of_failure? hFailure] at hStep
              cases hStep
              exact ih s

/-
  For a wallet in memory in whatever state, in the midst of
  settlements by others too: the acts with which something goes
  wrong are exactly those that are refused, in words that tell
  why; none of them changes anything, and neither does settling
  an invoice that is paid, with which nothing goes wrong.  So
  whatever is done leads to the same wallet as those acts alone
  with which nothing went wrong.
-/
theorem failures_change_nothing (s : Shared) :
    (∀ a text,
      s.ledger.failure? a = some text ↔
        s.ledger.Refuses a text) ∧
    (∀ a text, s.ledger.Refuses a text →
      s.step? a = some s) ∧
    (∀ id, s.ledger.IsPaid id →
      s.ledger.settle id = .ok s.ledger ∧
        s.step? (.mark id) = some s) ∧
    (∀ acts t, s.run? acts = some t →
      s.run? (s.succeeding acts) = some t ∧
        s.failures (s.succeeding acts) = []) := by
  refine ⟨fun a text => failure?_eq_some_iff, ?_,
    fun id => settle_of_isPaid, ?_⟩
  · intro a text hRefuses
    exact step?_of_failure? (failure?_eq_some_iff.mpr hRefuses)
  · intro acts t hRun
    exact ⟨run?_succeeding hRun, failures_succeeding s acts⟩

/- A wallet whose only invoice is paid. -/
def onePaid : Shared :=
  ⟨⟨[("a", ⟨"lnfake1n1a", .zero, "p", true⟩)], [],
    .ofCapacity 1, none, [], 0, false⟩, []⟩

/- An act of each kind that is refused, and one that is not. -/
def mostlyRefused : List Act :=
  [.createInvoice [] (.ofSat 9223372036854776),
   .payInvoice [] "lnbc", .mark "b", .mark "a"]

/- All of them leave the wallet as it is. -/
theorem failures_change_nothing_of_mostlyRefused :
    onePaid.failures mostlyRefused =
      ["invalid invoice: 9223372036854776 sat is out of range",
       "invalid invoice: Invalid bech32: parse failed: " ++
         "character error: invalid character (code=b)",
       "invalid invoice: b not found"] ∧
    onePaid.succeeding mostlyRefused = [.mark "a"] ∧
    onePaid.ledger.Refuses (.mark "b")
      "invalid invoice: b not found" ∧
    onePaid.run? mostlyRefused = some onePaid ∧
    onePaid.run? [.mark "a"] = some onePaid := by
  have hRun : onePaid.run? mostlyRefused = some onePaid := by
    decide +kernel
  have hLeft :
      onePaid.succeeding mostlyRefused = [.mark "a"] := by
    decide +kernel
  rcases failures_change_nothing onePaid with
    ⟨hRefuses, -, -, hRuns⟩
  refine ⟨by decide +kernel, hLeft,
    (hRefuses _ _).mp (by decide +kernel), hRun, ?_⟩
  rw [← hLeft]
  exact (hRuns mostlyRefused onePaid hRun).1

end Shared

end Ledger

end LightningGateway
