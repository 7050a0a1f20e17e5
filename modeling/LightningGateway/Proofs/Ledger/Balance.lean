import LightningGateway.Proofs.Ledger.Record
import LightningGateway.Wallet
import Mathlib.Algebra.Order.BigOperators.Group.List
import Mathlib.Algebra.Order.Ring.Int

/-
  The balance of a wallet in memory.

  The balance is added up over entries that are kept in no
  particular order, and every sum stops at the largest amount.
  As no amount is negative, such a sum is the exact one or the
  largest amount, in whatever order it is taken, and to subtract
  one from another is exact.

  Key definitions include:
    * `Ledger.takings`
    * `Ledger.costs`

  Main results:
    * `Msat.value_total`
    * `Ledger.Shared.Agrees.value_incoming`
    * `Ledger.Shared.Agrees.value_outgoing`
    * `Ledger.Shared.balance_law`
-/

namespace LightningGateway

open Payment Provider Relay Settings

------------------------------------------------------------
-- Sums That Stop
------------------------------------------------------------

namespace Payment.Msat

/- What is not negative is cut at the largest amount. -/
theorem value_clamp
    {n : Int}
    (hNonneg : 0 ≤ n) :
    (clamp n).value = min n largest.value := by
  have hLower : -bound ≤ n :=
    Int.le_trans (by decide) hNonneg
  have hLargest : largest.value = bound - 1 := rfl
  rw [clamp, dif_pos hLower, hLargest]
  by_cases hUpper : n < bound
  · rw [dif_pos hUpper]
    exact (Int.min_eq_left (Int.le_sub_one_of_lt hUpper)).symm
  · rw [dif_neg hUpper, hLargest]
    exact (Int.min_eq_right (by omega)).symm

/- Amounts that are added one by one stop at the largest. -/
theorem value_foldl_plus
    {as : List Msat}
    {start : Msat}
    (hStart : 0 ≤ start.value)
    (hNonneg : ∀ a ∈ as, 0 ≤ a.value) :
    (as.foldl plus start).value =
      min (start.value + (as.map value).sum) largest.value := by
  induction as generalizing start with
  | nil =>
      have hUpper : start.value ≤ largest.value :=
        Int.le_sub_one_of_lt start.upper
      rw [List.foldl_nil, List.map_nil, List.sum_nil,
        Int.add_zero, Int.min_eq_left hUpper]
  | cons a rest ih =>
      rw [List.forall_mem_cons] at hNonneg
      have hSum :
          (start.plus a).value =
            min (start.value + a.value) largest.value :=
        value_clamp (Int.add_nonneg hStart hNonneg.1)
      have hLargest : 0 ≤ largest.value := by decide
      have hNext : 0 ≤ (start.plus a).value := by
        rw [hSum]
        exact le_min (Int.add_nonneg hStart hNonneg.1) hLargest
      have hRest : 0 ≤ (rest.map value).sum := by
        apply List.sum_nonneg
        intro n hMem
        rcases List.mem_map.mp hMem with ⟨b, hIn, rfl⟩
        exact hNonneg.2 b hIn
      rw [List.foldl_cons, ih hNext hNonneg.2, hSum,
        List.map_cons, List.sum_cons]
      omega

/- A sum is the exact one, or the largest amount. -/
theorem value_total
    {as : List Msat}
    (hNonneg : ∀ a ∈ as, 0 ≤ a.value) :
    (total as).value =
      min (as.map value).sum largest.value := by
  rw [total, value_foldl_plus (Int.le_refl 0) hNonneg]
  exact congrArg (min · largest.value) (Int.zero_add _)

/- The difference of two amounts that are not negative is exact. -/
theorem value_minus
    {a b : Msat}
    (hFirst : 0 ≤ a.value)
    (hSecond : 0 ≤ b.value) :
    (a.minus b).value = a.value - b.value := by
  have hFirstUpper := a.upper
  have hSecondUpper := b.upper
  have hLower : -bound ≤ a.value - b.value := by omega
  have hUpper : a.value - b.value < bound := by omega
  rw [minus, clamp, dif_pos hLower, dif_pos hUpper]

end Payment.Msat

namespace Ledger

------------------------------------------------------------
-- Takings and Costs
------------------------------------------------------------

/- The amounts of the invoices that some acts settle. -/
def takings (acts : List Act) : List Int :=
  ((issues acts).filter (settledIn ·.id acts)).map Issue.amount

/- The amounts of the payments that some acts send. -/
def costs (acts : List Act) : List Int :=
  (outlays [] acts).map Prod.snd

namespace Shared

namespace Agrees

variable {acts : List Act}
variable {t : Shared}

/- No invoice on record has a negative amount. -/
theorem invoice_nonneg
    (hAgrees : Agrees acts t)
    {p : String × InvoiceEntry}
    (hMem : p ∈ t.ledger.invoices) :
    0 ≤ p.2.amount.value := by
  rcases hAgrees.exists_issue hMem with ⟨i, _, hLine⟩
  have hAmount : i.amount = p.2.amount.value :=
    congrArg Line.amount hLine
  rw [← hAmount]
  exact i.amount_nonneg

/- Nor has a payment. -/
theorem payment_nonneg
    (hAgrees : Agrees acts t)
    {p : String × PaymentEntry}
    (hMem : p ∈ t.ledger.payments) :
    0 ≤ p.2.amount.value := by
  have hCost : cost p ∈ outlays [] acts :=
    hAgrees.payments.mem_iff.mp (List.mem_map_of_mem hMem)
  exact outlays_nonneg hCost

/- What has come in is what was settled. -/
theorem value_incoming
    (hAgrees : Agrees acts t) :
    t.ledger.incoming.value =
      min (takings acts).sum Msat.largest.value := by
  have hAmounts :
      (((t.ledger.invoices.filter (·.2.settled)).map
        (·.2.amount)).map Msat.value).Perm (takings acts) := by
    have hSettled :=
      (hAgrees.invoices.filter Line.settled).map Line.amount
    rw [List.filter_map, List.filter_map, List.map_map,
      List.map_map] at hSettled
    rw [List.map_map]
    exact hSettled
  rw [incoming, Msat.value_total, hAmounts.sum_eq]
  intro a hMem
  rcases List.mem_map.mp hMem with ⟨p, hIn, rfl⟩
  exact hAgrees.invoice_nonneg (List.mem_of_mem_filter hIn)

/- What has gone out is what was paid. -/
theorem value_outgoing
    (hAgrees : Agrees acts t) :
    t.ledger.outgoing.value =
      min (costs acts).sum Msat.largest.value := by
  have hAmounts :
      ((t.ledger.payments.map (·.2.amount)).map
        Msat.value).Perm (costs acts) := by
    have hPaid := hAgrees.payments.map Prod.snd
    rw [List.map_map] at hPaid
    rw [List.map_map]
    exact hPaid
  rw [outgoing, Msat.value_total, hAmounts.sum_eq]
  intro a hMem
  rcases List.mem_map.mp hMem with ⟨p, hIn, rfl⟩
  exact hAgrees.payment_nonneg hIn

/- Nothing is lost when one is taken from the other. -/
theorem value_balance
    (hAgrees : Agrees acts t) :
    t.ledger.balance.value =
      t.ledger.incoming.value - t.ledger.outgoing.value := by
  have hLargest : 0 ≤ Msat.largest.value := by decide
  apply Msat.value_minus
  · rw [hAgrees.value_incoming]
    refine le_min (List.sum_nonneg ?_) hLargest
    intro n hMem
    rcases List.mem_map.mp hMem with ⟨i, _, rfl⟩
    exact i.amount_nonneg
  · rw [hAgrees.value_outgoing]
    refine le_min (List.sum_nonneg ?_) hLargest
    intro n hMem
    rcases List.mem_map.mp hMem with ⟨p, hIn, rfl⟩
    exact outlays_nonneg hIn

end Agrees

/-
  For all settings and in every course of a wallet, in whatever
  order it keeps its entries: no amount on record is negative,
  the balance is the sum of the invoices that were settled so
  far, each of them counted once, less the sum of the payments
  that were sent, either sum stopping at the largest amount, the
  difference is exact, and the balance is what the wallet tells.
  Two courses that settle invoices over the same amounts and
  send payments of the same amounts end with one balance.
-/
theorem balance_law
    {s : FakeSettings}
    {f : FundingSettings}
    {acts : List Act}
    {t : Shared}
    (hCourse : Course s f acts t)
    (hIssued : ((issues acts).map Issue.id).Nodup)
    (hPaid : ((outlays [] acts).map Prod.fst).Nodup) :
    (∀ p ∈ t.ledger.invoices, 0 ≤ p.2.amount.value) ∧
    (∀ p ∈ t.ledger.payments, 0 ≤ p.2.amount.value) ∧
    t.ledger.balance.value =
      min (takings acts).sum (Msat.bound - 1) -
        min (costs acts).sum (Msat.bound - 1) ∧
    t.ledger.balance.value =
      t.ledger.incoming.value - t.ledger.outgoing.value ∧
    (∀ script,
      ((Wallet.memory t.ledger).run
        (Wallet.memory t.ledger).balance script).result =
        some (.known t.ledger.balance)) ∧
    ∀ {s' : FakeSettings} {f' : FundingSettings}
        {others : List Act} {u : Shared},
      Course s' f' others u →
      ((issues others).map Issue.id).Nodup →
      ((outlays [] others).map Prod.fst).Nodup →
      (takings acts).Perm (takings others) →
      (costs acts).Perm (costs others) →
      u.ledger.balance = t.ledger.balance := by
  have hAgrees := agrees_of_course hCourse hIssued hPaid
  refine ⟨fun _ => hAgrees.invoice_nonneg,
    fun _ => hAgrees.payment_nonneg, ?_, hAgrees.value_balance,
    fun _ => rfl, ?_⟩
  · rw [hAgrees.value_balance, hAgrees.value_incoming,
      hAgrees.value_outgoing]
    rfl
  · intro s' f' others u hOther hIssuedOther hPaidOther
      hTakings hCosts
    have hAgreesOther :=
      agrees_of_course hOther hIssuedOther hPaidOther
    apply Msat.ext_value
    rw [hAgreesOther.value_balance, hAgrees.value_balance,
      hAgreesOther.value_incoming, hAgrees.value_incoming,
      hAgreesOther.value_outgoing, hAgrees.value_outgoing,
      hTakings.sum_eq, hCosts.sum_eq]

/- Two invoices are settled, one of them twice and one paid. -/
def marketDay : List Act :=
  [.createInvoice [1] (.ofSat 1), .createInvoice [2] (.ofSat 2),
   .mark firstId, .mark secondId, .mark firstId,
   .payInvoice [3] (paymentRequestOf 2 secondId)]

/- The wallet after that. -/
def sold : Shared :=
  (narrow.run? marketDay).getD narrow

/- The same wallet with its invoices the other way round. -/
def reversed : Shared :=
  { sold with
    ledger :=
      { sold.ledger with
        invoices := sold.ledger.invoices.reverse } }

/- It has three satoshis of takings and has paid two. -/
theorem balance_law_of_marketDay :
    ((issues marketDay).map Issue.id).Nodup ∧
      ((outlays [] marketDay).map Prod.fst).Nodup ∧
      Course ⟨none⟩ ⟨.fake, "agent", 5, 1⟩ marketDay reversed ∧
      takings marketDay = [1000, 2000] ∧
      costs marketDay = [2000] ∧
      reversed.ledger.balance.value = 1000 := by
  have hRun :
      ((issues marketDay).map Issue.id).Nodup ∧
        ((outlays [] marketDay).map Prod.fst).Nodup ∧
        narrow.run? marketDay = some sold ∧
        takings marketDay = [1000, 2000] ∧
        costs marketDay = [2000] := by
    decide +kernel
  rcases hRun with ⟨hIssued, hPaid, hRun, hTakings, hCosts⟩
  have hCourse :
      Course ⟨none⟩ ⟨.fake, "agent", 5, 1⟩ marketDay reversed :=
    .rearrange (course_of_run hRun) (List.reverse_perm _).symm
      (List.Perm.refl _)
  refine ⟨hIssued, hPaid, hCourse, hTakings, hCosts, ?_⟩
  rcases balance_law hCourse hIssued hPaid with
    ⟨_, _, hBalance, _⟩
  rw [hBalance, hTakings, hCosts]
  rfl

end Shared

end Ledger

end LightningGateway
