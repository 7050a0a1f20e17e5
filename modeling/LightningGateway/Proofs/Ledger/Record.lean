import LightningGateway.Proofs.Backend.Balance
import LightningGateway.Proofs.Ledger.Preimage

/-
  What a wallet in memory has on record.

  Invoices and payments are kept in no particular order: between
  any two acts the entries may be rearranged, and somebody else
  may use the queue.  The acts alone determine what is recorded
  all the same: every invoice that was issued, with its amount
  and whether it was settled since, and every payment that was
  sent, with what it has cost.

  An invoice of the wallet itself is found by the text of its
  payment request.  Several may have one text, but then they
  have one amount.

  Key definitions include:
    * `Ledger.Issue`
    * `Ledger.issues`
    * `Ledger.settledIn`
    * `Ledger.outlays`
    * `Ledger.Shared.Course`
    * `Ledger.Shared.Agrees`

  Main results:
    * `Ledger.amount_eq_of_request`
    * `Ledger.Shared.Agrees.price?_eq`
    * `Ledger.Shared.Agrees.snoc`
    * `Ledger.Shared.agrees_of_course`
-/

namespace LightningGateway

open Payment Relay Settings

namespace Ledger

------------------------------------------------------------
-- Issued Invoices
------------------------------------------------------------

/- An invoice, as it is issued. -/
structure Issue where
  id : String
  sat : UInt64
  deriving DecidableEq, Repr

namespace Issue

/- The amount of an invoice, in thousandths of a satoshi. -/
def amount (i : Issue) : Int :=
  (i.sat.toNat : Int) * 1000

/- The payment request of an invoice. -/
def request (i : Issue) : String :=
  paymentRequestOf i.sat i.id

/- No amount is negative. -/
theorem amount_nonneg (i : Issue) : 0 ≤ i.amount :=
  Int.mul_nonneg (Int.natCast_nonneg _) (Int.natCast_nonneg 1000)

end Issue

/- The invoice that an act issues, if its amount is in range. -/
def Act.issue? : Act → Option Issue
  | .createInvoice random r =>
      if (r.amountSat.toNat : Int) * 1000 < Msat.bound then
        some ⟨idOf (Crypto.Sha256.hash random), r.amountSat⟩
      else none
  | _ => none

/- A request with an amount in range issues its invoice. -/
theorem Act.issue?_of_ok
    {r : InvoiceRequest}
    {amount : Msat}
    (random : List UInt8)
    (hAmount : r.amount = .ok amount) :
    (Act.createInvoice random r).issue? =
      some ⟨idOf (Crypto.Sha256.hash random), r.amountSat⟩ := by
  rw [Act.issue?, if_pos (r.exists_amount_iff.mp ⟨_, hAmount⟩)]

/- Any other issues none. -/
theorem Act.issue?_of_error
    {r : InvoiceRequest}
    {e : GatewayError}
    (random : List UInt8)
    (hAmount : r.amount = .error e) :
    (Act.createInvoice random r).issue? = none := by
  rw [Act.issue?, if_neg]
  intro hSmall
  rcases r.exists_amount_iff.mpr hSmall with ⟨b, hGood⟩
  rw [hAmount] at hGood
  cases hGood

/- The invoices that some acts issue. -/
def issues (acts : List Act) : List Issue :=
  acts.filterMap Act.issue?

/- One act more issues its invoice last. -/
theorem issues_snoc
    (past : List Act)
    (a : Act) :
    issues (past ++ [a]) = issues past ++ a.issue?.toList := by
  rw [issues, List.filterMap_append]
  cases hIssue : a.issue? <;> simp [issues, hIssue]

/-
  Whether an invoice is settled in the course of some acts: by
  one that comes after the one that issues it.
-/
def settledIn
    (id : String) : List Act → Bool
  | [] => false
  | a :: rest =>
      (a.issue?.any (·.id == id) &&
        rest.any (·.settles? == some id)) ||
      settledIn id rest

/- One act more settles an invoice that was issued before. -/
theorem settledIn_snoc
    (id : String)
    (past : List Act)
    (a : Act) :
    settledIn id (past ++ [a]) =
      (settledIn id past ||
        ((issues past).any (·.id == id) &&
          a.settles? == some id)) := by
  induction past with
  | nil => simp [settledIn, issues]
  | cons first rest ih =>
      have hIssues :
          (issues (first :: rest)).any (·.id == id) =
            (first.issue?.any (·.id == id) ||
              (issues rest).any (·.id == id)) := by
        cases hFirst : first.issue? <;>
          simp [issues, hFirst]
      rw [List.cons_append, settledIn, ih, hIssues, settledIn,
        List.any_append, List.any_cons, List.any_nil,
        Bool.or_false]
      cases first.issue?.any (·.id == id) <;>
        cases settledIn id rest <;>
        cases (a.settles? == some id) <;>
        simp

/- An invoice that is settled was issued. -/
theorem exists_issue_of_settledIn
    {id : String}
    {acts : List Act}
    (hSettled : settledIn id acts = true) :
    ∃ i ∈ issues acts, i.id = id := by
  induction acts with
  | nil => cases hSettled
  | cons a rest ih =>
      rw [settledIn, Bool.or_eq_true, Bool.and_eq_true]
        at hSettled
      rcases hSettled with ⟨hIssued, _⟩ | hLater
      · cases hIssue : a.issue? with
        | none =>
            rw [hIssue] at hIssued
            cases hIssued
        | some i =>
            rw [hIssue] at hIssued
            refine ⟨i, ?_, beq_iff_eq.mp hIssued⟩
            exact List.mem_filterMap.mpr ⟨a, .head rest, hIssue⟩
      · rcases ih hLater with ⟨i, hMem, hId⟩
        refine ⟨i, ?_, hId⟩
        rcases List.mem_filterMap.mp hMem with ⟨b, hAct, hIssue⟩
        exact List.mem_filterMap.mpr ⟨b, .tail a hAct, hIssue⟩

------------------------------------------------------------
-- Payment Requests
------------------------------------------------------------

/- The decimal digits of a number tell it. -/
theorem toDigits_inj
    {m n : Nat}
    (hSame : Nat.toDigits 10 m = Nat.toDigits 10 n) :
    m = n := by
  have hBoth := congrArg (Nat.ofDigitChars 10 · 0) hSame
  simpa only [Nat.ofDigitChars_ten_toDigits] using hBoth

/-
  The text of a payment request tells its amount, which ends
  with the first letter after the digits.
-/
theorem amount_eq_of_request
    {i j : Issue}
    (hSame : i.request = j.request) :
    i.amount = j.amount := by
  have hDigits (k : Issue) :
      (k.request.toList.drop 6).takeWhile Char.isDigit =
        Nat.toDigits 10 k.sat.toNat := by
    have hText :
        k.request.toList.drop 6 =
          Nat.toDigits 10 k.sat.toNat ++
            'n' :: '1' :: k.id.toList.take requestIdLength := by
      simp [Issue.request, paymentRequestOf, Nat.toString_eq_repr,
        Nat.toList_repr]
    rw [hText, List.takeWhile_append_of_pos]
    · simp
    · intro c hMem
      exact Nat.isDigit_of_mem_toDigits (by decide) (by decide) hMem
  have hNumber : i.sat.toNat = j.sat.toNat := by
    apply toDigits_inj
    rw [← hDigits i, ← hDigits j, hSame]
  rw [Issue.amount, Issue.amount, hNumber]

------------------------------------------------------------
-- Payments
------------------------------------------------------------

/-
  What it costs to pay a request after some acts: the amount of
  the invoice that they have issued for it, or else the amount
  that is read in it, if it can be paid at all.
-/
def price?
    (past : List Act)
    (request : String) : Option Int :=
  match (issues past).find? (·.request == request) with
  | some i => some i.amount
  | none => (foreignAmount request).toOption.map Msat.value

/- The id of a payment. -/
def paymentId
    (random : List UInt8)
    (request : String) : String :=
  idOf (Crypto.Sha256.hash
    (Text.Utf8.encode (request ++ ":") ++ random))

/- The payment that an act sends after others: its id and cost. -/
def Act.outlay?
    (past : List Act) : Act → Option (String × Int)
  | .payInvoice random request =>
      (price? past request).map (paymentId random request, ·)
  | _ => none

/- The payments that some acts send after others. -/
def outlays
    (past : List Act) : List Act → List (String × Int)
  | [] => []
  | a :: rest =>
      (a.outlay? past).toList ++ outlays (past ++ [a]) rest

/- One act more sends its payment last. -/
theorem outlays_snoc
    (past acts : List Act)
    (a : Act) :
    outlays past (acts ++ [a]) =
      outlays past acts ++ (a.outlay? (past ++ acts)).toList := by
  induction acts generalizing past with
  | nil => simp [outlays]
  | cons first rest ih =>
      rw [List.cons_append, outlays, ih, outlays,
        List.append_assoc, List.append_assoc,
        List.singleton_append]

/- No request costs less than nothing. -/
theorem price?_nonneg
    {past : List Act}
    {request : String}
    {n : Int}
    (hPrice : price? past request = some n) :
    0 ≤ n := by
  unfold price? at hPrice
  split at hPrice
  · rename_i i hFound
    cases hPrice
    exact i.amount_nonneg
  · rcases Option.map_eq_some_iff.mp hPrice with
      ⟨a, hAmount, rfl⟩
    unfold foreignAmount at hAmount
    split at hAmount
    · cases hAmount
    · dsimp only at hAmount
      split at hAmount
      · rename_i b hRange
        cases hAmount
        rw [Msat.value_of_ofInt? hRange]
        exact Int.natCast_nonneg _
      · cases hAmount

/- So with the payments that are sent. -/
theorem outlays_nonneg
    {past acts : List Act}
    {p : String × Int}
    (hMem : p ∈ outlays past acts) :
    0 ≤ p.2 := by
  induction acts generalizing past with
  | nil => cases hMem
  | cons a rest ih =>
      rw [outlays, List.mem_append] at hMem
      rcases hMem with hNow | hLater
      · rw [Option.mem_toList] at hNow
        cases a with
        | payInvoice random request =>
            rcases Option.map_eq_some_iff.mp hNow with
              ⟨n, hPrice, rfl⟩
            exact price?_nonneg hPrice
        | _ => cases hNow
      · exact ih hLater

------------------------------------------------------------
-- Courses
------------------------------------------------------------

namespace Shared

/-
  The wallets that some acts may lead to, if the entries are
  kept in any order, and others use the queue as they like.
-/
inductive Course
    (s : FakeSettings)
    (f : FundingSettings) : List Act → Shared → Prop
  | start : Course s f [] (start s f)
  | act
      {past : List Act}
      {m t : Shared}
      {a : Act}
      (hPast : Course s f past m)
      (hStep : m.step? a = some t) :
      Course s f (past ++ [a]) t
  | rearrange
      {past : List Act}
      {m : Shared}
      {invoices : List (String × InvoiceEntry)}
      {payments : List (String × PaymentEntry)}
      (hPast : Course s f past m)
      (hInvoices : m.ledger.invoices.Perm invoices)
      (hPayments : m.ledger.payments.Perm payments) :
      Course s f past
        { m with
          ledger :=
            { m.ledger with
              invoices := invoices
              payments := payments } }
  | queue
      {past : List Act}
      {m : Shared}
      (hPast : Course s f past m)
      (q : RelayQueue) :
      Course s f past
        { m with ledger := { m.ledger with relay := q } }

/- Without these liberties a course is a run. -/
theorem course_of_run
    {s : FakeSettings}
    {f : FundingSettings}
    {acts : List Act}
    {t : Shared}
    (hRun : (start s f).run? acts = some t) :
    Course s f acts t :=
  Run.history_of_run (fun _ => .act) .start hRun

------------------------------------------------------------
-- Lines
------------------------------------------------------------

/- What is on record of an invoice. -/
structure Line where
  id : String
  request : String
  amount : Int
  settled : Bool

/- What an entry has on record. -/
def Line.ofEntry (p : String × InvoiceEntry) : Line :=
  ⟨p.1, p.2.paymentRequest, p.2.amount.value, p.2.settled⟩

/- What some acts put on record of an invoice. -/
def Line.ofIssue
    (acts : List Act)
    (i : Issue) : Line :=
  ⟨i.id, i.request, i.amount, settledIn i.id acts⟩

/- What is on record of an invoice that has its id settled. -/
def Line.settle
    (id : String)
    (l : Line) : Line :=
  { l with settled := l.settled || l.id == id }

/- The id and the cost of a payment on record. -/
def cost (p : String × PaymentEntry) : String × Int :=
  (p.1, p.2.amount.value)

/-
  How a wallet agrees with what has happened, whatever the order
  of its entries: it has the invoices that were issued, with
  those settled that were settled since, and the payments that
  were sent.
-/
structure Agrees
    (acts : List Act)
    (t : Shared) : Prop where
  invoices :
    (t.ledger.invoices.map Line.ofEntry).Perm
      ((issues acts).map (Line.ofIssue acts))
  payments :
    (t.ledger.payments.map cost).Perm (outlays [] acts)

namespace Agrees

variable {past : List Act}
variable {m t : Shared}
variable {a : Act}

/- The ids on record are those that were issued. -/
theorem keys
    (hAgrees : Agrees past m) :
    (m.ledger.invoices.map Prod.fst).Perm
      ((issues past).map Issue.id) := by
  have hIds := hAgrees.invoices.map Line.id
  rw [List.map_map, List.map_map] at hIds
  exact hIds

/- So with the ids of payments. -/
theorem paymentKeys
    (hAgrees : Agrees past m) :
    (m.ledger.payments.map Prod.fst).Perm
      ((outlays [] past).map Prod.fst) := by
  have hIds := hAgrees.payments.map Prod.fst
  rw [List.map_map] at hIds
  exact hIds

/- Every entry comes from an invoice that was issued. -/
theorem exists_issue
    (hAgrees : Agrees past m)
    {p : String × InvoiceEntry}
    (hMem : p ∈ m.ledger.invoices) :
    ∃ i ∈ issues past, Line.ofIssue past i = Line.ofEntry p :=
  List.mem_map.mp
    (hAgrees.invoices.mem_iff.mp (List.mem_map_of_mem hMem))

/- Every invoice that was issued has an entry. -/
theorem exists_entry
    (hAgrees : Agrees past m)
    {i : Issue}
    (hMem : i ∈ issues past) :
    ∃ p ∈ m.ledger.invoices,
      Line.ofEntry p = Line.ofIssue past i :=
  List.mem_map.mp
    (hAgrees.invoices.mem_iff.mpr (List.mem_map_of_mem hMem))

------------------------------------------------------------
-- Prices
------------------------------------------------------------

/- An own invoice is found, and in any order for one amount. -/
theorem ownAmount?_eq
    (hAgrees : Agrees past m)
    (request : String) :
    (m.ledger.ownAmount? request).map Msat.value =
      ((issues past).find? (·.request == request)).map
        Issue.amount := by
  unfold ownAmount?
  cases hEntry :
      m.ledger.invoices.find?
        (fun e => e.2.paymentRequest == request) with
  | none =>
      have hNone :
          (issues past).find? (·.request == request) = none := by
        rw [List.find?_eq_none] at hEntry ⊢
        intro i hMem hSame
        rcases hAgrees.exists_entry hMem with ⟨p, hIn, hLine⟩
        apply hEntry p hIn
        have hRequest : p.2.paymentRequest = i.request :=
          congrArg Line.request hLine
        rw [hRequest]
        exact hSame
      rw [hNone]
      rfl
  | some p =>
      rcases hAgrees.exists_issue (List.mem_of_find?_eq_some hEntry)
        with ⟨i, hMem, hLine⟩
      have hText := List.find?_some hEntry
      simp only [beq_iff_eq] at hText
      have hRequest : i.request = request :=
        (congrArg Line.request hLine).trans hText
      cases hFound :
          (issues past).find? (·.request == request) with
      | none =>
          refine absurd (beq_iff_eq.mpr hRequest) ?_
          exact List.find?_eq_none.mp hFound i hMem
      | some j =>
          have hOther := List.find?_some hFound
          simp only [beq_iff_eq] at hOther
          have hSame : i.request = j.request :=
            hRequest.trans hOther.symm
          have hAmount : i.amount = p.2.amount.value :=
            congrArg Line.amount hLine
          rw [Option.map_some, Option.map_some, Option.map_some,
            ← hAmount, amount_eq_of_request hSame]

/- So what a wallet pays is what the acts make it cost. -/
theorem price?_eq
    (hAgrees : Agrees past m)
    (request : String) :
    (m.ledger.amountToPay request).toOption.map Msat.value =
      price? past request := by
  have hOwn := hAgrees.ownAmount?_eq request
  unfold amountToPay price?
  cases hEntry : m.ledger.ownAmount? request with
  | none =>
      rw [hEntry, Option.map_none, eq_comm,
        Option.map_eq_none_iff] at hOwn
      rw [hOwn]
  | some a =>
      rw [hEntry, Option.map_some, eq_comm,
        Option.map_eq_some_iff] at hOwn
      rcases hOwn with ⟨i, hFound, hAmount⟩
      rw [hFound]
      exact congrArg some hAmount.symm

------------------------------------------------------------
-- One Act More
------------------------------------------------------------

/- What an act that settles nothing leaves on record. -/
theorem ofIssue_snoc
    (past : List Act)
    (hSettles : a.settles? = none)
    (i : Issue) :
    Line.ofIssue (past ++ [a]) i = Line.ofIssue past i := by
  rw [Line.ofIssue, settledIn_snoc, hSettles]
  simp [Line.ofIssue]

/- What an act that settles an invoice puts on record. -/
theorem ofIssue_snoc_settle
    {id : String}
    (hSettles : a.settles? = some id)
    {i : Issue}
    (hMem : i ∈ issues past) :
    Line.ofIssue (past ++ [a]) i =
      (Line.ofIssue past i).settle id := by
  have hIssued :
      (issues past).any (·.id == i.id) = true :=
    List.any_eq_true.mpr ⟨i, hMem, beq_self_eq_true i.id⟩
  have hSame : (some id == some i.id) = (i.id == id) := by
    rw [Bool.eq_iff_iff, beq_iff_eq, beq_iff_eq,
      Option.some_inj, eq_comm]
  rw [Line.ofIssue, settledIn_snoc, hSettles, hIssued,
    Bool.true_and, hSame]
  rfl

/- An act that leaves the entries alone puts nothing on record. -/
theorem snoc_idle
    (hAgrees : Agrees past m)
    (hIssue : a.issue? = none)
    (hSettles : a.settles? = none)
    (hOutlay : a.outlay? past = none)
    (hInvoices : t.ledger.invoices = m.ledger.invoices)
    (hPayments : t.ledger.payments = m.ledger.payments) :
    Agrees (past ++ [a]) t := by
  constructor
  · rw [hInvoices, issues_snoc, hIssue, Option.toList_none,
      List.append_nil, List.map_congr_left fun i _ =>
        ofIssue_snoc past hSettles i]
    exact hAgrees.invoices
  · rw [hPayments, outlays_snoc, List.nil_append, hOutlay,
      Option.toList_none, List.append_nil]
    exact hAgrees.payments

/- A new invoice is open. -/
theorem snoc_issue
    (hAgrees : Agrees past m)
    {i : Issue}
    {e : InvoiceEntry}
    (hIssue : a.issue? = some i)
    (hSettles : a.settles? = none)
    (hOutlay : a.outlay? past = none)
    (hFresh : i.id ∉ (issues past).map Issue.id)
    (hEntry :
      Line.ofEntry (i.id, e) =
        ⟨i.id, i.request, i.amount, false⟩)
    (hInvoices :
      t.ledger.invoices = record i.id e m.ledger.invoices)
    (hPayments : t.ledger.payments = m.ledger.payments) :
    Agrees (past ++ [a]) t := by
  have hOpen : settledIn i.id past = false := by
    apply eq_false_of_ne_true
    intro hSettled
    rcases exists_issue_of_settledIn hSettled with
      ⟨j, hMem, hId⟩
    exact hFresh (List.mem_map.mpr ⟨j, hMem, hId⟩)
  have hLine :
      Line.ofIssue (past ++ [a]) i = Line.ofEntry (i.id, e) := by
    rw [ofIssue_snoc past hSettles, hEntry, Line.ofIssue, hOpen]
  constructor
  · have hNew : i.id ∉ m.ledger.invoices.map Prod.fst := by
      rw [hAgrees.keys.mem_iff]
      exact hFresh
    rw [hInvoices, record_of_fresh hNew, issues_snoc, hIssue,
      Option.toList_some, List.map_append, List.map_append,
      List.map_singleton, List.map_singleton, hLine,
      List.map_congr_left fun i _ => ofIssue_snoc past hSettles i]
    exact hAgrees.invoices.append_right _
  · rw [hPayments, outlays_snoc, List.nil_append, hOutlay,
      Option.toList_none, List.append_nil]
    exact hAgrees.payments

/- A payment is recorded with its cost. -/
theorem snoc_pay
    (hAgrees : Agrees past m)
    {p : String × Int}
    {e : PaymentEntry}
    (hIssue : a.issue? = none)
    (hSettles : a.settles? = none)
    (hOutlay : a.outlay? past = some p)
    (hFresh : p.1 ∉ (outlays [] past).map Prod.fst)
    (hEntry : e.amount.value = p.2)
    (hInvoices : t.ledger.invoices = m.ledger.invoices)
    (hPayments :
      t.ledger.payments = record p.1 e m.ledger.payments) :
    Agrees (past ++ [a]) t := by
  constructor
  · rw [hInvoices, issues_snoc, hIssue, Option.toList_none,
      List.append_nil, List.map_congr_left fun i _ =>
        ofIssue_snoc past hSettles i]
    exact hAgrees.invoices
  · have hNew : p.1 ∉ m.ledger.payments.map Prod.fst := by
      rw [hAgrees.paymentKeys.mem_iff]
      exact hFresh
    have hCost : cost (p.1, e) = p := by
      rw [cost, hEntry]
    rw [hPayments, record_of_fresh hNew, outlays_snoc,
      List.nil_append, hOutlay, Option.toList_some,
      List.map_append, List.map_singleton, hCost]
    exact hAgrees.payments.append_right _

/- A settlement leaves other invoices alone. -/
theorem map_settle_of_fresh
    {id : String}
    {entries : List (String × InvoiceEntry)}
    (hFresh : id ∉ entries.map Prod.fst) :
    (entries.map Line.ofEntry).map (Line.settle id) =
      entries.map Line.ofEntry := by
  rw [List.map_map]
  apply List.map_congr_left
  intro p hMem
  have hOther : (p.1 == id) = false := by
    apply beq_eq_false_iff_ne.mpr
    rintro rfl
    exact hFresh (List.mem_map_of_mem hMem)
  simp [Line.settle, Line.ofEntry, hOther]

/- To mark an invoice settles it on record. -/
theorem lines_mark
    (s : Shared)
    (id : String)
    (hKeys : (s.ledger.invoices.map Prod.fst).Nodup) :
    (s.mark id).ledger.invoices.map Line.ofEntry =
      (s.ledger.invoices.map Line.ofEntry).map
        (Line.settle id) := by
  unfold Shared.mark
  cases hFound : s.ledger.invoices.lookup id with
  | none =>
      have hFresh : id ∉ s.ledger.invoices.map Prod.fst := by
        intro hMem
        rcases List.mem_map.mp hMem with ⟨p, hIn, rfl⟩
        have hOther := List.lookup_eq_none_iff.mp hFound p hIn
        simp at hOther
      exact (map_settle_of_fresh hFresh).symm
  | some e =>
      rcases exists_split_of_lookup hFound with
        ⟨before, after, hSplit, hFirst⟩
      rw [hSplit, List.map_append, List.map_cons] at hKeys
      rcases List.nodup_append.mp hKeys with
        ⟨_, hRest, hApart⟩
      have hBefore : id ∉ before.map Prod.fst :=
        fun hMem => hApart id hMem id (.head _) rfl
      have hAfter : id ∉ after.map Prod.fst :=
        (List.nodup_cons.mp hRest).1
      have hSettle :
          (Line.ofEntry (id, e)).settle id =
            Line.ofEntry (id, { e with settled := true }) := by
        simp [Line.settle, Line.ofEntry]
      have hLines :
          (s.ledger.invoices.map Line.ofEntry).map
              (Line.settle id) =
            before.map Line.ofEntry ++
              Line.ofEntry (id, { e with settled := true }) ::
                after.map Line.ofEntry := by
        rw [hSplit, List.map_append, List.map_append,
          map_settle_of_fresh hBefore, List.map_cons,
          List.map_cons, map_settle_of_fresh hAfter, hSettle]
      rw [hLines]
      by_cases hSettled : e.settled = true
      · have hSame :
            { e with settled := true } = e := by
          rw [← hSettled]
        simp only [if_pos hSettled]
        rw [hSplit, hSame, List.map_append, List.map_cons]
      · simp only [if_neg hSettled, Ledger.mark, hSplit,
          record_append_cons hFirst, List.map_append,
          List.map_cons]

/- An invoice that is settled is settled on record. -/
theorem snoc_settle
    (hAgrees : Agrees past m)
    {id : String}
    (hIssue : a.issue? = none)
    (hSettles : a.settles? = some id)
    (hOutlay : a.outlay? past = none)
    (hFresh : ((issues past).map Issue.id).Nodup)
    (hInvoices : t.ledger.invoices = m.ledger.invoices)
    (hPayments : t.ledger.payments = m.ledger.payments) :
    Agrees (past ++ [a]) (t.mark id) := by
  have hKeys : (t.ledger.invoices.map Prod.fst).Nodup := by
    rw [hInvoices, hAgrees.keys.nodup_iff]
    exact hFresh
  constructor
  · have hLines :
        (issues past).map (Line.ofIssue (past ++ [a])) =
          ((issues past).map (Line.ofIssue past)).map
            (Line.settle id) := by
      rw [List.map_map]
      exact List.map_congr_left fun i hMem =>
        ofIssue_snoc_settle hSettles hMem
    rw [lines_mark t id hKeys, hInvoices, issues_snoc, hIssue,
      Option.toList_none, List.append_nil, hLines]
    exact hAgrees.invoices.map _
  · have hSame :
        (t.mark id).ledger.payments = t.ledger.payments := by
      unfold Shared.mark
      split
      · rfl
      · split <;> rfl
    rw [hSame, hPayments, outlays_snoc, List.nil_append, hOutlay,
      Option.toList_none, List.append_nil]
    exact hAgrees.payments

/- A request for an invoice that is too large issues none. -/
theorem snoc_createInvoice
    (hAgrees : Agrees past m)
    (random : List UInt8)
    (r : InvoiceRequest)
    (hFresh :
      ((issues (past ++ [.createInvoice random r])).map
        Issue.id).Nodup) :
    Agrees (past ++ [.createInvoice random r])
      { m with ledger := (m.ledger.createInvoice random r).2 } := by
  unfold Ledger.createInvoice
  cases hAmount : r.amount with
  | error e =>
      have hIssue := Act.issue?_of_error random hAmount
      exact hAgrees.snoc_idle hIssue rfl rfl rfl rfl
  | ok amount =>
      have hIssue := Act.issue?_of_ok random hAmount
      rw [issues_snoc, hIssue, Option.toList_some,
        List.map_append, List.map_singleton,
        List.nodup_append] at hFresh
      have hNew :
          idOf (Crypto.Sha256.hash random) ∉
            (issues past).map Issue.id :=
        fun hMem => hFresh.2.2 _ hMem _ (.head _) rfl
      refine hAgrees.snoc_issue hIssue rfl rfl hNew ?_ rfl rfl
      rw [Line.ofEntry, Wallet.amount_eq_ok_iff.mp hAmount]
      rfl

/- A payment that is refused costs nothing. -/
theorem snoc_payInvoice
    (hAgrees : Agrees past m)
    (random : List UInt8)
    (request : String)
    (hFresh :
      ((outlays [] (past ++ [.payInvoice random request])).map
        Prod.fst).Nodup) :
    Agrees (past ++ [.payInvoice random request])
      { m with
        ledger := (m.ledger.payInvoice random request).2 } := by
  have hPrice := hAgrees.price?_eq request
  unfold Ledger.payInvoice
  cases hAmount : m.ledger.amountToPay request with
  | error e =>
      rw [hAmount] at hPrice
      have hOutlay :
          (Act.payInvoice random request).outlay? past = none := by
        rw [Act.outlay?, ← hPrice]
        rfl
      exact hAgrees.snoc_idle rfl rfl hOutlay rfl rfl
  | ok amount =>
      rw [hAmount] at hPrice
      have hOutlay :
          (Act.payInvoice random request).outlay? past =
            some (paymentId random request, amount.value) := by
        rw [Act.outlay?, ← hPrice]
        rfl
      rw [outlays_snoc, List.nil_append, hOutlay,
        Option.toList_some, List.map_append, List.map_singleton,
        List.nodup_append] at hFresh
      have hNew :
          paymentId random request ∉
            (outlays [] past).map Prod.fst :=
        fun hMem => hFresh.2.2 _ hMem _ (.head _) rfl
      exact hAgrees.snoc_pay rfl rfl hOutlay hNew rfl rfl rfl

/- Every act leaves a wallet in agreement with what happened. -/
theorem snoc
    (hAgrees : Agrees past m)
    (hIssued : ((issues (past ++ [a])).map Issue.id).Nodup)
    (hPaid : ((outlays [] (past ++ [a])).map Prod.fst).Nodup)
    (hStep : m.step? a = some t) :
    Agrees (past ++ [a]) t := by
  have hUse {o : RelayQueue.Operation}
      (hSome : m.use? o = some t) :
      t.ledger.invoices = m.ledger.invoices ∧
        t.ledger.payments = m.ledger.payments := by
    rcases Option.map_eq_some_iff.mp hSome with ⟨q, _, rfl⟩
    exact ⟨rfl, rfl⟩
  have hOld : ((issues past).map Issue.id).Nodup := by
    rw [issues_snoc, List.map_append] at hIssued
    exact (List.nodup_append.mp hIssued).1
  cases a with
  | createInvoice random r =>
      cases hStep
      exact hAgrees.snoc_createInvoice random r hIssued
  | payInvoice random request =>
      cases hStep
      exact hAgrees.snoc_payInvoice random request hPaid
  | mark id =>
      cases hStep
      exact hAgrees.snoc_settle rfl rfl rfl hOld rfl rfl
  | wake timer =>
      rcases Option.ite_none_right_eq_some.mp hStep with
        ⟨_, hSome⟩
      cases hSome
      exact hAgrees.snoc_settle rfl rfl rfl hOld rfl rfl
  | offer id =>
      rcases Option.ite_none_right_eq_some.mp hStep with
        ⟨_, hSome⟩
      cases hSome
      refine hAgrees.snoc_idle rfl rfl rfl ?_ ?_
      all_goals
        simp only [Ledger.offer]
        split <;> rfl
  | takeStream =>
      exact hAgrees.snoc_idle rfl rfl rfl (hUse hStep).1
        (hUse hStep).2
  | receive =>
      exact hAgrees.snoc_idle rfl rfl rfl (hUse hStep).1
        (hUse hStep).2
  | dropStream =>
      exact hAgrees.snoc_idle rfl rfl rfl (hUse hStep).1
        (hUse hStep).2
  | close =>
      cases hStep
      exact hAgrees.snoc_idle rfl rfl rfl rfl rfl
  | pass ms =>
      cases hStep
      exact hAgrees.snoc_idle rfl rfl rfl rfl rfl

end Agrees

/- In every course a wallet agrees with what has happened. -/
theorem agrees_of_course
    {s : FakeSettings}
    {f : FundingSettings}
    {acts : List Act}
    {t : Shared}
    (hCourse : Course s f acts t)
    (hIssued : ((issues acts).map Issue.id).Nodup)
    (hPaid : ((outlays [] acts).map Prod.fst).Nodup) :
    Agrees acts t := by
  induction hCourse with
  | start => exact ⟨List.Perm.refl [], List.Perm.refl []⟩
  | @act past m t a hPast hStep ih =>
      have hIssuedBefore : ((issues past).map Issue.id).Nodup := by
        rw [issues_snoc, List.map_append] at hIssued
        exact (List.nodup_append.mp hIssued).1
      have hPaidBefore :
          ((outlays [] past).map Prod.fst).Nodup := by
        rw [outlays_snoc, List.map_append] at hPaid
        exact (List.nodup_append.mp hPaid).1
      exact (ih hIssuedBefore hPaidBefore).snoc hIssued hPaid
        hStep
  | rearrange hPast hInvoices hPayments ih =>
      have hAgrees := ih hIssued hPaid
      exact ⟨(hInvoices.map _).symm.trans hAgrees.invoices,
        (hPayments.map _).symm.trans hAgrees.payments⟩
  | queue hPast q ih =>
      have hAgrees := ih hIssued hPaid
      exact ⟨hAgrees.invoices, hAgrees.payments⟩

end Shared

end Ledger

end LightningGateway
