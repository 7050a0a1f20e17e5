import LightningGateway.Proofs.Payment.Status

/-
  When the lists of a table are apart.

  The check of a table looks at each pair of lists once.  As
  tokens are compared by an equivalence, that is as good as to
  look for every token in all the other lists, and it succeeds
  exactly if the table tells of every listed token the state
  that it is listed for.

  Key definitions include:
    * `StatusTable.Lists`
    * `StatusTable.noneElsewhere`

  Main results:
    * `StatusTable.isDisjoint_eq_noneElsewhere`
    * `StatusTable.isDisjoint_iff_resolves`
-/

namespace LightningGateway.Payment

namespace StatusTable

variable {α : Type} [BEq α]

/- The state that a token is listed for; there may be several. -/
inductive Lists
    (table : StatusTable α)
    (token : α) : SettlementStatus → Prop
  | success (hToken : token ∈ table.success) :
      Lists table token .settled
  | failed (hToken : token ∈ table.failed) :
      Lists table token .failed
  | pending (hToken : token ∈ table.pending) :
      Lists table token .pending

/- The lists of a table with their numbers. -/
def numbered (table : StatusTable α) : List (List α × Nat) :=
  [table.success, table.failed, table.pending].zipIdx

/- Whether every token of every list is in none of the others. -/
def noneElsewhere (table : StatusTable α) : Bool :=
  table.numbered.all fun (known, i) =>
    known.all fun token =>
      (table.numbered.filter (·.2 != i)).all fun (other, _) =>
        !other.contains token

------------------------------------------------------------
-- Lists That Are Apart
------------------------------------------------------------

/- Lists are apart if no token of the first is listed in the second. -/
theorem apart_iff {xs ys : List α} :
    apart xs ys = true ↔ ∀ x ∈ xs, ¬Listed ys x := by
  simp only [apart, List.all_eq_true, Bool.not_eq_true',
    ← Bool.not_eq_true, List.contains_iff_exists_mem_beq, Listed]

variable [EquivBEq α]

/- A token of a list is listed in it. -/
theorem listed_of_mem
    {known : List α}
    {token : α}
    (hToken : token ∈ known) :
    Listed known token :=
  ⟨token, hToken, BEq.rfl⟩

/- Of two tokens that are compared as the same, both are listed. -/
theorem Listed.of_beq
    {known : List α}
    {t u : α}
    (hSame : (t == u) = true)
    (hListed : Listed known t) :
    Listed known u := by
  rcases hListed with ⟨v, hMem, hEqual⟩
  exact ⟨v, hMem, BEq.trans (BEq.symm hSame) hEqual⟩

/- Lists that are apart are so the other way round. -/
theorem apart_comm (xs ys : List α) :
    apart xs ys = apart ys xs := by
  have hSwap {xs ys : List α}
      (hApart : apart xs ys = true) :
      apart ys xs = true := by
    rw [apart_iff] at hApart ⊢
    rintro y hMem ⟨x, hOther, hSame⟩
    exact hApart x hOther ⟨y, hMem, BEq.symm hSame⟩
  exact Bool.eq_iff_iff.mpr ⟨hSwap, hSwap⟩

/- To look at each pair once is to look for every token. -/
theorem isDisjoint_eq_noneElsewhere (table : StatusTable α) :
    table.isDisjoint = table.noneElsewhere := by
  have hEach (xs ys zs : List α) :
      (xs.all fun token =>
        !ys.contains token && !zs.contains token) =
        (apart xs ys && apart xs zs) := by
    rw [Bool.eq_iff_iff]
    simp only [apart, List.all_eq_true, Bool.and_eq_true,
      forall_and]
  have hChecks :
      table.noneElsewhere =
        ((apart table.success table.failed &&
            apart table.success table.pending) &&
          ((apart table.failed table.success &&
              apart table.failed table.pending) &&
            (apart table.pending table.success &&
              apart table.pending table.failed))) := by
    simp [noneElsewhere, numbered, List.zipIdx, hEach]
  rw [hChecks, apart_comm table.failed table.success,
    apart_comm table.pending table.success,
    apart_comm table.pending table.failed, isDisjoint]
  cases apart table.success table.failed <;>
    cases apart table.success table.pending <;>
    cases apart table.failed table.pending <;> rfl

------------------------------------------------------------
-- What Listed Tokens Tell
------------------------------------------------------------

/- A list is apart from the pending ones if its tokens tell so. -/
theorem apart_pending
    {table : StatusTable α}
    {xs ys : List α}
    (hOutcome : ∀ x ∈ xs, ¬Listed ys x)
    (hPending :
      ∀ t ∈ table.pending, Listed xs t → Listed ys t) :
    apart xs table.pending = true := by
  rw [apart_iff]
  rintro x hMem ⟨t, hToken, hSame⟩
  have hBoth : Listed ys t :=
    hPending t hToken ((listed_of_mem hMem).of_beq hSame)
  exact hOutcome x hMem (hBoth.of_beq (BEq.symm hSame))

/-
  The lists of a table are apart, as the check finds, exactly if
  every token in one of them, however often it is there, resolves
  to the state of that list.
-/
theorem isDisjoint_iff_resolves (table : StatusTable α) :
    table.isDisjoint = true ↔
      ∀ token s, table.Lists token s →
        table.resolve token = s := by
  simp only [isDisjoint, Bool.and_eq_true]
  constructor
  · rintro ⟨⟨hOutcomes, hSuccess⟩, hFailed⟩ token s hLists
    cases hLists with
    | success hToken =>
        exact resolve_eq_settled_iff.mpr
          ⟨listed_of_mem hToken, apart_iff.mp hOutcomes _ hToken⟩
    | failed hToken =>
        rw [apart_comm] at hOutcomes
        exact resolve_eq_failed_iff.mpr
          ⟨listed_of_mem hToken, apart_iff.mp hOutcomes _ hToken⟩
    | pending hToken =>
        rw [apart_comm] at hSuccess hFailed
        exact resolve_eq_pending_iff.mpr
          (iff_of_false (apart_iff.mp hSuccess _ hToken)
            (apart_iff.mp hFailed _ hToken))
  · intro hResolves
    have hSuccess :
        ∀ t ∈ table.success, ¬Listed table.failed t :=
      fun t hToken =>
        (resolve_eq_settled_iff.mp
          (hResolves t _ (.success hToken))).2
    have hFailed :
        ∀ t ∈ table.failed, ¬Listed table.success t :=
      fun t hToken =>
        (resolve_eq_failed_iff.mp
          (hResolves t _ (.failed hToken))).2
    have hPending :
        ∀ t ∈ table.pending,
          (Listed table.success t ↔ Listed table.failed t) :=
      fun t hToken =>
        resolve_eq_pending_iff.mp
          (hResolves t _ (.pending hToken))
    exact ⟨⟨apart_iff.mpr hSuccess,
      apart_pending hSuccess fun t hToken =>
        (hPending t hToken).mp⟩,
      apart_pending hFailed fun t hToken =>
        (hPending t hToken).mpr⟩

/- Repeated tokens do no harm, but one in two lists does. -/
theorem isDisjoint_iff_resolves_of_repeated :
    (∀ token s,
      (⟨[1, 1], [-1], [0, 0]⟩ : StatusTable Int).Lists token s →
        StatusTable.resolve ⟨[1, 1], [-1], [0, 0]⟩ token = s) ∧
    ¬∀ token s,
      (⟨[1, 2], [-1], [2, 0]⟩ : StatusTable Int).Lists token s →
        StatusTable.resolve ⟨[1, 2], [-1], [2, 0]⟩ token = s := by
  constructor
  · exact (isDisjoint_iff_resolves _).mp (by decide)
  · intro hResolves
    have hDisjoint := (isDisjoint_iff_resolves _).mpr hResolves
    exact absurd hDisjoint (by decide)

end StatusTable

end LightningGateway.Payment
