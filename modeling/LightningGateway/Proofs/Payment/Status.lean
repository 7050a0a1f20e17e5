import LightningGateway.Payment.Status

/-
  What the tokens of a table tell.

  A table whose lists are apart tells success of the tokens in
  its first list and failure of those in its second, and nothing
  of any other token.

  The lists of a table may also overlap.  A token that is listed
  for both outcomes tells neither, but one that is listed for an
  outcome and as pending still tells the outcome.

  Key definitions include:
    * `StatusTable.Tells`
    * `StatusTable.Listed`
    * `StatusTable.IsStrict`

  Main results:
    * `StatusTable.tells_iff`
    * `StatusTable.resolves_exactly`
-/

namespace LightningGateway.Payment

namespace StatusTable

variable {α : Type} [BEq α] [LawfulBEq α]

/-
  The state that a token tells, which is never a pending one.  A
  success has the terms that came with the token.
-/
inductive Tells
    (table : StatusTable α)
    (token : α)
    (fee : Option Msat)
    (preimage : Option String) : SettlementStatus → Prop
  | success (hToken : token ∈ table.success) :
      Tells table token fee preimage (.success fee preimage)
  | failed (hToken : token ∈ table.failed) :
      Tells table token fee preimage .failed

/- No token is in two lists that are apart. -/
theorem not_mem_of_apart
    {xs ys : List α}
    {x : α}
    (hApart : apart xs ys = true)
    (hFirst : x ∈ xs) :
    x ∉ ys := by
  have hNot := List.all_eq_true.mp hApart x hFirst
  simpa using hNot

/- The state of a token by the two lists that it may be in. -/
theorem resolveWith_eq
    (table : StatusTable α)
    (token : α)
    (fee : Option Msat)
    (preimage : Option String) :
    table.resolveWith token fee preimage =
      if token ∈ table.success ∧ token ∉ table.failed then
        .success fee preimage
      else if token ∉ table.success ∧ token ∈ table.failed then
        .failed
      else .pending := by
  by_cases hSuccess : token ∈ table.success
  · by_cases hFailed : token ∈ table.failed
    · simp [resolveWith, resolve, hSuccess, hFailed,
        SettlementStatus.withTerms]
    · simp [resolveWith, resolve, hSuccess, hFailed,
        SettlementStatus.withTerms, SettlementStatus.settled]
  · by_cases hFailed : token ∈ table.failed
    · simp [resolveWith, resolve, hSuccess, hFailed,
        SettlementStatus.withTerms]
    · simp [resolveWith, resolve, hSuccess, hFailed,
        SettlementStatus.withTerms]

/- A token resolves as it does with no terms. -/
omit [LawfulBEq α] in
theorem resolve_eq_resolveWith
    (table : StatusTable α)
    (token : α) :
    table.resolve token = table.resolveWith token none none := by
  unfold resolveWith resolve
  split <;> rfl

/- A token resolves to what it tells, and else to a pending state. -/
theorem tells_iff
    {table : StatusTable α}
    (hDisjoint : table.isDisjoint = true)
    (token : α)
    (fee : Option Msat)
    (preimage : Option String)
    (s : SettlementStatus) :
    Tells table token fee preimage s ↔
      table.resolveWith token fee preimage = s ∧
        s ≠ .pending := by
  simp only [isDisjoint, Bool.and_eq_true] at hDisjoint
  have hApart :
      token ∈ table.success → token ∉ table.failed :=
    not_mem_of_apart hDisjoint.1.1
  rw [resolveWith_eq]
  constructor
  · intro hTells
    cases hTells with
    | success hToken =>
        rw [if_pos ⟨hToken, hApart hToken⟩]
        exact ⟨rfl, nofun⟩
    | failed hToken =>
        have hNot : token ∉ table.success :=
          fun hSuccess => hApart hSuccess hToken
        rw [if_neg (fun hBoth => hNot hBoth.1),
          if_pos ⟨hNot, hToken⟩]
        exact ⟨rfl, nofun⟩
  · rintro ⟨hState, hKnown⟩
    by_cases hSuccess : token ∈ table.success
    · rw [if_pos ⟨hSuccess, hApart hSuccess⟩] at hState
      rw [← hState]
      exact .success hSuccess
    · rw [if_neg (fun hBoth => hSuccess hBoth.1)] at hState
      by_cases hFailed : token ∈ table.failed
      · rw [if_pos ⟨hSuccess, hFailed⟩] at hState
        rw [← hState]
        exact .failed hFailed
      · rw [if_neg (fun hBoth => hFailed hBoth.2)] at hState
        exact absurd hState.symm hKnown

/- Success or failure is told of a token by the list it is in. -/
theorem resolveWith_iff
    {table : StatusTable α}
    (hDisjoint : table.isDisjoint = true)
    {token : α}
    {fee : Option Msat}
    {preimage : Option String}
    {s : SettlementStatus} :
    table.resolveWith token fee preimage = s ∧ s ≠ .pending ↔
      (token ∈ table.success ∧ s = .success fee preimage) ∨
        (token ∈ table.failed ∧ s = .failed) := by
  rw [← tells_iff hDisjoint]
  constructor
  · intro hTells
    cases hTells with
    | success hToken => exact .inl ⟨hToken, rfl⟩
    | failed hToken => exact .inr ⟨hToken, rfl⟩
  · rintro (⟨hToken, rfl⟩ | ⟨hToken, rfl⟩)
    · exact .success hToken
    · exact .failed hToken

------------------------------------------------------------
-- Tokens in Several Lists
------------------------------------------------------------

/- Whether a list has a token, by the comparison of tokens. -/
def Listed
    (known : List α)
    (token : α) : Prop :=
  ∃ t ∈ known, (token == t) = true

/-
  Whether a token tells an outcome exactly if it is listed for
  it and nowhere else, and is pending if it is in no list or in
  more than one.
-/
structure IsStrict
    (table : StatusTable α)
    (token : α) : Prop where
  success_iff :
    table.resolve token = .settled ↔
      Listed table.success token ∧
        ¬Listed table.failed token ∧
        ¬Listed table.pending token
  failed_iff :
    table.resolve token = .failed ↔
      Listed table.failed token ∧
        ¬Listed table.success token ∧
        ¬Listed table.pending token
  unlisted :
    ¬Listed table.success token →
    ¬Listed table.failed token →
    ¬Listed table.pending token →
    table.resolve token = .pending
  ambiguous :
    (Listed table.success token ∧ Listed table.failed token) ∨
      (Listed table.success token ∧
        Listed table.pending token) ∨
      (Listed table.failed token ∧
        Listed table.pending token) →
    table.resolve token = .pending

/- The two lists of outcomes decide what a token resolves to. -/
omit [LawfulBEq α] in
theorem resolve_cases
    (table : StatusTable α)
    (token : α) :
    (Listed table.success token ∧
        ¬Listed table.failed token ∧
        table.resolve token = .settled) ∨
      (¬Listed table.success token ∧
        Listed table.failed token ∧
        table.resolve token = .failed) ∨
      ((Listed table.success token ↔
          Listed table.failed token) ∧
        table.resolve token = .pending) := by
  unfold Listed resolve
  rw [← List.contains_iff_exists_mem_beq,
    ← List.contains_iff_exists_mem_beq]
  cases table.success.contains token <;>
    cases table.failed.contains token <;> simp

/- A token is a success if it is listed for that outcome alone. -/
omit [LawfulBEq α] in
theorem resolve_eq_settled_iff
    {table : StatusTable α}
    {token : α} :
    table.resolve token = .settled ↔
      Listed table.success token ∧
        ¬Listed table.failed token := by
  rcases resolve_cases table token with
    ⟨hSuccess, hFailed, hState⟩ |
      ⟨hSuccess, hFailed, hState⟩ | ⟨hSame, hState⟩
  · exact iff_of_true hState ⟨hSuccess, hFailed⟩
  · rw [hState]
    exact iff_of_false nofun fun hBoth => hSuccess hBoth.1
  · rw [hState]
    exact iff_of_false nofun fun hBoth =>
      hBoth.2 (hSame.mp hBoth.1)

/- A token is a failure if it is listed for that outcome alone. -/
omit [LawfulBEq α] in
theorem resolve_eq_failed_iff
    {table : StatusTable α}
    {token : α} :
    table.resolve token = .failed ↔
      Listed table.failed token ∧
        ¬Listed table.success token := by
  rcases resolve_cases table token with
    ⟨hSuccess, hFailed, hState⟩ |
      ⟨hSuccess, hFailed, hState⟩ | ⟨hSame, hState⟩
  · rw [hState]
    exact iff_of_false nofun fun hBoth => hFailed hBoth.1
  · exact iff_of_true hState ⟨hFailed, hSuccess⟩
  · rw [hState]
    exact iff_of_false nofun fun hBoth =>
      hBoth.2 (hSame.mpr hBoth.1)

/- A token is pending if it is listed for both outcomes or none. -/
omit [LawfulBEq α] in
theorem resolve_eq_pending_iff
    {table : StatusTable α}
    {token : α} :
    table.resolve token = .pending ↔
      (Listed table.success token ↔
        Listed table.failed token) := by
  rcases resolve_cases table token with
    ⟨hSuccess, hFailed, hState⟩ |
      ⟨hSuccess, hFailed, hState⟩ | ⟨hSame, hState⟩
  · rw [hState]
    exact iff_of_false nofun fun hSame =>
      hFailed (hSame.mp hSuccess)
  · rw [hState]
    exact iff_of_false nofun fun hSame =>
      hSuccess (hSame.mpr hFailed)
  · exact iff_of_true hState hSame

/- Terms are attached to a success, and to no other state. -/
omit [LawfulBEq α] in
theorem resolveWith_eq_ite
    (table : StatusTable α)
    (token : α)
    (fee : Option Msat)
    (preimage : Option String) :
    table.resolveWith token fee preimage =
      if table.resolve token = .settled then
        .success fee preimage
      else table.resolve token := by
  rw [resolveWith]
  rcases resolve_cases table token with
    ⟨_, _, hState⟩ | ⟨_, _, hState⟩ | ⟨_, hState⟩ <;>
    rw [hState] <;> rfl

/-
  A token is told strictly unless it is listed as pending and
  for one outcome alone.
-/
omit [LawfulBEq α] in
theorem isStrict_iff
    {table : StatusTable α}
    {token : α} :
    table.IsStrict token ↔
      (Listed table.pending token →
        (Listed table.success token ↔
          Listed table.failed token)) := by
  constructor
  · intro hStrict hPending
    apply resolve_eq_pending_iff.mp
    by_cases hSuccess : Listed table.success token
    · exact hStrict.ambiguous (.inr (.inl ⟨hSuccess, hPending⟩))
    · by_cases hFailed : Listed table.failed token
      · exact hStrict.ambiguous (.inr (.inr ⟨hFailed, hPending⟩))
      · exact resolve_eq_pending_iff.mpr
          (iff_of_false hSuccess hFailed)
  · intro hAlone
    constructor
    · rw [resolve_eq_settled_iff]
      refine and_congr_right fun hSuccess => ?_
      constructor
      · intro hFailed
        exact ⟨hFailed, fun hPending =>
          hFailed ((hAlone hPending).mp hSuccess)⟩
      · exact And.left
    · rw [resolve_eq_failed_iff]
      refine and_congr_right fun hFailed => ?_
      constructor
      · intro hSuccess
        exact ⟨hSuccess, fun hPending =>
          hSuccess ((hAlone hPending).mpr hFailed)⟩
      · exact And.left
    · intro hSuccess hFailed _
      exact resolve_eq_pending_iff.mpr
        (iff_of_false hSuccess hFailed)
    · rw [resolve_eq_pending_iff]
      rintro (⟨hSuccess, hFailed⟩ | ⟨_, hPending⟩ |
        ⟨_, hPending⟩)
      · exact iff_of_true hSuccess hFailed
      · exact hAlone hPending
      · exact hAlone hPending

/-
  A token tells an outcome exactly if it is listed for that one
  and not for the other, whatever the list of pending tokens
  has; terms are attached exactly to a success.  So a token is
  told strictly exactly if it is not listed as pending and also
  for one outcome alone.
-/
omit [LawfulBEq α] in
theorem resolves_exactly
    (table : StatusTable α)
    (token : α)
    (fee : Option Msat)
    (preimage : Option String) :
    (table.resolve token = .settled ↔
      Listed table.success token ∧
        ¬Listed table.failed token) ∧
    (table.resolve token = .failed ↔
      Listed table.failed token ∧
        ¬Listed table.success token) ∧
    (table.resolve token = .pending ↔
      (Listed table.success token ↔
        Listed table.failed token)) ∧
    table.resolveWith token fee preimage =
      (if table.resolve token = .settled then
        .success fee preimage
      else table.resolve token) ∧
    (table.IsStrict token ↔
      (Listed table.pending token →
        (Listed table.success token ↔
          Listed table.failed token))) :=
  ⟨resolve_eq_settled_iff, resolve_eq_failed_iff,
    resolve_eq_pending_iff,
    resolveWith_eq_ite table token fee preimage, isStrict_iff⟩

/- A token that is listed for success and as pending. -/
theorem not_all_strict :
    ¬∀ (table : StatusTable Int) (token : Int),
      table.IsStrict token := by
  intro hStrict
  have hPaid := (hStrict ⟨[1], [], [1]⟩ 1).success_iff.mp rfl
  exact hPaid.2.2 ⟨1, List.mem_singleton_self 1, rfl⟩

end StatusTable

end LightningGateway.Payment
