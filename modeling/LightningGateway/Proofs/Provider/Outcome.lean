import LightningGateway.Provider.Dialogue

/-
  How calls end.

  A call ends in a reply or without one.  What a wallet reads
  in a reply, it reads in the body of one that is no error.

  Key definitions include:
    * `Outcome.tree?`

  Main results:
    * `Outcome.tree?_eq_some_iff`
    * `Outcome.bind_tree?`
    * `Dialogue.exists_outcome`
-/

namespace LightningGateway.Provider

------------------------------------------------------------
-- Bodies
------------------------------------------------------------

/- The statuses that blame the request or the provider. -/
theorem Reply.isError_iff (r : Reply) :
    r.isError = true ↔ 400 ≤ r.status ∧ r.status < 600 := by
  simp [isError]

/- The body of a reply that is no error, if it is JSON. -/
def Outcome.tree? : Outcome → Option Json.Tree
  | .reply r =>
      if r.isError then none else Json.Tree.parse? r.body
  | _ => none

/- An outcome has a tree if it is a reply whose body is one. -/
theorem Outcome.tree?_eq_some_iff
    {o : Outcome}
    {t : Json.Tree} :
    o.tree? = some t ↔
      ∃ r, o = .reply r ∧
        ¬(400 ≤ r.status ∧ r.status < 600) ∧
        Json.Tree.parse? r.body = some t := by
  cases o with
  | reply r =>
      by_cases hError : r.isError = true
      · have hStatus := r.isError_iff.mp hError
        constructor
        · intro hTree
          rw [tree?, if_pos hError] at hTree
          cases hTree
        · rintro ⟨other, hReply, hUsable, _⟩
          cases hReply
          exact absurd hStatus hUsable
      · have hStatus := mt r.isError_iff.mpr hError
        rw [tree?, if_neg hError]
        constructor
        · intro hTree
          exact ⟨r, rfl, hStatus, hTree⟩
        · rintro ⟨other, hReply, _, hTree⟩
          cases hReply
          exact hTree
  | _ => simp [tree?]

/- What is read in the body of a reply that is no error. -/
theorem Outcome.bind_tree?
    {α : Type}
    (r : Reply)
    (read? : Json.Tree → Option α) :
    (Outcome.reply r).tree?.bind read? =
      if r.isError then none else (r.read read?).toOption := by
  by_cases hError : r.isError = true
  · simp only [tree?, if_pos hError, Option.bind_none]
  · simp only [tree?, if_neg hError, Reply.read]
    cases (Json.Tree.parse? r.body).bind read? <;> rfl

------------------------------------------------------------
-- Calls
------------------------------------------------------------

/- A call that may not take forever ends in some outcome. -/
theorem Dialogue.exists_outcome
    {α : Type}
    (c : Client)
    (call : Call)
    (read : Outcome → α)
    (hLimit : call.limit.isSome = true)
    (script : Script) :
    ∃ o, ((Dialogue.once call read).run c script).result =
      some (read o) := by
  rcases Option.isSome_iff_exists.mp hLimit with ⟨secs, hSome⟩
  unfold Dialogue.once Dialogue.run
  by_cases hClosed : c.closed = true
  · rw [if_pos hClosed]
    exact ⟨.closed, rfl⟩
  · rw [if_neg hClosed]
    rcases c.request call with f | ⟨request, url⟩
    · exact ⟨.failed f, rfl⟩
    · by_cases hReach : script.inReach = true
      · simp only [if_pos hReach]
        rcases script.next with ⟨reply | _ | _ | _, rest⟩
        · exact ⟨.reply reply, rfl⟩
        · exact ⟨.failed (.unanswered url), rfl⟩
        · exact ⟨.failed .cutShort, rfl⟩
        · rw [hSome]
          exact ⟨.failed (.unanswered url), rfl⟩
      · simp only [if_neg hReach]
        exact ⟨.failed (.unanswered url), rfl⟩

end LightningGateway.Provider
