/-
  Texts cut into pieces.

  Key definitions include:
    * `splitAll`
-/

namespace LightningGateway.Text

/- The pieces of a list between the members that satisfy `p`. -/
def splitAll
    {α : Type}
    (p : α → Bool) : List α → List (List α)
  | [] => [[]]
  | c :: rest =>
      if p c then [] :: splitAll p rest
      else
        match splitAll p rest with
        | [] => [[c]]
        | piece :: more => (c :: piece) :: more

/- There is always a piece. -/
theorem splitAll_ne_nil
    {α : Type}
    (p : α → Bool)
    (cs : List α) :
    splitAll p cs ≠ [] := by
  cases cs with
  | nil => simp [splitAll]
  | cons c rest =>
      unfold splitAll
      split
      · simp
      · split <;> simp

end LightningGateway.Text
