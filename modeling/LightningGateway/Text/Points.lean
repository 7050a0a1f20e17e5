/-
  Sets of characters, given as ranges of code points in order.

  Key definitions include:
    * `inRanges`
-/

namespace LightningGateway.Text

/-
  Whether a character lies in one of the ranges, each with its
  first and its last code point.
-/
def inRanges (c : Char) : List (Nat × Nat) → Bool
  | [] => false
  | (low, high) :: rest =>
      if c.toNat < low then false
      else c.toNat ≤ high || inRanges c rest

end LightningGateway.Text
