/-
  Pauses.

  A pause is given in milliseconds.  No pause is longer than
  thirty years; one that is meant to be ends then.

  Key definitions include:
    * `Pause.longest`
    * `Pause.length`
-/

namespace LightningGateway.Pause

/- Thirty years of 365 days. -/
def longest : Nat := 946080000000

/- How long a pause lasts. -/
def length (ms : Nat) : Nat :=
  min ms longest

end LightningGateway.Pause
