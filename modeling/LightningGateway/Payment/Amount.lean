/-
  Amounts of money.

  Balances and fees are counted in thousandths of a satoshi and
  may be negative.  Each amount fits a signed word of 64 bits;
  an operation whose exact result does not fit has none, and
  only `clamp` brings a number into range.

  Key definitions include:
    * `Msat`
    * `Msat.ofInt?`
    * `Msat.ofSat?`
    * `Msat.ofDecimal?`
    * `Msat.neg?`
    * `Msat.clamp`
    * `Msat.total`
-/

namespace LightningGateway.Payment

/- The bound of amounts: they lie from `-bound` to below `bound`. -/
def Msat.bound : Int := 9223372036854775808

/- An amount in thousandths of a satoshi. -/
structure Msat where
  value : Int
  lower : -Msat.bound ≤ value
  upper : value < Msat.bound
  deriving DecidableEq

namespace Msat

------------------------------------------------------------
-- Making Amounts
------------------------------------------------------------

/-
  The amount of a number that is in range.  The upper bound is
  tested by `≤`, as the test `<` of a number that is not known
  counts the bound down one by one when it is unfolded.
-/
def ofInt? (n : Int) : Option Msat :=
  if h : -bound ≤ n ∧ ¬bound ≤ n then
    some ⟨n, h.1, Int.not_le.mp h.2⟩
  else none

/- No money. -/
def zero : Msat :=
  ⟨0, by decide, by decide⟩

/- The largest amount. -/
def largest : Msat :=
  ⟨bound - 1, by decide, by decide⟩

/- The smallest amount. -/
def smallest : Msat :=
  ⟨-bound, by decide, by decide⟩

/- The amount nearest to a number. -/
def clamp (n : Int) : Msat :=
  if h : -bound ≤ n then
    if h' : n < bound then ⟨n, h, h'⟩ else largest
  else smallest

/- Thousandths of a satoshi in a satoshi. -/
def perSat : Int := 1000

/- The amount of a whole number of satoshis. -/
def ofSat? (sat : Int) : Option Msat :=
  ofInt? (sat * perSat)

/- The number that decimal digits spell; there has to be one. -/
def digits? (cs : List Char) : Option Nat :=
  if cs.isEmpty then none
  else
    cs.foldlM
      (fun n c =>
        if c.isDigit then some (10 * n + (c.toNat - 48)) else none)
      0

/- The amount that decimal digits spell, after a sign or none. -/
def ofDecimal? (cs : List Char) : Option Msat :=
  match cs with
  | '-' :: rest => (digits? rest).bind fun n => ofInt? (-(n : Int))
  | '+' :: rest => (digits? rest).bind fun n => ofInt? n
  | cs => (digits? cs).bind fun n => ofInt? n

/- The amount with its sign changed. -/
def neg? (a : Msat) : Option Msat :=
  ofInt? (-a.value)

/- The sum of two amounts, or the nearest amount to it. -/
def plus (a b : Msat) : Msat :=
  clamp (a.value + b.value)

/- The difference of two amounts, or the nearest amount to it. -/
def minus (a b : Msat) : Msat :=
  clamp (a.value - b.value)

/- The sum of a list of amounts, kept in range at every step. -/
def total (as : List Msat) : Msat :=
  as.foldl plus zero

instance : Inhabited Msat := ⟨zero⟩

------------------------------------------------------------
-- Laws
------------------------------------------------------------

/- Two amounts with one value are the same. -/
theorem ext_value
    {a b : Msat}
    (h : a.value = b.value) :
    a = b := by
  cases a
  cases b
  simp_all

/- A number in range is the value of its amount. -/
theorem value_of_ofInt?
    {n : Int}
    {a : Msat}
    (h : ofInt? n = some a) :
    a.value = n := by
  unfold ofInt? at h
  split at h
  · cases h
    rfl
  · cases h

/- The number of an amount gives the amount back. -/
theorem ofInt?_value (a : Msat) :
    ofInt? a.value = some a := by
  unfold ofInt?
  rw [dif_pos ⟨a.lower, Int.not_le.mpr a.upper⟩]

/- The amount of a number is the one that has it as value. -/
theorem ofInt?_eq_some_iff
    {n : Int}
    {a : Msat} :
    ofInt? n = some a ↔ a.value = n := by
  constructor
  · exact value_of_ofInt?
  · intro hValue
    rw [← hValue]
    exact ofInt?_value a

/- A number has an amount exactly when it is in range. -/
theorem ofInt?_isSome_iff (n : Int) :
    (ofInt? n).isSome ↔ -bound ≤ n ∧ n < bound := by
  unfold ofInt?
  rw [← Int.not_le]
  split <;> simp_all

end Msat

end LightningGateway.Payment
