import LightningGateway.Payment.Wire

/-
  Amounts that are spelled in decimal digits.

  An amount stands in a body as a number without fraction and
  exponent, or in a text as digits after a sign or none.  What
  is read is the very number that is spelled, and nothing is
  read that is out of range.

  Key definitions include:
    * `Json.Numeral.Spells`
    * `Payment.Digits`
    * `Payment.Spells`

  Main results:
    * `Payment.spells_toString`
    * `Payment.Msat.ofJson?_eq_some_iff`
    * `Payment.Msat.ofDecimal?_eq_some_iff`
-/

namespace LightningGateway

------------------------------------------------------------
-- Numbers
------------------------------------------------------------

namespace Json.Numeral

/-
  The integer that a numeral spells: it is worth its digits and
  has neither fraction nor exponent.  A minus before zero makes
  a real number.
-/
structure Spells
    (m : Numeral)
    (n : Int) : Prop where
  fraction_eq : m.fraction = []
  scale_eq : m.scale = none
  value_eq :
    n = if m.negative then -(ofDigits m.whole : Int)
      else ofDigits m.whole
  ne_zero : m.negative = true → n ≠ 0

/- An integer is read if it is spelled and fits 64 bits. -/
theorem integer?_eq_some_iff
    {m : Numeral}
    {n : Int} :
    m.integer? = some n ↔
      m.Spells n ∧ -(signedLimit : Int) ≤ n ∧
        n < (wordLimit : Int) := by
  rcases m with ⟨negative, whole, fraction, scale⟩
  by_cases hPlain : fraction = [] ∧ scale = none
  · rcases hPlain with ⟨rfl, rfl⟩
    have hSpells :
        Spells ⟨negative, whole, [], none⟩ n ↔
          (n = if negative then -(ofDigits whole : Int)
            else ofDigits whole) ∧
          (negative = true → n ≠ 0) := by
      constructor
      · rintro ⟨_, _, hValue, hNonzero⟩
        exact ⟨hValue, hNonzero⟩
      · rintro ⟨hValue, hNonzero⟩
        exact ⟨rfl, rfl, hValue, hNonzero⟩
    rw [hSpells]
    simp only [integer?, List.isEmpty_nil, Option.isNone_none,
      Bool.and_self, if_true]
    have hSigned : signedLimit = 9223372036854775808 := rfl
    have hWord : wordLimit = 18446744073709551616 := rfl
    generalize ofDigits whole = v
    cases negative with
    | true =>
        simp only [if_true, forall_const]
        by_cases hReal : v = 0 ∨ v > signedLimit
        · rw [if_pos hReal]
          simp only [reduceCtorEq, false_iff]
          omega
        · rw [if_neg hReal, Option.some_inj]
          omega
    | false =>
        simp only [Bool.false_eq_true, if_false, false_imp_iff,
          and_true]
        by_cases hFits : v < wordLimit
        · rw [if_pos hFits, Option.some_inj]
          omega
        · rw [if_neg hFits]
          simp only [reduceCtorEq, false_iff]
          omega
  · have hNone :
        integer? ⟨negative, whole, fraction, scale⟩ = none := by
      rw [integer?, if_neg]
      simpa using hPlain
    rw [hNone]
    constructor
    · intro hSome
      cases hSome
    · rintro ⟨⟨hFraction, hScale, _, _⟩, _⟩
      exact absurd ⟨hFraction, hScale⟩ hPlain

end Json.Numeral

namespace Payment

/- An amount is read of a number that spells it. -/
theorem Msat.ofJson?_eq_some_iff
    {t : Json.Tree}
    {a : Msat} :
    ofJson? t = some a ↔
      ∃ m, t = .number m ∧ m.Spells a.value := by
  have hFits :
      -(Json.signedLimit : Int) ≤ a.value ∧
        a.value < (Json.wordLimit : Int) := by
    have hLower := a.lower
    have hUpper := a.upper
    simp only [bound, Json.signedLimit, Json.wordLimit]
      at hLower hUpper ⊢
    omega
  rw [ofJson?, Option.bind_eq_some_iff]
  simp only [ofInt?_eq_some_iff]
  constructor
  · rintro ⟨n, hNumber, rfl⟩
    cases t with
    | number m =>
        exact ⟨m, rfl,
          (Json.Numeral.integer?_eq_some_iff.mp hNumber).1⟩
    | _ => cases hNumber
  · rintro ⟨m, rfl, hSpells⟩
    exact ⟨a.value,
      Json.Numeral.integer?_eq_some_iff.mpr ⟨hSpells, hFits⟩,
      rfl⟩

------------------------------------------------------------
-- Texts
------------------------------------------------------------

/- A text of decimal digits, and the number that it spells. -/
structure Digits
    (cs : List Char)
    (n : Nat) : Prop where
  ne_nil : cs ≠ []
  isDigit : ∀ c ∈ cs, c.isDigit = true
  value_eq : n = Nat.ofDigitChars 10 cs 0

/- The integer that digits spell after a sign or none. -/
inductive Spells : List Char → Int → Prop
  | unsigned
      {cs : List Char}
      {n : Nat}
      (hDigits : Digits cs n) :
      Spells cs n
  | plus
      {cs : List Char}
      {n : Nat}
      (hDigits : Digits cs n) :
      Spells ('+' :: cs) n
  | minus
      {cs : List Char}
      {n : Nat}
      (hDigits : Digits cs n) :
      Spells ('-' :: cs) (-n)

/- The decimal digits of a number spell it. -/
theorem digits_toDigits (n : Nat) :
    Digits (Nat.toDigits 10 n) n :=
  ⟨Nat.toDigits_ne_nil,
    fun _ => Nat.isDigit_of_mem_toDigits (by decide) (by decide),
    Nat.ofDigitChars_ten_toDigits.symm⟩

/- The text of a number spells it. -/
theorem spells_toString (n : Nat) :
    Spells (toString n).toList n := by
  rw [Nat.toString_eq_repr, Nat.toList_repr]
  exact .unsigned (digits_toDigits n)

/- So does the text of an integer. -/
theorem spells_toString_int (n : Int) :
    Spells (toString n).toList n := by
  cases n with
  | ofNat n => exact spells_toString n
  | negSucc n =>
      have hText :
          toString (Int.negSucc n) = "-" ++ toString (n + 1) :=
        rfl
      rw [hText, String.toList_append, Nat.toString_eq_repr,
        Nat.toList_repr]
      exact .minus (digits_toDigits (n + 1))

namespace Msat

/- Digits are read one by one after those that were read. -/
theorem foldlM_digits_eq_some_iff
    {cs : List Char}
    {start n : Nat} :
    cs.foldlM
        (fun n c =>
          if c.isDigit then some (10 * n + (c.toNat - 48))
          else none)
        start = some n ↔
      (∀ c ∈ cs, c.isDigit = true) ∧
        n = Nat.ofDigitChars 10 cs start := by
  induction cs generalizing start with
  | nil =>
      simp only [List.foldlM_nil, Option.pure_def,
        Option.some_inj, List.not_mem_nil, false_imp_iff,
        implies_true, true_and, Nat.ofDigitChars_nil]
      exact eq_comm
  | cons c cs ih =>
      rw [List.foldlM_cons, List.forall_mem_cons,
        Nat.ofDigitChars_cons]
      by_cases hDigit : c.isDigit = true
      · rw [if_pos hDigit, Option.bind_eq_bind, Option.bind_some,
          ih, and_iff_right hDigit]
        rfl
      · rw [if_neg hDigit]
        constructor
        · intro hSome
          cases hSome
        · rintro ⟨⟨hFirst, _⟩, _⟩
          exact absurd hFirst hDigit

/- A number is read of the digits that spell it. -/
theorem digits?_eq_some_iff
    {cs : List Char}
    {n : Nat} :
    digits? cs = some n ↔ Digits cs n := by
  unfold digits?
  cases cs with
  | nil =>
      constructor
      · intro hSome
        cases hSome
      · intro hDigits
        exact absurd rfl hDigits.ne_nil
  | cons c cs =>
      rw [List.isEmpty_cons, if_neg Bool.false_ne_true,
        foldlM_digits_eq_some_iff]
      constructor
      · rintro ⟨hAll, hValue⟩
        exact ⟨List.cons_ne_nil c cs, hAll, hValue⟩
      · rintro ⟨_, hAll, hValue⟩
        exact ⟨hAll, hValue⟩

/- An amount is read of a text that spells it. -/
theorem ofDecimal?_eq_some_iff
    {cs : List Char}
    {a : Msat} :
    ofDecimal? cs = some a ↔ Spells cs a.value := by
  unfold ofDecimal?
  split
  · rename_i rest
    simp only [Option.bind_eq_some_iff, digits?_eq_some_iff,
      ofInt?_eq_some_iff]
    constructor
    · rintro ⟨n, hDigits, hValue⟩
      rw [hValue]
      exact .minus hDigits
    · intro hSpells
      generalize hValue : a.value = v at hSpells
      cases hSpells with
      | unsigned hDigits => cases hDigits.isDigit '-' (.head _)
      | minus hDigits => exact ⟨_, hDigits, rfl⟩
  · rename_i rest
    simp only [Option.bind_eq_some_iff, digits?_eq_some_iff,
      ofInt?_eq_some_iff]
    constructor
    · rintro ⟨n, hDigits, hValue⟩
      rw [hValue]
      exact .plus hDigits
    · intro hSpells
      generalize hValue : a.value = v at hSpells
      cases hSpells with
      | unsigned hDigits => cases hDigits.isDigit '+' (.head _)
      | plus hDigits => exact ⟨_, hDigits, rfl⟩
  · rename_i hMinus hPlus
    simp only [Option.bind_eq_some_iff, digits?_eq_some_iff,
      ofInt?_eq_some_iff]
    constructor
    · rintro ⟨n, hDigits, hValue⟩
      rw [hValue]
      exact .unsigned hDigits
    · intro hSpells
      generalize hValue : a.value = v at hSpells
      cases hSpells with
      | unsigned hDigits => exact ⟨_, hDigits, rfl⟩
      | plus hDigits => exact absurd rfl (hPlus _)
      | minus hDigits => exact absurd rfl (hMinus _)

end Msat

end Payment

end LightningGateway
