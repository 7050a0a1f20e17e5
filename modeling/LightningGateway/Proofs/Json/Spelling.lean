import LightningGateway.Json.Value

/-
  How single tokens of JSON text are spelled.

  An integer and a quoted text that are written as a value
  writes them are read as one token, which stands for the same
  integer and the same text.  After an integer the text must
  not go on with what still belongs to a numeral.

  Key definitions include:
    * `EndsNumeral`

  Main results:
    * `token?_intChars`
    * `token?_quote`
    * `Numeral.integer?_ofInt`
-/

namespace LightningGateway.Json

------------------------------------------------------------
-- Digits
------------------------------------------------------------

/- Whether a text does not go on with a numeral in front of it. -/
def EndsNumeral : List Char → Prop
  | [] => True
  | c :: _ =>
      c.isDigit = false ∧ c ≠ '.' ∧ c ≠ 'e' ∧ c ≠ 'E'

/- The value of a decimal digit. -/
def digitValue (c : Char) : Nat :=
  c.toNat - 48

/- Digits are read up to where the numeral ends. -/
theorem digits_append
    {cs rest : List Char}
    (hDigits : ∀ c ∈ cs, c.isDigit = true)
    (hEnds : EndsNumeral rest) :
    digits (cs ++ rest) = (cs.map digitValue, rest) := by
  induction cs with
  | nil =>
      cases rest with
      | nil => rfl
      | cons c rest => simp [digits, hEnds.1]
  | cons c cs ih =>
      have hRest := ih fun d hMem => hDigits d (.tail c hMem)
      simp only [List.cons_append, digits, hRest,
        hDigits c (.head cs), if_true, List.map_cons,
        digitValue]

/- No fraction begins where a numeral ends. -/
theorem fraction?_of_endsNumeral
    {rest : List Char}
    (hEnds : EndsNumeral rest) :
    fraction? rest = some ([], rest) := by
  cases rest with
  | nil => rfl
  | cons c rest =>
      unfold fraction?
      split
      · rename_i hPoint
        cases hPoint
        exact absurd rfl hEnds.2.1
      · rfl

/- No exponent begins where a numeral ends. -/
theorem scale?_of_endsNumeral
    {rest : List Char}
    (hEnds : EndsNumeral rest) :
    scale? rest = some (none, rest) := by
  cases rest with
  | nil => rfl
  | cons c rest =>
      simp [scale?, hEnds.2.2.1, hEnds.2.2.2]

/- The digits of a number are decimal digits. -/
theorem isDigit_of_mem_toDigits
    {n : Nat}
    {c : Char}
    (hMem : c ∈ Nat.toDigits 10 n) :
    c.isDigit = true :=
  Nat.isDigit_of_mem_toDigits (by decide) (by decide) hMem

/- The digits of a number spell it. -/
theorem ofDigits_toDigits (n : Nat) :
    ofDigits ((Nat.toDigits 10 n).map digitValue) = n := by
  have hRead := Nat.ofDigitChars_ten_toDigits (n := n)
  rw [Nat.ofDigitChars_eq_foldl] at hRead
  rw [ofDigits, List.foldl_map]
  exact hRead

/- The digits of a number other than zero begin with none. -/
theorem head?_toDigits
    {n : Nat}
    (hPositive : 0 < n) :
    (Nat.toDigits 10 n).head? ≠ some '0' := by
  induction n using Nat.strongRecOn with
  | ind n ih =>
      by_cases hSmall : n < 10
      · rw [Nat.toDigits_of_lt_base hSmall]
        have hAll :
            ∀ k : Fin 10, 0 < k.val →
              [k.val.digitChar].head? ≠ some '0' := by
          decide
        exact hAll ⟨n, hSmall⟩ hPositive
      · have hMore : 10 ≤ n := Nat.le_of_not_lt hSmall
        rw [Nat.toDigits_of_base_le (by decide) hMore,
          List.head?_append,
          Option.or_of_isSome
            (List.isSome_head?.mpr Nat.toDigits_ne_nil)]
        exact ih (n / 10) (Nat.div_lt_self hPositive (by decide))
          (Nat.div_pos hMore (by decide))

------------------------------------------------------------
-- Integers
------------------------------------------------------------

/- The digits of a number are a whole part. -/
theorem whole?_toDigits
    (n : Nat)
    {rest : List Char}
    (hEnds : EndsNumeral rest) :
    whole? (Nat.toDigits 10 n ++ rest) =
      some ((Nat.toDigits 10 n).map digitValue, rest) := by
  have hRead :
      digits (Nat.toDigits 10 n ++ rest) =
        ((Nat.toDigits 10 n).map digitValue, rest) :=
    digits_append (fun c => isDigit_of_mem_toDigits) hEnds
  rcases Nat.eq_zero_or_pos n with rfl | hPositive
  · rfl
  · have hHead := head?_toDigits hPositive
    rcases hDigits : Nat.toDigits 10 n with _ | ⟨d, ds⟩
    · exact absurd hDigits Nat.toDigits_ne_nil
    · rw [hDigits] at hRead hHead
      rw [List.cons_append] at hRead ⊢
      unfold whole?
      split
      · rename_i hZero
        cases hZero
        exact absurd rfl hHead
      · rw [hRead]
        rfl

/- The digits of a number are a numeral. -/
theorem unsigned?_toDigits
    (negative : Bool)
    (n : Nat)
    {rest : List Char}
    (hEnds : EndsNumeral rest) :
    unsigned? negative (Nat.toDigits 10 n ++ rest) =
      some (⟨negative, (Nat.toDigits 10 n).map digitValue, [],
        none⟩, rest) := by
  simp only [unsigned?, whole?_toDigits n hEnds,
    fraction?_of_endsNumeral hEnds, scale?_of_endsNumeral hEnds]

/- A number begins with a digit. -/
theorem exists_digit_cons (n : Nat) :
    ∃ c cs, Nat.toDigits 10 n = c :: cs ∧ c.isDigit = true := by
  cases hDigits : Nat.toDigits 10 n with
  | nil => exact absurd hDigits Nat.toDigits_ne_nil
  | cons c cs =>
      refine ⟨c, cs, rfl, isDigit_of_mem_toDigits (n := n) ?_⟩
      rw [hDigits]
      exact .head cs

/- An integer that is written is a numeral. -/
theorem numeral?_intChars
    (n : Int)
    {rest : List Char}
    (hEnds : EndsNumeral rest) :
    numeral? (Value.intChars n ++ rest) =
      some (Numeral.ofInt n, rest) := by
  unfold Value.intChars Numeral.ofInt
  by_cases hNegative : n < 0
  · simp only [if_pos hNegative, List.cons_append, numeral?,
      unsigned?_toDigits _ _ hEnds, decide_eq_true hNegative]
    rfl
  · rcases exists_digit_cons n.natAbs with
      ⟨c, cs, hDigits, hDigit⟩
    have hRead :=
      unsigned?_toDigits false n.natAbs hEnds
    simp only [if_neg hNegative, decide_eq_false hNegative]
    rw [hDigits, List.cons_append] at hRead ⊢
    unfold numeral?
    split
    · rename_i hMinus
      cases hMinus
      cases hDigit
    · exact hRead

/- A numeral is the token at its beginning. -/
theorem token?_eq_numeral
    {c : Char}
    (hFirst : c.isDigit = true ∨ c = '-')
    (cs : List Char) :
    token? (c :: cs) =
      (numeral? (c :: cs)).map fun p => (.number p.1, p.2) := by
  have hOther :
      c ≠ '[' ∧ c ≠ ']' ∧ c ≠ '\x7b' ∧ c ≠ '\x7d' ∧ c ≠ ',' ∧
        c ≠ ':' ∧ c ≠ 'n' ∧ c ≠ 't' ∧ c ≠ 'f' ∧ c ≠ '"' := by
    refine ⟨?_, ?_, ?_, ?_, ?_, ?_, ?_, ?_, ?_, ?_⟩ <;>
      · rintro rfl
        revert hFirst
        decide
  unfold token?
  split <;> simp_all
  split <;> simp_all

/- An integer that is written is read as one token. -/
theorem token?_intChars
    (n : Int)
    {rest : List Char}
    (hEnds : EndsNumeral rest) :
    token? (Value.intChars n ++ rest) =
      some (.number (Numeral.ofInt n), rest) := by
  have hFirst :
      ∃ c cs, Value.intChars n = c :: cs ∧
        (c.isDigit = true ∨ c = '-') := by
    unfold Value.intChars
    split
    · exact ⟨_, _, rfl, .inr rfl⟩
    · rcases exists_digit_cons n.natAbs with
        ⟨c, cs, hDigits, hDigit⟩
      exact ⟨c, cs, hDigits, .inl hDigit⟩
  have hRead := numeral?_intChars n hEnds
  rcases hFirst with ⟨c, cs, hChars, hStart⟩
  rw [hChars, List.cons_append] at hRead ⊢
  rw [token?_eq_numeral hStart, hRead]
  rfl

/- An integer of 64 bits, signed or not, is what it is spelled as. -/
theorem Numeral.integer?_ofInt
    {n : Int}
    (hLower : -(signedLimit : Int) ≤ n)
    (hUpper : n < (wordLimit : Int)) :
    (Numeral.ofInt n).integer? = some n := by
  have hSpelled := ofDigits_toDigits n.natAbs
  unfold digitValue at hSpelled
  simp only [ofInt, integer?, List.isEmpty_nil,
    Option.isNone_none, Bool.and_self, if_true, hSpelled,
    decide_eq_true_eq]
  split
  · rename_i hNegative
    rw [if_neg (by omega), Option.some.injEq]
    omega
  · rename_i hNatural
    rw [if_pos (by omega), Option.some.injEq]
    omega

/- The value of such an integer is the integer. -/
theorem Numeral.value?_ofInt
    {n : Int}
    (hLower : -(signedLimit : Int) ≤ n)
    (hUpper : n < (wordLimit : Int)) :
    (Numeral.ofInt n).value? = some (.int n) := by
  rw [value?, integer?_ofInt hLower hUpper]

------------------------------------------------------------
-- Quoted Texts
------------------------------------------------------------

/- The characters that are escaped by one letter. -/
def lettered : List Char :=
  ['"', '\\', '\x08', '\t', '\n', '\x0c', '\r']

/-
  A character is escaped by one letter or by its code, or it
  stands for itself.
-/
theorem escapeChar_cases (c : Char) :
    (∃ e, Value.escapeChar c = ['\\', e] ∧ e ≠ 'u' ∧
      escaped? e = some c) ∨
    (c.toNat < 0x20 ∧
      Value.escapeChar c =
        ['\\', 'u', '0', '0', Text.Hex.digit (c.toNat / 16),
          Text.Hex.digit (c.toNat % 16)]) ∨
    (c ≠ '"' ∧ c ≠ '\\' ∧ ¬c.toNat < 0x20 ∧
      Value.escapeChar c = [c]) := by
  by_cases hLettered : c ∈ lettered
  · left
    simp only [lettered, List.mem_cons, List.not_mem_nil,
      or_false] at hLettered
    rcases hLettered with
      rfl | rfl | rfl | rfl | rfl | rfl | rfl <;>
      exact ⟨_, rfl, by decide, rfl⟩
  · right
    simp only [lettered, List.mem_cons, List.not_mem_nil,
      or_false, not_or] at hLettered
    rcases hLettered with ⟨hQuote, hSlash, h8, h9, h10, h12, h13⟩
    unfold Value.escapeChar
    rw [if_neg hQuote, if_neg hSlash, if_neg h8, if_neg h9,
      if_neg h10, if_neg h12, if_neg h13]
    by_cases hControl : c.toNat < 0x20
    · exact .inl ⟨hControl, if_pos hControl⟩
    · exact .inr ⟨hQuote, hSlash, hControl, if_neg hControl⟩

/- The code of a control character is read as the character. -/
theorem hex4?_control
    {c : Char}
    (hControl : c.toNat < 0x20) :
    hex4? '0' '0' (Text.Hex.digit (c.toNat / 16))
        (Text.Hex.digit (c.toNat % 16)) =
      some c.toNat := by
  have hZero : Text.Hex.value? '0' = some 0 := rfl
  have hHigh :=
    Text.Hex.value?_digit (n := c.toNat / 16) (by omega)
  have hLow :=
    Text.Hex.value?_digit (n := c.toNat % 16) (by omega)
  simp only [hex4?, hZero, hHigh, hLow, Option.bind_eq_bind,
    Option.bind_some, Option.some.injEq]
  omega

/- A character is read as it was escaped. -/
theorem pieces?_escapeChar
    (c : Char)
    (rest : List Char) :
    pieces? (Value.escapeChar c ++ rest) =
      (pieces? rest).map fun p => (.char c :: p.1, p.2) := by
  rcases escapeChar_cases c with
    ⟨e, hChars, hLetter, hKnown⟩ | ⟨hControl, hChars⟩ |
      ⟨hQuote, hSlash, hControl, hChars⟩
  · rw [hChars, List.cons_append, List.cons_append,
      List.nil_append, pieces?]
    · rw [hKnown]
      cases pieces? rest <;> rfl
    · rintro _ _ _ _ _ rfl
      exact absurd rfl hLetter
  · have hUnit : Piece.ofUnit c.toNat = .char c := by
      rw [Piece.ofUnit, if_neg (by omega), Char.ofNat_toNat]
    rw [hChars]
    simp only [List.cons_append, List.nil_append, pieces?,
      hex4?_control hControl]
    cases pieces? rest with
    | none => rfl
    | some p =>
        exact congrArg (fun q => some (q :: p.1, p.2)) hUnit
  · rw [hChars, List.cons_append, List.nil_append, pieces?]
    · rw [if_neg (not_or_intro hSlash hControl)]
      cases pieces? rest <;> rfl
    · exact hQuote
    · rintro _ _ _ _ _ rfl
      exact absurd rfl hSlash
    · rintro _ _ rfl
      exact absurd rfl hSlash

/- Characters are read as they were escaped, up to the quote. -/
theorem pieces?_escaped
    (cs rest : List Char) :
    pieces? (cs.flatMap Value.escapeChar ++ '"' :: rest) =
      some (cs.map .char, rest) := by
  induction cs with
  | nil => rfl
  | cons c cs ih =>
      rw [List.flatMap_cons, List.append_assoc,
        pieces?_escapeChar, ih]
      rfl

/- Without halves of pairs, the pieces are the characters. -/
theorem join?_map_char (cs : List Char) :
    join? (cs.map .char) = some cs := by
  induction cs with
  | nil => rfl
  | cons c cs ih =>
      rw [List.map_cons, join?, ih]
      rfl

/- A text that is written is read as one token. -/
theorem token?_quote
    (s : String)
    (rest : List Char) :
    token? (Value.quote s ++ rest) =
      some (.text (some s), rest) := by
  have hQuoted :
      Value.quote s ++ rest =
        '"' ::
          (s.toList.flatMap Value.escapeChar ++
            '"' :: rest) := by
    simp [Value.quote]
  rw [hQuoted]
  simp only [token?, pieces?_escaped, join?_map_char,
    Option.map_some, String.ofList_toList]

end LightningGateway.Json
