import LightningGateway.Proofs.Text.Utf8
import LightningGateway.Url.Reading

/-
  Percent decoding of what has been encoded.

  To encode more characters of a text does not change the bytes
  it stands for, and a text stands for no more bytes than it
  has itself.  So a dot segment, however it is written, stands
  for its dots.

  Key definitions include:
    * `Percent.IsBare`

  Main results:
    * `Percent.decode_encode`
    * `Percent.length_decode_le`
    * `Percent.decode_of_isSingleDot`
    * `Percent.decode_of_isDoubleDot`
-/

namespace LightningGateway.Url

namespace Percent

------------------------------------------------------------
-- One Step of Decoding
------------------------------------------------------------

/- Whether a text does not start with two digits. -/
def IsBare (cs : List Char) : Prop :=
  ∀ a b rest, cs = a :: b :: rest →
    Text.Hex.value? a = none ∨ Text.Hex.value? b = none

/- A percent sign with two digits stands for a byte. -/
theorem decode_escape
    {a b : Char}
    {hi lo : Nat}
    (hHigh : Text.Hex.value? a = some hi)
    (hLow : Text.Hex.value? b = some lo)
    (rest : List Char) :
    decode ('%' :: a :: b :: rest) =
      UInt8.ofNat (16 * hi + lo) :: decode rest := by
  rw [decode, hHigh, hLow]

/- Any other percent sign stands for itself. -/
theorem decode_bare
    {cs : List Char}
    (hBare : IsBare cs) :
    decode ('%' :: cs) = 0x25 :: decode cs := by
  match cs with
  | [] => rfl
  | [a] => rfl
  | a :: b :: rest =>
      rw [decode]
      rcases hBare a b rest rfl with hNone | hNone
      · rw [hNone]
      · rw [hNone]
        cases Text.Hex.value? a <;> rfl

/- Any other character stands for itself. -/
theorem decode_char
    {c : Char}
    (hPlain : c ≠ '%')
    (rest : List Char) :
    decode (c :: rest) =
      String.utf8EncodeChar c ++ decode rest := by
  rw [decode]
  rintro a b more rfl
  exact absurd rfl hPlain

/-
  A text is read by escapes, by percent signs that stand for
  themselves, and by other characters.
-/
@[elab_as_elim]
theorem reading_induction
    {motive : List Char → Prop}
    (nil : motive [])
    (escape :
      ∀ a b rest hi lo,
        Text.Hex.value? a = some hi →
        Text.Hex.value? b = some lo →
        motive rest → motive ('%' :: a :: b :: rest))
    (bare :
      ∀ rest, IsBare rest → motive rest → motive ('%' :: rest))
    (char :
      ∀ c rest, c ≠ '%' → motive rest → motive (c :: rest))
    (cs : List Char) :
    motive cs := by
  induction cs using decode.induct with
  | case1 => exact nil
  | case2 a b rest hi lo hLow hHigh ih =>
      exact escape a b rest hi lo hHigh hLow ih
  | case3 a b rest hNone ih =>
      refine bare (a :: b :: rest) ?_ ih
      intro x y more hCons
      cases hCons
      cases hHigh : Text.Hex.value? a with
      | none => exact .inl rfl
      | some hi =>
          refine .inr (Option.eq_none_iff_forall_ne_some.mpr ?_)
          intro lo hLow
          exact hNone hi lo hHigh hLow
  | case4 c rest hShort ih =>
      by_cases hSign : c = '%'
      · subst hSign
        refine bare rest ?_ ih
        intro a b more hRest
        exact (hShort a b more rfl hRest).elim
      · exact char c rest hSign ih

------------------------------------------------------------
-- Encoded Bytes
------------------------------------------------------------

/- An upper case digit has the value of its number. -/
theorem value?_digit
    {n : Nat}
    (hDigit : n < 16) :
    Text.Hex.value? (digit n) = some n := by
  have hAll :
      ∀ k : Fin 16, Text.Hex.value? (digit k) = some k.val := by
    decide
  exact hAll ⟨n, hDigit⟩

/- An encoded byte stands for the byte. -/
theorem decode_byte
    (b : UInt8)
    (rest : List Char) :
    decode (byte b ++ rest) = b :: decode rest := by
  have hByte : b.toNat < 256 := b.toNat_lt
  have hHigh := value?_digit (n := b.toNat / 16) (by omega)
  have hLow := value?_digit (n := b.toNat % 16) (by omega)
  have hJoin : 16 * (b.toNat / 16) + b.toNat % 16 = b.toNat :=
    Nat.div_add_mod b.toNat 16
  refine (decode_escape hHigh hLow rest).trans ?_
  rw [hJoin, UInt8.ofNat_toNat]

/- Encoded bytes stand for the bytes. -/
theorem decode_bytes
    (bytes : List UInt8)
    (rest : List Char) :
    decode (bytes.flatMap byte ++ rest) = bytes ++ decode rest := by
  induction bytes with
  | nil => rfl
  | cons b more ih =>
      rw [List.flatMap_cons, List.append_assoc, decode_byte, ih,
        List.cons_append]

------------------------------------------------------------
-- Encoded Texts
------------------------------------------------------------

/- A set that holds nothing of which an escape consists. -/
structure Spares (inSet : Char → Bool) : Prop where
  percent : inSet '%' = false
  not_digit :
    ∀ c, inSet c = true → Text.Hex.value? c = none

/- What is encoded in a path is no part of an escape. -/
theorem spares_inPath : Spares inPath := by
  refine ⟨by decide, ?_⟩
  intro c hInSet
  simp only [inPath, inFragment, isControl, Bool.or_eq_true,
    decide_eq_true_eq, beq_iff_eq] at hInSet
  rcases hInSet with
    ((((((((hControl | rfl) | rfl) | rfl) | rfl) | hTick) |
      rfl) | rfl) | rfl) | rfl
  any_goals decide
  · unfold Text.Hex.value?
    grind
  · simp [Text.Hex.value?, hTick]

section Sets

variable {inSet : Char → Bool}

/- A character that is not in the set is left. -/
theorem encode_cons_of_not_mem
    {c : Char}
    (hLeft : inSet c = false)
    (rest : List Char) :
    encode inSet (c :: rest) = c :: encode inSet rest := by
  rw [encode, List.flatMap_cons, encodeChar, hLeft]
  rfl

/- A character that is in the set is written as its bytes. -/
theorem encode_cons_of_mem
    {c : Char}
    (hInSet : inSet c = true)
    (rest : List Char) :
    encode inSet (c :: rest) =
      (String.utf8EncodeChar c).flatMap byte ++
        encode inSet rest := by
  rw [encode, List.flatMap_cons, encodeChar, hInSet]
  rfl

/- What is encoded starts with the character or a percent sign. -/
theorem exists_encode_cons
    (inSet : Char → Bool)
    (c : Char)
    (rest : List Char) :
    ∃ more, encode inSet (c :: rest) =
      (if inSet c then '%' else c) :: more := by
  cases hInSet : inSet c with
  | false =>
      exact ⟨_, encode_cons_of_not_mem hInSet rest⟩
  | true =>
      rw [encode_cons_of_mem hInSet]
      cases hBytes : String.utf8EncodeChar c with
      | nil => exact absurd hBytes String.utf8EncodeChar_ne_nil
      | cons b more => exact ⟨_, rfl⟩

/- Encoding does not make a digit of another character. -/
theorem value?_head
    {c : Char}
    (hNone : Text.Hex.value? c = none) :
    Text.Hex.value? (if inSet c then '%' else c) = none := by
  split
  · rfl
  · exact hNone

/- Encoding makes no digits at the start of a text. -/
theorem IsBare.encode
    {cs : List Char}
    (hBare : IsBare cs) :
    IsBare (encode inSet cs) := by
  intro a b rest hCons
  cases cs with
  | nil => cases hCons
  | cons c more =>
      cases hInSet : inSet c with
      | true =>
          rcases exists_encode_cons inSet c more with ⟨_, hHead⟩
          rw [hHead, hInSet] at hCons
          cases hCons
          exact .inl rfl
      | false =>
          rw [encode_cons_of_not_mem hInSet] at hCons
          cases more with
          | nil => cases hCons
          | cons d more =>
              rcases exists_encode_cons inSet d more with
                ⟨_, hHead⟩
              rw [hHead] at hCons
              cases hCons
              rcases hBare _ _ _ rfl with hNone | hNone
              · exact .inl hNone
              · exact .inr (value?_head hNone)

/- A text stands for the same bytes after it is encoded. -/
theorem decode_encode
    (hSpares : Spares inSet)
    (cs : List Char) :
    decode (encode inSet cs) = decode cs := by
  have hDigit {c : Char} {n : Nat}
      (hValue : Text.Hex.value? c = some n) :
      inSet c = false := by
    cases hInSet : inSet c with
    | false => rfl
    | true =>
        rw [hSpares.not_digit c hInSet] at hValue
        cases hValue
  induction cs using reading_induction with
  | nil => rfl
  | escape a b rest hi lo hHigh hLow ih =>
      rw [encode_cons_of_not_mem hSpares.percent,
        encode_cons_of_not_mem (hDigit hHigh),
        encode_cons_of_not_mem (hDigit hLow),
        decode_escape hHigh hLow, decode_escape hHigh hLow, ih]
  | bare rest hBare ih =>
      rw [encode_cons_of_not_mem hSpares.percent,
        decode_bare hBare, decode_bare hBare.encode, ih]
  | char c rest hSign ih =>
      cases hInSet : inSet c with
      | false =>
          rw [encode_cons_of_not_mem hInSet, decode_char hSign,
            decode_char hSign, ih]
      | true =>
          rw [encode_cons_of_mem hInSet, decode_bytes,
            decode_char hSign, ih]

end Sets

------------------------------------------------------------
-- Lengths
------------------------------------------------------------

/- A text stands for no more bytes than it has. -/
theorem length_decode_le (cs : List Char) :
    (decode cs).length ≤ (Text.Utf8.encodeChars cs).length := by
  have hCons (c : Char) (rest : List Char) :
      (Text.Utf8.encodeChars (c :: rest)).length =
        c.utf8Size + (Text.Utf8.encodeChars rest).length := by
    rw [Text.Utf8.encodeChars, List.flatMap_cons,
      List.length_append, String.length_utf8EncodeChar]
    rfl
  have hPercent := Char.utf8Size_pos '%'
  induction cs using reading_induction with
  | nil => exact Nat.le_refl 0
  | escape a b rest hi lo hHigh hLow ih =>
      rw [decode_escape hHigh hLow, List.length_cons, hCons,
        hCons, hCons]
      omega
  | bare rest hBare ih =>
      rw [decode_bare hBare, List.length_cons, hCons]
      omega
  | char c rest hSign ih =>
      rw [decode_char hSign, List.length_append,
        String.length_utf8EncodeChar, hCons]
      omega

------------------------------------------------------------
-- Dot Segments
------------------------------------------------------------

/- A dot, or its escape in either case. -/
def IsDot (d : List Char) : Prop :=
  d.map Char.toLower = ['.'] ∨
    d.map Char.toLower = ['%', '2', 'e']

/- The lower case of a character is 32 places after a capital. -/
theorem toNat_toLower (c : Char) :
    c.toLower.toNat = c.toNat ∨
      65 ≤ c.toNat ∧ c.toNat ≤ 90 ∧
        c.toLower.toNat = c.toNat + 32 := by
  unfold Char.toLower
  split
  · rename_i hUpper
    have hLow : 65 ≤ c.val.toNat := hUpper.1
    have hHigh : c.val.toNat ≤ 90 := hUpper.2
    have hSmall : c.val.toNat + 32 < 4294967296 := by omega
    refine .inr ⟨hLow, hHigh, ?_⟩
    exact (UInt32.toNat_add c.val 32).trans
      (Nat.mod_eq_of_lt hSmall)
  · exact .inl rfl

/- Only a letter has another one in lower case. -/
theorem eq_of_toLower
    {c d : Char}
    (hOther : d.toNat < 97)
    (hLower : c.toLower = d) :
    c = d := by
  have hCases := toNat_toLower c
  rw [hLower] at hCases
  apply Char.toNat_inj.mp
  omega

/- A digit has the same value in lower case. -/
theorem value?_of_toLower
    {c : Char}
    (hLower : c.toLower = 'e') :
    Text.Hex.value? c = some 14 := by
  have hCases := toNat_toLower c
  rw [hLower] at hCases
  have hLetter : c = 'e' ∨ c = 'E' := by
    rw [← Char.toNat_inj, ← Char.toNat_inj]
    have hSmall : 'e'.toNat = 101 := rfl
    have hCapital : 'E'.toNat = 69 := rfl
    omega
  rcases hLetter with rfl | rfl <;> rfl

/- A dot stands for a dot. -/
theorem IsDot.decode_append
    {d : List Char}
    (hDot : IsDot d)
    (rest : List Char) :
    decode (d ++ rest) = 0x2E :: decode rest := by
  unfold IsDot at hDot
  simp only [List.map_eq_cons_iff, List.map_eq_nil_iff] at hDot
  rcases hDot with
    ⟨a, _, rfl, hPoint, rfl⟩ |
      ⟨a, _, rfl, hSign, b, _, rfl, hTwo, c, _, rfl, hLetter, rfl⟩
  · rw [eq_of_toLower (by decide) hPoint]
    exact decode_char (by decide) rest
  · have hDigit : Text.Hex.value? '2' = some 2 := by decide
    rw [eq_of_toLower (by decide) hSign,
      eq_of_toLower (by decide) hTwo]
    exact decode_escape hDigit (value?_of_toLower hLetter) rest

/- A segment that means itself is a dot. -/
theorem isDot_of_isSingleDot
    {s : List Char}
    (hSingle : isSingleDot s = true) :
    IsDot s := by
  unfold isSingleDot at hSingle
  split at hSingle
  · rename_i hText
    exact .inl (String.ofList_injective hText)
  · rename_i hText
    exact .inr (String.ofList_injective hText)
  · cases hSingle

/- A segment that means the one before is two dots. -/
theorem exists_dots_of_isDoubleDot
    {s : List Char}
    (hDouble : isDoubleDot s = true) :
    ∃ d e, s = d ++ e ∧ IsDot d ∧ IsDot e := by
  -- Each of the four spellings is a first dot and a second.
  have hDots :
      ∃ first second : List Char,
        (first = ['.'] ∨ first = ['%', '2', 'e']) ∧
        (second = ['.'] ∨ second = ['%', '2', 'e']) ∧
        String.ofList (s.map Char.toLower) =
          String.ofList (first ++ second) := by
    unfold isDoubleDot at hDouble
    split at hDouble
    · rename_i hText
      exact ⟨_, _, .inl rfl, .inl rfl, hText⟩
    · rename_i hText
      exact ⟨_, _, .inr rfl, .inr rfl, hText⟩
    · rename_i hText
      exact ⟨_, _, .inr rfl, .inl rfl, hText⟩
    · rename_i hText
      exact ⟨_, _, .inl rfl, .inr rfl, hText⟩
    · cases hDouble
  rcases hDots with ⟨first, second, hFirst, hSecond, hText⟩
  rcases List.map_eq_append_iff.mp
      (String.ofList_injective hText) with
    ⟨d, e, hParts, hBefore, hAfter⟩
  rw [← hBefore] at hFirst
  rw [← hAfter] at hSecond
  exact ⟨d, e, hParts, hFirst, hSecond⟩

/- A segment that means itself stands for a dot. -/
theorem decode_of_isSingleDot
    {s : List Char}
    (hSingle : isSingleDot s = true) :
    decode s = Text.Utf8.encode "." := by
  have hDecode :=
    (isDot_of_isSingleDot hSingle).decode_append []
  rw [List.append_nil] at hDecode
  exact hDecode

/- A segment that means the one before stands for two dots. -/
theorem decode_of_isDoubleDot
    {s : List Char}
    (hDouble : isDoubleDot s = true) :
    decode s = Text.Utf8.encode ".." := by
  rcases exists_dots_of_isDoubleDot hDouble with
    ⟨d, e, rfl, hFirst, hSecond⟩
  have hDecode := hSecond.decode_append []
  rw [List.append_nil] at hDecode
  rw [hFirst.decode_append, hDecode]
  rfl

end Percent

end LightningGateway.Url
