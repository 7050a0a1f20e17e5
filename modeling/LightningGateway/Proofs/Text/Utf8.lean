import LightningGateway.Text.Utf8

/-
  Text that is encoded and decoded again.

  The bytes of a text are decoded to the text, whatever bytes
  come after them.  So two texts with the same bytes are the
  same, and the bytes of a character hold a byte below 0x80
  only if the character is in ASCII.

  Key definitions include:
    * `Utf8.tailByte`
    * `Utf8.Takes`

  Main results:
    * `Utf8.takes_encodeChar`
    * `Utf8.decodeFrom_encodeChars`
    * `Utf8.decode?_encode`
    * `Utf8.mem_of_mem_encodeChars`
    * `Utf8.encodeChars_inj`
-/

namespace LightningGateway.Text

namespace Utf8

------------------------------------------------------------
-- Bytes of Characters
------------------------------------------------------------

/- A number that fits a byte is the number of the byte. -/
theorem toNat_ofNat
    {n : Nat}
    (hSmall : n < 256) :
    (UInt8.ofNat n).toNat = n :=
  UInt8.toNat_ofNat_of_lt' hSmall

/- The byte that continues a character by the last six bits. -/
def tailByte (n : Nat) : UInt8 :=
  UInt8.ofNat (n % 64 + 0x80)

/- A continuation byte holds six bits. -/
theorem toNat_tailByte (n : Nat) :
    (tailByte n).toNat = n % 64 + 0x80 :=
  toNat_ofNat (by omega)

/- A character has one to four bytes, by its number. -/
theorem encodeChar_cases (c : Char) :
    (c.toNat < 0x80 ∧
      String.utf8EncodeChar c = [UInt8.ofNat c.toNat]) ∨
    (0x80 ≤ c.toNat ∧ c.toNat < 0x800 ∧
      String.utf8EncodeChar c =
        [UInt8.ofNat (c.toNat / 64 + 0xC0), tailByte c.toNat]) ∨
    (0x800 ≤ c.toNat ∧ c.toNat < 0x10000 ∧
      String.utf8EncodeChar c =
        [UInt8.ofNat (c.toNat / 4096 + 0xE0),
          tailByte (c.toNat / 64), tailByte c.toNat]) ∨
    (0x10000 ≤ c.toNat ∧
      String.utf8EncodeChar c =
        [UInt8.ofNat (c.toNat / 262144 + 0xF0),
          tailByte (c.toNat / 4096), tailByte (c.toNat / 64),
          tailByte c.toNat]) := by
  have hValid :
      c.toNat < 0xD800 ∨
        (0xDFFF < c.toNat ∧ c.toNat < 0x110000) := c.valid
  have hNumber : c.val.toNat = c.toNat := rfl
  unfold String.utf8EncodeChar
  simp only [hNumber]
  by_cases hOne : c.toNat ≤ 0x7F
  · exact .inl ⟨by omega, if_pos hOne⟩
  · rw [if_neg hOne]
    by_cases hTwo : c.toNat ≤ 0x7FF
    · have hLead : c.toNat / 64 % 32 = c.toNat / 64 := by omega
      refine .inr (.inl ⟨by omega, by omega, ?_⟩)
      rw [if_pos hTwo, hLead]
      rfl
    · rw [if_neg hTwo]
      by_cases hThree : c.toNat ≤ 0xFFFF
      · have hLead : c.toNat / 4096 % 16 = c.toNat / 4096 := by
          omega
        refine .inr (.inr (.inl ⟨by omega, by omega, ?_⟩))
        rw [if_pos hThree, hLead]
        rfl
      · have hLead :
            c.toNat / 262144 % 8 = c.toNat / 262144 := by
          omega
        refine .inr (.inr (.inr ⟨by omega, ?_⟩))
        rw [if_neg hThree, hLead]
        rfl

/- The bytes of two texts in a row are those of each. -/
theorem encodeChars_append (cs ds : List Char) :
    encodeChars (cs ++ ds) = encodeChars cs ++ encodeChars ds :=
  List.flatMap_append

------------------------------------------------------------
-- Decoding One Character
------------------------------------------------------------

/-
  The machine takes bytes as a character, from the start or
  after the first ones.
-/
inductive Takes :
    Option Unfinished → List UInt8 → Char → Prop
  | whole
      {b : UInt8}
      {c : Char}
      (hLead : lead b = .whole c) :
      Takes none [b] c
  | first
      {b : UInt8}
      {u : Unfinished}
      {bytes : List UInt8}
      {c : Char}
      (hLead : lead b = .more u)
      (hRest : Takes (some u) bytes c) :
      Takes none (b :: bytes) c
  | next
      {b : UInt8}
      {u v : Unfinished}
      {bytes : List UInt8}
      {c : Char}
      (hAccepts : u.accepts b = true)
      (hPush : u.push b = .more v)
      (hRest : Takes (some v) bytes c) :
      Takes (some u) (b :: bytes) c
  | last
      {b : UInt8}
      {u : Unfinished}
      {c : Char}
      (hAccepts : u.accepts b = true)
      (hPush : u.push b = .whole c) :
      Takes (some u) [b] c

/- What is taken as a character is decoded to it. -/
theorem Takes.decodeFrom
    {s : Option Unfinished}
    {bytes : List UInt8}
    {c : Char}
    (hTakes : Takes s bytes c)
    (rest : List UInt8) :
    decodeFrom s (bytes ++ rest) = c :: decodeFrom none rest := by
  induction hTakes with
  | whole hLead =>
      simp only [List.cons_append, List.nil_append,
        Utf8.decodeFrom, hLead]
  | first hLead _ ih =>
      simp only [List.cons_append, Utf8.decodeFrom, hLead, ih]
  | next hAccepts hPush _ ih =>
      simp only [List.cons_append, Utf8.decodeFrom, hAccepts,
        if_true, hPush, ih]
  | last hAccepts hPush =>
      simp only [List.cons_append, List.nil_append,
        Utf8.decodeFrom, hAccepts, if_true, hPush]

/- There is no fault in it. -/
theorem Takes.exists_faultFrom
    {s : Option Unfinished}
    {bytes : List UInt8}
    {c : Char}
    (hTakes : Takes s bytes c)
    (offset : Nat)
    (rest : List UInt8) :
    ∃ after, faultFrom s offset (bytes ++ rest) =
      faultFrom none after rest := by
  induction hTakes with
  | whole hLead =>
      refine ⟨offset + 1, ?_⟩
      simp only [List.cons_append, List.nil_append, faultFrom,
        hLead]
  | first hLead _ ih =>
      rcases ih with ⟨after, hAfter⟩
      refine ⟨after, ?_⟩
      simp only [List.cons_append, faultFrom, hLead, hAfter]
  | next hAccepts hPush _ ih =>
      rcases ih with ⟨after, hAfter⟩
      refine ⟨after, ?_⟩
      simp only [List.cons_append, faultFrom, hAccepts, if_true,
        hPush, hAfter]
  | @last b u c hAccepts hPush =>
      refine ⟨offset + u.seen + 1, ?_⟩
      simp only [List.cons_append, List.nil_append, faultFrom,
        hAccepts, if_true, hPush]

/- A continuation byte after which more bytes are owed. -/
theorem push_tailByte_of_lt
    {u : Unfinished}
    (hOwed : 1 < u.owed)
    (n : Nat) :
    u.push (tailByte n) =
      .more ⟨u.owed - 1, 0x80, 0xBF, 64 * u.bits + n % 64,
        u.seen + 1⟩ := by
  have hBits : (n % 64 + 0x80) % 64 = n % 64 := by omega
  have hMore : ¬u.owed ≤ 1 := by omega
  simp only [Unfinished.push, toNat_tailByte, hBits,
    if_neg hMore]

/- The last continuation byte of a character. -/
theorem push_tailByte_of_le
    {u : Unfinished}
    (hOwed : u.owed ≤ 1)
    (n : Nat) :
    u.push (tailByte n) =
      .whole (Char.ofNat (64 * u.bits + n % 64)) := by
  have hBits : (n % 64 + 0x80) % 64 = n % 64 := by omega
  simp only [Unfinished.push, toNat_tailByte, hBits,
    if_pos hOwed]

/- A continuation byte whose value is in the narrowed range. -/
theorem accepts_tailByte
    {u : Unfinished}
    {n : Nat}
    (hLow : u.low ≤ n % 64 + 0x80)
    (hHigh : n % 64 + 0x80 ≤ u.high) :
    u.accepts (tailByte n) = true := by
  simp only [Unfinished.accepts, toNat_tailByte, Bool.and_eq_true,
    decide_eq_true_eq]
  exact ⟨hLow, hHigh⟩

/- The first of three bytes, with the range of the second. -/
theorem lead_three
    {n : Nat}
    (hLow : 0x800 ≤ n)
    (hHigh : n < 0x10000)
    (hValid : n < 0xD800 ∨ 0xDFFF < n) :
    ∃ low high,
      lead (UInt8.ofNat (n / 4096 + 0xE0)) =
        .more ⟨2, low, high, n / 4096, 1⟩ ∧
      low ≤ n / 64 % 64 + 0x80 ∧
      n / 64 % 64 + 0x80 ≤ high := by
  have hByte := toNat_ofNat (n := n / 4096 + 0xE0) (by omega)
  simp only [lead, hByte]
  rw [if_neg (by omega), if_neg (by omega), if_neg (by omega)]
  by_cases hFirst : n / 4096 = 0
  · rw [hFirst, if_pos rfl]
    exact ⟨_, _, rfl, by omega, by omega⟩
  · rw [if_neg (by omega)]
    by_cases hLast : n / 4096 = 13
    · rw [hLast, if_pos rfl]
      exact ⟨_, _, rfl, by omega, by omega⟩
    · have hBits : (n / 4096 + 0xE0) % 16 = n / 4096 := by omega
      rw [if_neg (by omega), if_pos (by omega), hBits]
      exact ⟨_, _, rfl, by omega, by omega⟩

/- The first of four bytes, with the range of the second. -/
theorem lead_four
    {n : Nat}
    (hLow : 0x10000 ≤ n)
    (hHigh : n < 0x110000) :
    ∃ low high,
      lead (UInt8.ofNat (n / 262144 + 0xF0)) =
        .more ⟨3, low, high, n / 262144, 1⟩ ∧
      low ≤ n / 4096 % 64 + 0x80 ∧
      n / 4096 % 64 + 0x80 ≤ high := by
  have hByte := toNat_ofNat (n := n / 262144 + 0xF0) (by omega)
  simp only [lead, hByte]
  rw [if_neg (by omega), if_neg (by omega), if_neg (by omega),
    if_neg (by omega), if_neg (by omega), if_neg (by omega)]
  by_cases hFirst : n / 262144 = 0
  · rw [hFirst, if_pos rfl]
    exact ⟨_, _, rfl, by omega, by omega⟩
  · rw [if_neg (by omega)]
    by_cases hMiddle : n / 262144 < 4
    · have hBits : (n / 262144 + 0xF0) % 8 = n / 262144 := by
        omega
      rw [if_pos (by omega), hBits]
      exact ⟨_, _, rfl, by omega, by omega⟩
    · have hLast : n / 262144 = 4 := by omega
      rw [hLast, if_neg (by omega), if_pos rfl]
      exact ⟨_, _, rfl, by omega, by omega⟩

/- The bytes of a character are taken as the character. -/
theorem takes_encodeChar (c : Char) :
    Takes none (String.utf8EncodeChar c) c := by
  have hValid :
      c.toNat < 0xD800 ∨
        (0xDFFF < c.toNat ∧ c.toNat < 0x110000) := c.valid
  have hDone {n : Nat} (hNumber : n = c.toNat) :
      Char.ofNat n = c := by
    rw [hNumber, Char.ofNat_toNat]
  have hLast
      {u : Unfinished}
      (hOwed : u.owed ≤ 1)
      (hLow : u.low ≤ 0x80)
      (hHigh : 0xBF ≤ u.high)
      (hBits : 64 * u.bits + c.toNat % 64 = c.toNat) :
      Takes (some u) [tailByte c.toNat] c := by
    refine .last (accepts_tailByte (by omega) (by omega)) ?_
    rw [push_tailByte_of_le hOwed, hDone hBits]
  rcases encodeChar_cases c with
    ⟨hHigh, hBytes⟩ | ⟨hLow, hHigh, hBytes⟩ |
      ⟨hLow, hHigh, hBytes⟩ | ⟨hLow, hBytes⟩
  · have hLead : lead (UInt8.ofNat c.toNat) = .whole c := by
      simp only [lead, toNat_ofNat (Nat.lt_trans hHigh (by decide)),
        if_pos hHigh, Char.ofNat_toNat]
    rw [hBytes]
    exact .whole hLead
  · have hByte :=
      toNat_ofNat (n := c.toNat / 64 + 0xC0) (by omega)
    have hBits : (c.toNat / 64 + 0xC0) % 32 = c.toNat / 64 := by
      omega
    have hLead :
        lead (UInt8.ofNat (c.toNat / 64 + 0xC0)) =
          .more ⟨1, 0x80, 0xBF, c.toNat / 64, 1⟩ := by
      simp only [lead, hByte, hBits]
      rw [if_neg (by omega), if_neg (by omega),
        if_pos (by omega)]
    rw [hBytes]
    exact .first hLead (hLast (Nat.le_refl 1) (Nat.le_refl _)
      (Nat.le_refl _) (by simp only; omega))
  · rcases lead_three hLow hHigh (by omega) with
      ⟨low, high, hLead, hAbove, hBelow⟩
    rw [hBytes]
    refine .first hLead (.next (accepts_tailByte hAbove hBelow)
      (push_tailByte_of_lt (by simp only; omega) _) ?_)
    exact hLast (Nat.le_refl 1) (Nat.le_refl _) (Nat.le_refl _)
      (by simp only; omega)
  · rcases lead_four hLow (by omega) with
      ⟨low, high, hLead, hAbove, hBelow⟩
    rw [hBytes]
    refine .first hLead (.next (accepts_tailByte hAbove hBelow)
      (push_tailByte_of_lt (by simp only; omega) _) ?_)
    refine .next
      (accepts_tailByte (by simp only; omega)
        (by simp only; omega))
      (push_tailByte_of_lt (by simp only; omega) _) ?_
    exact hLast (Nat.le_refl 1) (Nat.le_refl _) (Nat.le_refl _)
      (by simp only; omega)

------------------------------------------------------------
-- Decoding Texts
------------------------------------------------------------

/- The bytes of a text are decoded to the text. -/
theorem decodeFrom_encodeChars
    (cs : List Char)
    (rest : List UInt8) :
    decodeFrom none (encodeChars cs ++ rest) =
      cs ++ decodeFrom none rest := by
  induction cs with
  | nil => rfl
  | cons c cs ih =>
      rw [encodeChars, List.flatMap_cons, List.append_assoc,
        (takes_encodeChar c).decodeFrom]
      exact congrArg (c :: ·) ih

/- They are well-formed. -/
theorem faultFrom_encodeChars
    (cs : List Char)
    (offset : Nat) :
    faultFrom none offset (encodeChars cs) = none := by
  induction cs generalizing offset with
  | nil => rfl
  | cons c cs ih =>
      rcases (takes_encodeChar c).exists_faultFrom offset
          (encodeChars cs) with
        ⟨after, hAfter⟩
      rw [encodeChars, List.flatMap_cons, ← encodeChars, hAfter]
      exact ih after

/- So the text is what they are well-formed as. -/
theorem decode?_encode (s : String) :
    decode? (encode s) = .ok s := by
  have hChars := decodeFrom_encodeChars s.toList []
  rw [List.append_nil] at hChars
  rw [decode?, fault?, encode, faultFrom_encodeChars, decode,
    hChars, decodeFrom, List.append_nil, String.ofList_toList]

/- A byte of a text below 0x80 is a character of the text. -/
theorem mem_of_mem_encodeChars
    {cs : List Char}
    {b : UInt8}
    (hByte : b ∈ encodeChars cs)
    (hSmall : b.toNat < 0x80) :
    Char.ofNat b.toNat ∈ cs := by
  rcases List.mem_flatMap.mp hByte with ⟨c, hMem, hIn⟩
  have hTail (n : Nat) : b ≠ tailByte n := by
    rintro rfl
    rw [toNat_tailByte] at hSmall
    omega
  have hLead {n : Nat} (hLow : 0x80 ≤ n) (hHigh : n < 256) :
      b ≠ UInt8.ofNat n := by
    rintro rfl
    rw [toNat_ofNat hHigh] at hSmall
    omega
  have hValid :
      c.toNat < 0xD800 ∨
        (0xDFFF < c.toNat ∧ c.toNat < 0x110000) := c.valid
  rcases encodeChar_cases c with
    ⟨hHigh, hBytes⟩ | ⟨hLow, hHigh, hBytes⟩ |
      ⟨hLow, hHigh, hBytes⟩ | ⟨hLow, hBytes⟩
  · rw [hBytes, List.mem_singleton] at hIn
    rw [hIn, toNat_ofNat (Nat.lt_trans hHigh (by decide)),
      Char.ofNat_toNat]
    exact hMem
  · have hFirst := hLead (n := c.toNat / 64 + 0xC0)
      (by omega) (by omega)
    simp only [hBytes, List.mem_cons, List.not_mem_nil, hFirst,
      hTail, or_self] at hIn
  · have hFirst := hLead (n := c.toNat / 4096 + 0xE0)
      (by omega) (by omega)
    simp only [hBytes, List.mem_cons, List.not_mem_nil, hFirst,
      hTail, or_self] at hIn
  · have hFirst := hLead (n := c.toNat / 262144 + 0xF0)
      (by omega) (by omega)
    simp only [hBytes, List.mem_cons, List.not_mem_nil, hFirst,
      hTail, or_self] at hIn

/- Texts with the same bytes are the same. -/
theorem encodeChars_inj
    {cs ds : List Char}
    (hBytes : encodeChars cs = encodeChars ds) :
    cs = ds := by
  have hFirst := decodeFrom_encodeChars cs []
  have hSecond := decodeFrom_encodeChars ds []
  rw [hBytes, hSecond] at hFirst
  simpa [decodeFrom] using hFirst.symm

end Utf8

end LightningGateway.Text
