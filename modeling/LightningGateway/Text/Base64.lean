/-
  Bytes written in base 64.

  Three bytes are written with four digits.  One or two bytes at
  the end are written with two or three, and filled up to four
  with equals signs.

  Key definitions include:
    * `Base64.encode`
    * `Base64.decode?`
-/

namespace LightningGateway.Text

namespace Base64

------------------------------------------------------------
-- Digits
------------------------------------------------------------

/- The digit of a number below 64. -/
def digit (n : Nat) : Char :=
  if n < 26 then Char.ofNat (65 + n)
  else if n < 52 then Char.ofNat (71 + n)
  else if n < 62 then Char.ofNat (n - 4)
  else if n = 62 then '+'
  else '/'

/- The value of a digit. -/
def value? (c : Char) : Option Nat :=
  let n := c.toNat
  if 65 ≤ n ∧ n ≤ 90 then some (n - 65)
  else if 97 ≤ n ∧ n ≤ 122 then some (n - 71)
  else if 48 ≤ n ∧ n ≤ 57 then some (n + 4)
  else if c = '+' then some 62
  else if c = '/' then some 63
  else none

------------------------------------------------------------
-- Bytes
------------------------------------------------------------

/- The digits of bytes, filled up at the end. -/
def encodeBytes : List UInt8 → List Char
  | [] => []
  | [a] =>
      [digit (a.toNat / 4), digit (a.toNat % 4 * 16), '=', '=']
  | [a, b] =>
      [digit (a.toNat / 4),
       digit (a.toNat % 4 * 16 + b.toNat / 16),
       digit (b.toNat % 16 * 4), '=']
  | a :: b :: c :: rest =>
      digit (a.toNat / 4) ::
      digit (a.toNat % 4 * 16 + b.toNat / 16) ::
      digit (b.toNat % 16 * 4 + c.toNat / 64) ::
      digit (c.toNat % 64) :: encodeBytes rest

/- The text of bytes. -/
def encode (bytes : List UInt8) : String :=
  String.ofList (encodeBytes bytes)

/- The bytes of digits that were filled up. -/
def decodeChars? : List Char → Option (List UInt8)
  | [] => some []
  | [x, y, '=', '='] => do
      let x ← value? x
      let y ← value? y
      some [UInt8.ofNat (4 * x + y / 16)]
  | [x, y, z, '='] => do
      let x ← value? x
      let y ← value? y
      let z ← value? z
      some [UInt8.ofNat (4 * x + y / 16),
        UInt8.ofNat (16 * (y % 16) + z / 4)]
  | x :: y :: z :: w :: rest => do
      let x ← value? x
      let y ← value? y
      let z ← value? z
      let w ← value? w
      let bytes ← decodeChars? rest
      some (UInt8.ofNat (4 * x + y / 16) ::
        UInt8.ofNat (16 * (y % 16) + z / 4) ::
        UInt8.ofNat (64 * (z % 4) + w) :: bytes)
  | _ => none

/- The bytes of a text. -/
def decode? (s : String) : Option (List UInt8) :=
  decodeChars? s.toList

------------------------------------------------------------
-- Laws
------------------------------------------------------------

/- A digit has the value of its number. -/
theorem value?_digit
    {n : Nat}
    (hDigit : n < 64) :
    value? (digit n) = some n := by
  have hAll : ∀ k : Fin 64, value? (digit k) = some k.val := by
    decide
  exact hAll ⟨n, hDigit⟩

/- No digit is an equals sign. -/
theorem digit_ne_fill
    {n : Nat}
    (hDigit : n < 64) :
    digit n ≠ '=' := by
  have hAll : ∀ k : Fin 64, digit k ≠ '=' := by
    decide
  exact hAll ⟨n, hDigit⟩

/- Bytes that are written can be read. -/
theorem decode?_encode (bytes : List UInt8) :
    decode? (encode bytes) = some bytes := by
  rw [decode?, encode, String.toList_ofList]
  induction bytes using encodeBytes.induct with
  | case1 => rfl
  | case2 a =>
      have hA := a.toNat_lt
      have hFirst :
          4 * (a.toNat / 4) + a.toNat % 4 * 16 / 16 = a.toNat := by
        omega
      rw [encodeBytes, decodeChars?, value?_digit (by omega),
        value?_digit (by omega)]
      simp only [Option.bind_eq_bind, Option.bind_some, hFirst,
        UInt8.ofNat_toNat]
  | case3 a b =>
      have hA := a.toNat_lt
      have hB := b.toNat_lt
      have hFirst :
          4 * (a.toNat / 4) +
            (a.toNat % 4 * 16 + b.toNat / 16) / 16 = a.toNat := by
        omega
      have hSecond :
          16 * ((a.toNat % 4 * 16 + b.toNat / 16) % 16) +
            b.toNat % 16 * 4 / 4 = b.toNat := by
        omega
      have hFill := digit_ne_fill (n := b.toNat % 16 * 4) (by omega)
      rw [encodeBytes, decodeChars?.eq_3 _ _ _ hFill,
        value?_digit (by omega), value?_digit (by omega),
        value?_digit (by omega)]
      simp only [Option.bind_eq_bind, Option.bind_some, hFirst,
        hSecond, UInt8.ofNat_toNat]
  | case4 a b c rest ih =>
      have hA := a.toNat_lt
      have hB := b.toNat_lt
      have hC := c.toNat_lt
      have hFirst :
          4 * (a.toNat / 4) +
            (a.toNat % 4 * 16 + b.toNat / 16) / 16 = a.toNat := by
        omega
      have hSecond :
          16 * ((a.toNat % 4 * 16 + b.toNat / 16) % 16) +
            (b.toNat % 16 * 4 + c.toNat / 64) / 4 = b.toNat := by
        omega
      have hThird :
          64 * ((b.toNat % 16 * 4 + c.toNat / 64) % 4) +
            c.toNat % 64 = c.toNat := by
        omega
      have hFill := digit_ne_fill (n := c.toNat % 64) (by omega)
      rw [encodeBytes, decodeChars?.eq_4 _ _ _ _ _
          (fun _ hLast _ => hFill hLast)
          (fun hLast _ => hFill hLast),
        value?_digit (by omega), value?_digit (by omega),
        value?_digit (by omega), value?_digit (by omega), ih]
      simp only [Option.bind_eq_bind, Option.bind_some, hFirst,
        hSecond, hThird, UInt8.ofNat_toNat]

/- The end of a text is filled up as it has to be. -/
example :
    ["f", "fo", "foo", "foob"].map
        (fun s => encode (s.toList.map fun c => c.toNat.toUInt8)) =
      ["Zg==", "Zm8=", "Zm9v", "Zm9vYg=="] := by
  decide +kernel

end Base64

end LightningGateway.Text
