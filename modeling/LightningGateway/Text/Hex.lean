/-
  Bytes written as lower case hexadecimal digits.

  Key definitions include:
    * `Hex.encode`
    * `Hex.decode?`
-/

namespace LightningGateway.Text

namespace Hex

------------------------------------------------------------
-- Digits
------------------------------------------------------------

/- The lower case digit of a number below sixteen. -/
def digit (n : Nat) : Char :=
  if n < 10 then Char.ofNat (48 + n)
  else Char.ofNat (87 + n)

/- The value of a hexadecimal digit, in either case. -/
def value? (c : Char) : Option Nat :=
  let n := c.toNat
  if 48 ≤ n ∧ n ≤ 57 then some (n - 48)
  else if 97 ≤ n ∧ n ≤ 102 then some (n - 87)
  else if 65 ≤ n ∧ n ≤ 70 then some (n - 55)
  else none

------------------------------------------------------------
-- Bytes
------------------------------------------------------------

/- Two digits for each byte, the high half first. -/
def encode (bytes : List UInt8) : String :=
  String.ofList
    (bytes.flatMap fun b =>
      [digit (b.toNat / 16), digit (b.toNat % 16)])

/- The bytes of a list of digits; an odd count is refused. -/
def decodeChars? : List Char → Option (List UInt8)
  | [] => some []
  | [_] => none
  | a :: b :: rest => do
      let hi ← value? a
      let lo ← value? b
      let bytes ← decodeChars? rest
      some (UInt8.ofNat (16 * hi + lo) :: bytes)

/- The bytes that a text of digits stands for. -/
def decode? (s : String) : Option (List UInt8) :=
  decodeChars? s.toList

------------------------------------------------------------
-- Laws
------------------------------------------------------------

/- A digit has the value of its number. -/
theorem value?_digit
    {n : Nat}
    (hDigit : n < 16) :
    value? (digit n) = some n := by
  have hAll : ∀ k : Fin 16, value? (digit k) = some k.val := by
    decide
  exact hAll ⟨n, hDigit⟩

/- Bytes that are written can be read. -/
theorem decode?_encode (bytes : List UInt8) :
    decode? (encode bytes) = some bytes := by
  rw [decode?, encode, String.toList_ofList]
  induction bytes with
  | nil => rfl
  | cons b rest ih =>
      have hByte : b.toNat < 256 := b.toNat_lt
      have hJoin : 16 * (b.toNat / 16) + b.toNat % 16 = b.toNat :=
        Nat.div_add_mod b.toNat 16
      simp only [List.flatMap_cons, List.cons_append,
        List.nil_append, decodeChars?]
      rw [value?_digit (n := b.toNat / 16) (by omega),
        value?_digit (n := b.toNat % 16) (by omega), ih]
      simp only [Option.bind_eq_bind, Option.bind_some, hJoin,
        UInt8.ofNat_toNat]

end Hex

end LightningGateway.Text
