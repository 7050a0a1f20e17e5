import LightningGateway.Text.Hidden

/-
  Text in double quotes, as it is shown to people.

  A quote, a backslash and what cannot be shown are escaped;
  the last by the code point, in hexadecimal.

  Key definitions include:
    * `Quoted.escape`
    * `Quoted.encode`
-/

namespace LightningGateway.Text

namespace Quoted

/- A code point in hexadecimal. -/
def pointChars (n : Nat) : List Char :=
  '\\' :: 'u' :: '\x7b' :: (Nat.toDigits 16 n ++ ['\x7d'])

/- A character as it is shown. -/
def escape (c : Char) : List Char :=
  if c = '\x00' then ['\\', '0']
  else if c = '\t' then ['\\', 't']
  else if c = '\n' then ['\\', 'n']
  else if c = '\r' then ['\\', 'r']
  else if c = '"' then ['\\', '"']
  else if c = '\\' then ['\\', '\\']
  else if c.toNat < 0x20 ∨ c.toNat = 0x7F then
    pointChars c.toNat
  else if c.toNat < 0x7F then [c]
  else if isHidden c then pointChars c.toNat
  else [c]

/- A text in quotes. -/
def encode (s : String) : String :=
  String.ofList ('"' :: (s.toList.flatMap escape ++ ['"']))

end Quoted

end LightningGateway.Text
