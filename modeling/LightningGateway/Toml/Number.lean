import LightningGateway.Decimal.Double
import LightningGateway.Text.Hex
import LightningGateway.Toml.Value

/-
  Numbers in TOML documents.

  An integer has 64 bits, one of them for the sign, and no
  leading zeros; without a sign it may be hexadecimal, octal or
  binary.  A real number has a fraction, an exponent or both,
  or is `inf` or `nan`; one too large for a double is refused,
  unless it is negative.  Single underscores may stand between
  two digits.

  Key definitions include:
    * `run?`
    * `Numeral`
    * `Numeral.value?`
    * `number?`
-/

namespace LightningGateway.Toml

------------------------------------------------------------
-- Digits
------------------------------------------------------------

/- Digits with single underscores between them, and the rest. -/
def run
    (isDigit : Char → Bool) :
    List Char → List Char × List Char
  | [] => ([], [])
  | c :: rest =>
      if isDigit c then
        let (ds, rest) := run isDigit rest
        (c :: ds, rest)
      else if c = '_' ∧ (rest.head?.map isDigit) = some true then
        run isDigit rest
      else ([], c :: rest)

/- At least one digit, with underscores between digits. -/
def run?
    (isDigit : Char → Bool)
    (cs : List Char) : Option (List Char × List Char) :=
  match cs with
  | c :: _ => if isDigit c then some (run isDigit cs) else none
  | [] => none

/- The number that digits spell in a base. -/
def ofDigits
    (base : Nat)
    (digits : List Char) : Nat :=
  digits.foldl
    (fun n c => base * n + (Text.Hex.value? c).getD 0) 0

/- Whether a character is a digit in a base of at most sixteen. -/
def isDigitIn
    (base : Nat)
    (c : Char) : Bool :=
  match Text.Hex.value? c with
  | some v => v < base
  | none => false

------------------------------------------------------------
-- Decimal Numbers
------------------------------------------------------------

/- A sign, which may be left out. -/
def sign
    (cs : List Char) : Option Bool × List Char :=
  match cs with
  | '+' :: rest => (some false, rest)
  | '-' :: rest => (some true, rest)
  | _ => (none, cs)

/- The bound of integers of 64 bits with a sign. -/
def integerLimit : Nat := 9223372036854775808

/- A decimal number as it is spelled. -/
structure Numeral where
  negative : Bool
  whole : List Char
  fraction : Option (List Char)
  exponent : Option (Bool × List Char)
  deriving DecidableEq, Repr

namespace Numeral

/- Digits without a leading zero. -/
def whole?
    (cs : List Char) : Option (List Char × List Char) :=
  match cs with
  | '0' :: rest => some (['0'], rest)
  | _ => run? Char.isDigit cs

/- The digits of a fraction, if there is one. -/
def fractionOf
    (cs : List Char) : Option (List Char) × List Char :=
  match cs with
  | '.' :: rest =>
      match run? Char.isDigit rest with
      | some (ds, rest) => (some ds, rest)
      | none => (none, cs)
  | _ => (none, cs)

/- The sign and the digits of an exponent, if there is one. -/
def exponentOf
    (cs : List Char) :
    Option (Bool × List Char) × List Char :=
  match cs with
  | e :: rest =>
      if e = 'e' ∨ e = 'E' then
        let (s, rest) := sign rest
        match run? Char.isDigit rest with
        | some (ds, rest) => (some (s.getD false, ds), rest)
        | none => (none, cs)
      else (none, cs)
  | [] => (none, [])

/- Read a number, whose sign was read before. -/
def read?
    (negative : Bool)
    (cs : List Char) : Option (Numeral × List Char) := do
  let (whole, cs) ← whole? cs
  let (fraction, cs) := fractionOf cs
  let (exponent, cs) := exponentOf cs
  some (⟨negative, whole, fraction, exponent⟩, cs)

/- All digits in front of the exponent. -/
def digits (n : Numeral) : List Char :=
  n.whole ++ n.fraction.getD []

/- The power of ten by which the digits are scaled. -/
def scale (n : Numeral) : Int :=
  let shift : Int :=
    match n.exponent with
    | none => 0
    | some (true, ds) => -(ofDigits 10 ds : Int)
    | some (false, ds) => ofDigits 10 ds
  shift - ((n.fraction.getD []).length : Int)

/- A number of more whole digits than this is too large. -/
def mostPlaces : Int := 310

/- A number of at most this many whole digits is not. -/
def safePlaces : Int := 300

/- Whether the magnitude is too large for a double. -/
def isHuge (n : Numeral) : Bool :=
  let m := ofDigits 10 n.digits
  let places : Int :=
    ((Nat.toDigits 10 m).length : Int) + n.scale
  if m = 0 ∨ places ≤ safePlaces then false
  else if places > mostPlaces then true
  else
    let up := Nat.pow 10 n.scale.toNat
    let down := Nat.pow 10 (-n.scale).toNat
    (Decimal.Double.nearest? false (m * up) down).isNone

/- The value of a number, read from a spelling. -/
def value?
    (n : Numeral)
    (spelling : List Char) : Option Value :=
  if n.fraction.isNone && n.exponent.isNone then
    let m := ofDigits 10 n.whole
    if n.negative then
      if m ≤ integerLimit then some (.int (-(m : Int))) else none
    else if m < integerLimit then some (.int m)
    else none
  else if !n.negative && n.isHuge then none
  else some (.real spelling)

end Numeral

------------------------------------------------------------
-- Numbers
------------------------------------------------------------

/- A positive integer in a base other than ten. -/
def based?
    (base : Nat)
    (cs : List Char) : Option (Value × List Char) :=
  match run? (isDigitIn base) cs with
  | none => none
  | some (ds, rest) =>
      let n := ofDigits base ds
      if n < integerLimit then some (.int n, rest) else none

/- The characters of a text in front of a rest of it. -/
def before (cs rest : List Char) : List Char :=
  cs.take (cs.length - rest.length)

/- A decimal number, infinity or no number at all. -/
def decimal?
    (cs : List Char) : Option (Value × List Char) :=
  let (s, body) := sign cs
  match body with
  | 'i' :: 'n' :: 'f' :: rest =>
      some (.real (before cs rest), rest)
  | 'n' :: 'a' :: 'n' :: rest =>
      some (.real (before cs rest), rest)
  | _ =>
      match Numeral.read? (s.getD false) body with
      | none => none
      | some (n, rest) =>
          (n.value? (before cs rest)).map (·, rest)

/- Read a number. -/
def number?
    (cs : List Char) : Option (Value × List Char) :=
  match cs with
  | '0' :: 'x' :: rest => based? 16 rest
  | '0' :: 'o' :: rest => based? 8 rest
  | '0' :: 'b' :: rest => based? 2 rest
  | _ => decimal? cs

end LightningGateway.Toml
