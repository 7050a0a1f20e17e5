import LightningGateway.Bolt11.Error

/-
  The readable part of an invoice: a currency and perhaps an
  amount.

  An amount is a number and perhaps a letter for a fraction of
  a coin.  It is counted in units of 10^-12 coins, in words of
  64 bits.

  Key definitions include:
    * `Head`
    * `Head.parse`
    * `Head.chars`
    * `Head.pico?`
-/

namespace LightningGateway.Bolt11

------------------------------------------------------------
-- Parts
------------------------------------------------------------

/- The networks that an invoice can be for. -/
inductive Currency where
  | bitcoin
  | testnet
  | regtest
  | simnet
  | signet
  deriving DecidableEq, Repr

namespace Currency

/- The code of a currency. -/
def code : Currency → String
  | .bitcoin => "bc"
  | .testnet => "tb"
  | .regtest => "bcrt"
  | .simnet => "sb"
  | .signet => "tbs"

/- All currencies. -/
def all : List Currency :=
  [.bitcoin, .testnet, .regtest, .simnet, .signet]

/- The currency of a code. -/
def ofCode? (cs : List Char) : Option Currency :=
  all.find? fun c => c.code == String.ofList cs

/- Every code is that of one currency. -/
theorem ofCode?_code (c : Currency) :
    ofCode? c.code.toList = some c := by
  cases c <;> decide

end Currency

/- The fractions of a coin that an amount can be given in. -/
inductive Fraction where
  | milli
  | micro
  | nano
  | pico
  deriving DecidableEq, Repr

namespace Fraction

/- The letter of a fraction. -/
def letter : Fraction → Char
  | .milli => 'm'
  | .micro => 'u'
  | .nano => 'n'
  | .pico => 'p'

/- The fraction of a letter. -/
def ofLetter? (c : Char) : Option Fraction :=
  match c with
  | 'm' => some .milli
  | 'u' => some .micro
  | 'n' => some .nano
  | 'p' => some .pico
  | _ => none

/- Every letter is that of one fraction. -/
theorem ofLetter?_letter (f : Fraction) :
    ofLetter? f.letter = some f := by
  cases f <;> rfl

/- The number of units in a fraction. -/
def units : Fraction → Nat
  | .milli => 1000000000
  | .micro => 1000000
  | .nano => 1000
  | .pico => 1

end Fraction

/- The number of units in a coin. -/
def perCoin : Nat := 1000000000000

/- The first number that a word of 64 bits cannot hold. -/
def wordLimit : Nat := 18446744073709551616

/- A currency and an amount, of whole coins or of a fraction. -/
structure Head where
  currency : Currency
  amount : Option Nat
  fraction : Option Fraction
  deriving DecidableEq, Repr

------------------------------------------------------------
-- Reading
------------------------------------------------------------

namespace Head

/- The number of a list of digits. -/
def ofDigits (cs : List Char) : Nat :=
  cs.foldl (fun n c => 10 * n + (c.toNat - 48)) 0

/- The fraction of what follows an amount. -/
def readFraction :
    List Char → Except InvoiceError (Option Fraction)
  | [] => .ok none
  | c :: rest =>
      match Fraction.ofLetter? c with
      | none => .error .unknownUnit
      | some f =>
          if rest.isEmpty then .ok (some f)
          else .error .malformedPart

/- The amount of a list of digits, if there are any. -/
def amountOf
    (digits : List Char) : Except InvoiceError (Option Nat) :=
  if digits.isEmpty then .ok none
  else
    let n := ofDigits digits
    if n < wordLimit then .ok (some n) else .error .hugeAmount

/- Read what follows the letters `ln`. -/
def parseRest
    (cs : List Char) : Except InvoiceError Head := do
  if cs.isEmpty then throw .malformedPart
  let code := cs.takeWhile fun c => !c.isDigit
  let rest := cs.dropWhile fun c => !c.isDigit
  let digits := rest.takeWhile Char.isDigit
  let fraction ← readFraction (rest.dropWhile Char.isDigit)
  match Currency.ofCode? code with
  | none => throw .unknownCurrency
  | some currency =>
      let amount ← amountOf digits
      match amount, fraction with
      | some a, some f =>
          if a * f.units < wordLimit then
            return ⟨currency, amount, fraction⟩
          else throw .integerOverflow
      | _, _ => return ⟨currency, amount, fraction⟩

/- Read a readable part in lower case. -/
def parse : List Char → Except InvoiceError Head
  | 'l' :: 'n' :: rest => parseRest rest
  | _ => .error .malformedPart

------------------------------------------------------------
-- Views
------------------------------------------------------------

/- The readable part; the amount has no needless zeros. -/
def chars (h : Head) : List Char :=
  ['l', 'n'] ++ h.currency.code.toList ++
    (h.amount.map (Nat.toDigits 10)).getD [] ++
    (h.fraction.map Fraction.letter).toList

/-
  The amount in units of 10^-12 coins.  A number of whole coins
  too large for a word names no amount.
-/
def pico? (h : Head) : Option Nat :=
  h.amount.bind fun a =>
    let units := a * (h.fraction.map Fraction.units).getD perCoin
    if units < wordLimit then some units else none

end Head

end LightningGateway.Bolt11
