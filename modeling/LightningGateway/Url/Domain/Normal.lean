import LightningGateway.Url.Domain.Composition

/-
  The normal form of the characters of domains.

  A character and the marks on it can be written in several
  ways.  In the normal form as much as possible is composed,
  and marks that do not touch each other are in the order of
  their classes.

  Key definitions include:
    * `Normal.form`
    * `Normal.isNormal`
-/

namespace LightningGateway.Url

namespace Normal

open LightningGateway.Url.Composition

------------------------------------------------------------
-- Parts
------------------------------------------------------------

/- How often a character can be taken apart at most. -/
def depth : Nat := 3

/- The parts of a character that cannot be taken apart. -/
def partsOf : Nat → Nat → List Nat
  | 0, n => [n]
  | d + 1, n =>
      match parts? n with
      | some (a, b) => partsOf d a ++ [b]
      | none => [n]

/- Put a character in front, behind the marks of lower classes. -/
def place (n : Nat) : List Nat → List Nat
  | [] => [n]
  | m :: rest =>
      if 0 < classOf m ∧ classOf m < classOf n then
        m :: place n rest
      else n :: m :: rest

/- The parts of some characters, with their marks in order. -/
def takeApart (ns : List Nat) : List Nat :=
  (ns.flatMap (partsOf depth)).foldr place []

------------------------------------------------------------
-- Composition
------------------------------------------------------------

/- Whether marks in front of a character keep it from another. -/
def isBlocked
    (between : List Nat)
    (n : Nat) : Bool :=
  match between.getLast? with
  | some m => classOf n ≤ classOf m
  | none => false

/-
  Compose a character with what follows.  The marks that stand
  between could not be composed with it.
-/
def composeFrom
    (n : Nat)
    (between : List Nat) : List Nat → List Nat
  | [] => n :: between
  | m :: rest =>
      match
        if isBlocked between m then none else whole? n m with
      | some w => composeFrom w between rest
      | none =>
          if classOf m = 0 then
            n :: (between ++ composeFrom m [] rest)
          else composeFrom n (between ++ [m]) rest

/- Compose as much as possible. -/
def compose : List Nat → List Nat
  | [] => []
  | n :: rest =>
      if classOf n = 0 then composeFrom n [] rest
      else n :: compose rest

------------------------------------------------------------
-- Texts
------------------------------------------------------------

/- Whether all characters are ASCII. -/
def isPlain (cs : List Char) : Bool :=
  cs.all fun c => c.toNat < 0x80

/- The normal form of a text. -/
def form (cs : List Char) : List Char :=
  if isPlain cs then cs
  else
    (compose (takeApart (cs.map Char.toNat))).map Char.ofNat

/- Whether a text is in its normal form. -/
def isNormal (cs : List Char) : Bool :=
  form cs == cs

end Normal

end LightningGateway.Url
