import LightningGateway.Url.Domain.Direction
import LightningGateway.Url.Domain.Joining
import LightningGateway.Url.Domain.Mapping
import LightningGateway.Url.Domain.Normal
import LightningGateway.Url.Punycode

/-
  The labels of domains.

  A label outside ASCII has a form in ASCII, which begins with
  a mark.  A label is read in either form.  It may not begin
  with a combining mark, and characters without width that
  join letters may only stand where they make a difference.

  In a domain with letters that are read to the left, every
  label is read in one direction.

  Key definitions include:
    * `Label`
    * `Label.of?`
    * `Label.readsOneWay`
-/

namespace LightningGateway.Url

/- A label, and how it is written in ASCII. -/
structure Label where
  shown : List Char
  written : List Char
  deriving DecidableEq, Repr

namespace Label

------------------------------------------------------------
-- Characters
------------------------------------------------------------

/- Whether a character is not ASCII. -/
def isForeign (c : Char) : Bool :=
  0x7F < c.toNat

/- What parts letters that would be joined. -/
def nonJoiner : Char := '\u200c'

/- What joins letters that would be parted. -/
def joiner : Char := '\u200d'

/- The class of the marks that join the letters around them. -/
def viramaClass : Nat := 9

/- Whether a character joins the letters around it. -/
def isVirama (c : Char) : Bool :=
  Composition.classOf c.toNat == viramaClass

/- Whether the first character that is not passed over satisfies `p`. -/
def firstSatisfies
    (p : Char → Bool) : List Char → Bool
  | [] => false
  | c :: rest =>
      p c || (Joining.isBetween c && firstSatisfies p rest)

/-
  Whether every joiner and nonjoiner has its place.  The
  characters before are given backwards.
-/
def joinersOk
    (before : List Char) : List Char → Bool
  | [] => true
  | c :: rest =>
      (if c = joiner then before.head?.any isVirama
       else if c = nonJoiner then
        before.head?.any isVirama ||
          (firstSatisfies Joining.joinsNext before &&
            firstSatisfies Joining.joinsPrevious rest)
       else true) && joinersOk (c :: before) rest

/- The number of characters that a label outside ASCII may have. -/
def longestShown : Nat := 1000

/- Whether a label outside ASCII may be used. -/
def isUsable (cs : List Char) : Bool :=
  !cs.head?.any Text.isMark && joinersOk [] cs &&
    cs.length ≤ longestShown

------------------------------------------------------------
-- Forms
------------------------------------------------------------

/- What the ASCII form of a label begins with. -/
def mark : List Char := ['x', 'n', '-', '-']

/- The number of characters after the mark that are read. -/
def longestWritten : Nat := 2000

/- Whether a label that was read can be written like that. -/
def isReadable
    (mayHold : Char → Bool)
    (cs : List Char) : Bool :=
  cs.all (fun c => Mapping.keeps c && mayHold c) &&
    Normal.isNormal cs && isUsable cs

/-
  The label of what follows the mark.  Something has to follow
  the last hyphen, as a label in ASCII needs no mark.
-/
def read?
    (mayHold : Char → Bool)
    (cs : List Char) : Option (List Char) :=
  if cs.getLast?.all (· == '-') ∨ longestWritten < cs.length then
    none
  else
    match Punycode.decode? cs with
    | some shown =>
        if isReadable mayHold shown then some shown else none
    | none => none

/-
  The label of characters in normal form, of which it may hold
  some only.
-/
def of?
    (mayHold : Char → Bool)
    (cs : List Char) : Option Label :=
  if cs.take mark.length = mark then
    if cs.any isForeign then none
    else
      (read? mayHold (cs.drop mark.length)).map fun shown =>
        ⟨shown, cs⟩
  else if cs.any isForeign then
    if isUsable cs then some ⟨cs, mark ++ Punycode.encode cs⟩
    else none
  else some ⟨cs, cs⟩

------------------------------------------------------------
-- Directions
------------------------------------------------------------

/- Whether a direction is that of what is read to the left. -/
def isLeftward : Direction → Bool
  | .leftward => true
  | .arabicLetter => true
  | .arabicDigit => true
  | _ => false

/- Whether a label holds anything that is read to the left. -/
def hasLeftward (cs : List Char) : Bool :=
  cs.any fun c => isLeftward (.of c)

/- Whether a direction may occur in a label read to the right. -/
def mayGoRight : Direction → Bool
  | .leftward => false
  | .arabicLetter => false
  | .arabicDigit => false
  | _ => true

/- Whether a direction may occur in a label read to the left. -/
def mayGoLeft : Direction → Bool
  | .rightward => false
  | _ => true

/- Whether a label read to the right may end with a direction. -/
def mayEndRight : Direction → Bool
  | .rightward => true
  | .digit => true
  | _ => false

/- Whether a label read to the left may end with a direction. -/
def mayEndLeft : Direction → Bool
  | .leftward => true
  | .arabicLetter => true
  | .digit => true
  | .arabicDigit => true
  | _ => false

/- Directions without the marks at their end, the last one first. -/
def backwards (ds : List Direction) : List Direction :=
  ds.reverse.dropWhile (· == .mark)

/- Whether the directions after the first one go to the right. -/
def goesRight (ds : List Direction) : Bool :=
  match backwards ds with
  | [] => true
  | last :: rest => mayEndRight last && rest.all mayGoRight

/-
  Whether the directions after the first one go to the left;
  the digits are of one kind.
-/
def goesLeft (ds : List Direction) : Bool :=
  match backwards ds with
  | [] => true
  | last :: rest =>
      mayEndLeft last && rest.all mayGoLeft &&
        !(ds.contains .digit && ds.contains .arabicDigit)

/- Whether a label is read in one direction. -/
def readsOneWay (cs : List Char) : Bool :=
  match cs.map Direction.of with
  | [] => true
  | .rightward :: rest => goesRight rest
  | .leftward :: rest => goesLeft rest
  | .arabicLetter :: rest => goesLeft rest
  | _ => false

end Label

end LightningGateway.Url
