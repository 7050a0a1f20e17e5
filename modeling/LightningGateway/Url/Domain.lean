import LightningGateway.Url.Domain.Label

/-
  Domains.

  A domain is a list of labels with points between them.  It is
  brought into the form in which domains are compared, and then
  written in ASCII.

  Key definitions include:
    * `Domain.toAscii?`
-/

namespace LightningGateway.Url

namespace Domain

/- The characters that no host may contain. -/
def isForbiddenInHost (c : Char) : Bool :=
  c == '\x00' || c == '\t' || c == '\n' || c == '\r' ||
    c == ' ' || c == '#' || c == '/' || c == ':' || c == '<' ||
    c == '>' || c == '?' || c == '@' || c == '[' ||
    c == '\\' || c == ']' || c == '^' || c == '|'

/- The ASCII characters that no domain may contain. -/
def isForbidden (c : Char) : Bool :=
  isForbiddenInHost c || c.toNat < 0x20 || c == '%' ||
    c.toNat == 0x60 || c == '\x7b' || c == '\x7d' ||
    c.toNat == 0x7F

/- What stands between labels. -/
def point : Char := '.'

/- Whether a label that is read may hold a character. -/
def mayHold (c : Char) : Bool :=
  !isForbidden c && c != point

/- The labels of some texts, if all of them have one. -/
def labels? : List (List Char) → Option (List Label)
  | [] => some []
  | cs :: rest =>
      match Label.of? mayHold cs, labels? rest with
      | some l, some ls => some (l :: ls)
      | _, _ => none

/- Whether labels can be told apart by a reader. -/
def directionsOk (ls : List Label) : Bool :=
  !(ls.any fun l => Label.hasLeftward l.shown) ||
    ls.all fun l => Label.readsOneWay l.shown

/- Labels in ASCII, with points between them. -/
def write : List Label → List Char
  | [] => []
  | [l] => l.written
  | l :: rest => l.written ++ point :: write rest

/- The ASCII form of a domain, if it has one. -/
def toAscii? (cs : List Char) : Option (List Char) :=
  match Mapping.ofAll? cs with
  | none => none
  | some cs =>
      let cs := Normal.form cs
      if cs.any isForbidden then none
      else
        match labels? (Text.splitAll (· == point) cs) with
        | some ls =>
            if directionsOk ls then some (write ls) else none
        | none => none

end Domain

end LightningGateway.Url
