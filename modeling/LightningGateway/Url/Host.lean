import LightningGateway.Url.Domain
import LightningGateway.Url.Percent

/-
  The hosts of URLs.

  The host of a special scheme is a domain or an address.  A
  domain is written in lower case ASCII; one whose last label
  is a number is an address of 32 bits.  The host of any other
  scheme is kept as it is written.

  Key definitions include:
    * `UrlError`
    * `Host`
    * `Host.ofText`
    * `Host.ofOpaque`
    * `Host.chars`
-/

namespace LightningGateway.Url

------------------------------------------------------------
-- Errors
------------------------------------------------------------

/- Why a text is no URL. -/
inductive UrlError where
  | noScheme
  | emptyHost
  | badDomain
  | badDomainCharacter
  | badAddress4
  | badAddress6
  | badPort
  deriving DecidableEq, Repr

/- The wording of an error. -/
def UrlError.message : UrlError → String
  | .noScheme => "relative URL without a base"
  | .emptyHost => "empty host"
  | .badDomain => "invalid international domain name"
  | .badDomainCharacter => "invalid domain character"
  | .badAddress4 => "invalid IPv4 address"
  | .badAddress6 => "invalid IPv6 address"
  | .badPort => "invalid port number"

/- A host. -/
inductive Host where
  | domain (cs : List Char)
  | address4 (n : Nat)
  | address6 (words : List Nat)
  deriving DecidableEq, Repr

------------------------------------------------------------
-- Addresses of 32 Bits
------------------------------------------------------------

namespace Address4

/- The number that digits of a base spell, if all are valid. -/
def digits? (base : Nat) : Nat → List Char → Option Nat
  | n, [] => some n
  | n, c :: rest =>
      match Text.Hex.value? c with
      | some d =>
          if d < base then digits? base (n * base + d) rest
          else none
      | none => none

/- A number: hexadecimal after `0x`, octal after `0`, or decimal. -/
def number? : List Char → Option Nat
  | [] => none
  | '0' :: 'x' :: rest => digits? 16 0 rest
  | '0' :: 'X' :: rest => digits? 16 0 rest
  | '0' :: c :: rest => digits? 8 0 (c :: rest)
  | cs => digits? 10 0 cs

/- The labels of a domain, without an empty last one. -/
def labels (cs : List Char) : List (List Char) :=
  let parts := Text.splitAll (· == '.') cs
  if parts.getLast? = some [] then parts.dropLast else parts

/- Whether the last label of a domain is a number. -/
def endsInNumber (cs : List Char) : Bool :=
  match (labels cs).getLast? with
  | none => false
  | some last =>
      (!last.isEmpty && last.all Char.isDigit) ||
        (number? last).isSome

/- The numbers of all labels. -/
def numbers? : List (List Char) → Option (List Nat)
  | [] => some []
  | l :: rest =>
      match number? l, numbers? rest with
      | some n, some ns => some (n :: ns)
      | _, _ => none

/-
  The address of a list of numbers: the last one fills all the
  bytes that the others leave.
-/
def ofNumbers? (ns : List Nat) : Option Nat :=
  match ns.reverse with
  | [] => none
  | last :: front =>
      let front := front.reverse
      if front.length ≤ 3 ∧ front.all (· ≤ 255) ∧
          last < Nat.pow 256 (4 - front.length) then
        let high := front.foldl (fun n b => n * 256 + b) 0
        some (high * Nat.pow 256 (4 - front.length) + last)
      else none

/- The address that a domain spells. -/
def ofChars? (cs : List Char) : Option Nat :=
  let parts := labels cs
  if parts.length ≤ 4 then
    (numbers? parts).bind ofNumbers?
  else none

/- The four bytes of an address, with points between them. -/
def chars (n : Nat) : List Char :=
  let byte (k : Nat) : List Char :=
    Nat.toDigits 10 (n / Nat.pow 256 k % 256)
  byte 3 ++ '.' :: (byte 2 ++ '.' :: (byte 1 ++ '.' :: byte 0))

end Address4

------------------------------------------------------------
-- Addresses of 128 Bits
------------------------------------------------------------

namespace Address6

/- A group: one to four hexadecimal digits. -/
def group? (cs : List Char) : Option Nat :=
  if cs.isEmpty ∨ 4 < cs.length then none
  else Address4.digits? 16 0 cs

/- A byte in decimal, without a needless zero in front. -/
def byte? (cs : List Char) : Option Nat :=
  if cs.isEmpty ∨ (1 < cs.length ∧ cs.head? = some '0') then
    none
  else
    match Address4.digits? 10 0 cs with
    | some n => if n ≤ 255 then some n else none
    | none => none

/- Two groups written as four bytes in decimal. -/
def dotted? (cs : List Char) : Option (List Nat) :=
  match (Text.splitAll (· == '.') cs).map byte? with
  | [some a, some b, some c, some d] =>
      some [256 * a + b, 256 * c + d]
  | _ => none

/- The groups of a list of pieces; the last may be dotted. -/
def groups?
    (mayDot : Bool) : List (List Char) → Option (List Nat)
  | [] => some []
  | [p] =>
      if mayDot && p.contains '.' then dotted? p
      else (group? p).map ([·])
  | p :: rest =>
      match group? p, groups? mayDot rest with
      | some n, some ns => some (n :: ns)
      | _, _ => none

/- The pieces of one side of a gap. -/
def pieces (cs : List Char) : List (List Char) :=
  if cs.isEmpty then [] else Text.splitAll (· == ':') cs

/- Split at the first double colon. -/
def gap? : List Char → Option (List Char × List Char)
  | ':' :: ':' :: rest => some ([], rest)
  | c :: rest =>
      (gap? rest).map fun sides => (c :: sides.1, sides.2)
  | [] => none

/- The eight groups of an address. -/
def ofChars? (cs : List Char) : Option (List Nat) :=
  match gap? cs with
  | none =>
      match groups? true (pieces cs) with
      | some ws => if ws.length = 8 then some ws else none
      | none => none
  | some (left, right) =>
      match groups? false (pieces left),
          groups? true (pieces right) with
      | some l, some r =>
          if l.length + r.length ≤ 7 then
            some (l ++
              List.replicate (8 - l.length - r.length) 0 ++ r)
          else none
      | _, _ => none

/- The number of leading zeros. -/
def zeros (ws : List Nat) : Nat :=
  (ws.takeWhile (· == 0)).length

/- The first place where the most zeros stand, and how many. -/
def longest : Nat → List Nat → Nat × Nat
  | _, [] => (0, 0)
  | i, w :: ws =>
      let here := zeros (w :: ws)
      let later := longest (i + 1) ws
      if later.2 ≤ here then (i, here) else later

/- A group in hexadecimal. -/
def groupChars (w : Nat) : List Char :=
  Nat.toDigits 16 w

/- Groups with colons between them. -/
def join : List Nat → List Char
  | [] => []
  | [w] => groupChars w
  | w :: ws => groupChars w ++ ':' :: join ws

/- An address; the most zeros in a row are left out. -/
def chars (ws : List Nat) : List Char :=
  let (i, n) := longest 0 ws
  if n < 2 then join ws
  else join (ws.take i) ++ ':' :: ':' :: join (ws.drop (i + n))

end Address6

------------------------------------------------------------
-- Hosts
------------------------------------------------------------

namespace Host

/- An address in square brackets. -/
def ofBracketed (cs : List Char) : Except UrlError Host :=
  if cs.getLast? = some ']' then
    match Address6.ofChars? cs.dropLast with
    | some ws => .ok (.address6 ws)
    | none => .error .badAddress6
  else .error .badAddress6

/- The host of a domain in ASCII. -/
def ofAscii (cs : List Char) : Except UrlError Host :=
  if cs.isEmpty then .error .emptyHost
  else if Address4.endsInNumber cs then
    match Address4.ofChars? cs with
    | some n => .ok (.address4 n)
    | none => .error .badAddress4
  else .ok (.domain cs)

/- The host of a special scheme. -/
def ofText (cs : List Char) : Except UrlError Host :=
  match cs with
  | '[' :: rest => ofBracketed rest
  | cs =>
      match Text.Utf8.decode? (Percent.decode cs) with
      | .error _ => .error .badDomain
      | .ok s =>
          match Domain.toAscii? s.toList with
          | none => .error .badDomain
          | some cs => ofAscii cs

/- The host of any other scheme; it may be empty. -/
def ofOpaque (cs : List Char) : Except UrlError Host :=
  match cs with
  | '[' :: rest => ofBracketed rest
  | cs =>
      if cs.any Domain.isForbiddenInHost then
        .error .badDomainCharacter
      else .ok (.domain (Percent.encode Percent.isControl cs))

/- The text of a host. -/
def chars : Host → List Char
  | .domain cs => cs
  | .address4 n => Address4.chars n
  | .address6 ws => '[' :: (Address6.chars ws ++ [']'])

end Host

end LightningGateway.Url
