import LightningGateway.Toml.Value

/-
  Dates and times in TOML documents.

  A day is written `1979-05-27`, a time of day `07:32:00` with
  an optional fraction, and both together with a `T` or a blank
  between them, after which the distance from universal time
  may stand.

  Key definitions include:
    * `Date.isValid`
    * `Date.read?`
    * `Clock.read?`
    * `Moment.read?`
-/

namespace LightningGateway.Toml

/- A number of exactly `n` digits within bounds. -/
def fixed?
    (n lo hi : Nat)
    (cs : List Char) : Option (Nat × List Char) :=
  let ds := cs.take n
  if ds.length = n ∧ ds.all Char.isDigit then
    let v := ds.foldl (fun v c => 10 * v + (c.toNat - 48)) 0
    if lo ≤ v ∧ v ≤ hi then some (v, cs.drop n) else none
  else none

/- What follows a character. -/
def after?
    (c : Char) : List Char → Option (List Char)
  | d :: rest => if d = c then some rest else none
  | [] => none

------------------------------------------------------------
-- Days
------------------------------------------------------------

namespace Date

/- Whether a year has a 29th of February. -/
def isLeap (year : Nat) : Bool :=
  year % 4 = 0 && (year % 100 ≠ 0 || year % 400 = 0)

/- The number of days of a month. -/
def daysIn (year month : Nat) : Nat :=
  if month = 2 then if isLeap year then 29 else 28
  else if month ∈ [4, 6, 9, 11] then 30
  else 31

/- Whether the month has the day. -/
def isValid (d : Date) : Bool :=
  d.day ≤ daysIn d.year d.month

/- Read a day. -/
def read?
    (cs : List Char) : Option (Date × List Char) := do
  let (year, cs) ← fixed? 4 0 9999 cs
  let cs ← after? '-' cs
  let (month, cs) ← fixed? 2 1 12 cs
  let cs ← after? '-' cs
  let (day, cs) ← fixed? 2 1 31 cs
  let d : Date := ⟨year, month, day⟩
  if d.isValid then some (d, cs) else none

end Date

------------------------------------------------------------
-- Times of Day
------------------------------------------------------------

namespace Clock

/- The digits of the fraction of a second. -/
def decimals
    (cs : List Char) : List Char × List Char :=
  match cs with
  | '.' :: d :: rest =>
      if d.isDigit then
        (d :: rest.takeWhile Char.isDigit,
          rest.dropWhile Char.isDigit)
      else ([], cs)
  | _ => ([], cs)

/- Read a time of day; a minute may have a leap second. -/
def read?
    (cs : List Char) : Option (Clock × List Char) := do
  let (hour, cs) ← fixed? 2 0 23 cs
  let cs ← after? ':' cs
  let (minute, cs) ← fixed? 2 0 59 cs
  let cs ← after? ':' cs
  let (second, cs) ← fixed? 2 0 60 cs
  let (digits, cs) := decimals cs
  some (⟨hour, minute, second, digits⟩, cs)

end Clock

------------------------------------------------------------
-- Points in Time
------------------------------------------------------------

namespace Moment

/- The minutes ahead of universal time, if given. -/
def offset
    (cs : List Char) : Option Int × List Char :=
  match cs with
  | 'Z' :: rest => (some 0, rest)
  | 'z' :: rest => (some 0, rest)
  | sign :: rest =>
      let distance : Option (Nat × List Char) := do
        let (hours, rest) ← fixed? 2 0 23 rest
        let rest ← after? ':' rest
        let (minutes, rest) ← fixed? 2 0 59 rest
        some (60 * hours + minutes, rest)
      match distance with
      | none => (none, cs)
      | some (n, rest) =>
          if sign = '+' then (some (n : Int), rest)
          else if sign = '-' then (some (-(n : Int)), rest)
          else (none, cs)
  | [] => (none, [])

/- The time of day after a day, if there is one. -/
def clockAfter?
    (cs : List Char) : Option (Clock × List Char) :=
  match cs with
  | c :: rest =>
      if c = 'T' ∨ c = 't' ∨ c = ' ' then Clock.read? rest
      else none
  | [] => none

/- Read a point in time. -/
def read?
    (cs : List Char) : Option (Moment × List Char) :=
  match Date.read? cs with
  | some (d, rest) =>
      match clockAfter? rest with
      | some (c, rest) =>
          let (o, rest) := offset rest
          some (.both d c o, rest)
      | none => some (.date d, rest)
  | none =>
      (Clock.read? cs).map fun (c, rest) => (.clock c, rest)

end Moment

end LightningGateway.Toml
