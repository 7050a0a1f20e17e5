/-
  The values of TOML documents.

  A document is a table: entries in the order in which their
  names were first met.  Reading settings never asks for more
  than the kind of a real number or of a point in time, so the
  first is kept as it is spelled.

  Key definitions include:
    * `Moment`
    * `Value`
    * `Table`
-/

namespace LightningGateway.Toml

------------------------------------------------------------
-- Points in Time
------------------------------------------------------------

/- A day of the calendar. -/
structure Date where
  year : Nat
  month : Nat
  day : Nat
  deriving DecidableEq, Repr

/- A time of day; the fraction of the second by its digits. -/
structure Clock where
  hour : Nat
  minute : Nat
  second : Nat
  fraction : List Char
  deriving DecidableEq, Repr

/-
  A day, a time of day, or both, in which case the minutes
  ahead of universal time may be given.
-/
inductive Moment where
  | date (d : Date)
  | clock (c : Clock)
  | both (d : Date) (c : Clock) (offset : Option Int)
  deriving DecidableEq, Repr

------------------------------------------------------------
-- Values
------------------------------------------------------------

/- A value. -/
inductive Value where
  | text (s : String)
  | int (n : Int)
  | real (spelling : List Char)
  | bool (b : Bool)
  | moment (m : Moment)
  | list (items : List Value)
  | table (entries : List (String × Value))
  deriving Repr

/- Named values. -/
abbrev Table := List (String × Value)

namespace Value

/- The text, if it is one. -/
def text? : Value → Option String
  | .text s => some s
  | _ => none

/- The integer, if it is one. -/
def int? : Value → Option Int
  | .int n => some n
  | _ => none

/- Whether a value is a list or a table without content. -/
def isHollow : Value → Bool
  | .list items => items.isEmpty
  | .table entries => entries.isEmpty
  | _ => false

end Value

end LightningGateway.Toml
