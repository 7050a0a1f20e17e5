import LightningGateway.Text.Hex
import LightningGateway.Text.Pieces

/-
  Tables of numbers in text.

  A line holds rows with blanks between them; a row is a list
  of hexadecimal numbers with colons between them, of which the
  first one is its key.

  Key definitions include:
    * `Table.rows`
    * `Table.find?`
-/

namespace LightningGateway.Text

namespace Table

/- The number that hexadecimal digits spell. -/
def number (cs : List Char) : Nat :=
  cs.foldl (fun n c => 16 * n + (Hex.value? c).getD 0) 0

/- The numbers of a row. -/
def row (cs : List Char) : List Nat :=
  (splitAll (· == ':') cs).map number

/- The rows of a line. -/
def rowsOfLine (line : String) : List (List Nat) :=
  (splitAll (· == ' ') line.toList).map row

/- The rows of some lines. -/
def rows (lines : List String) : List (List Nat) :=
  lines.flatMap rowsOfLine

/- What follows a key in the first row that has it. -/
def find?
    (key : Nat)
    (rows : List (List Nat)) : Option (List Nat) :=
  (rows.find? fun r => r.head? == some key).map List.tail

end Table

end LightningGateway.Text
