import LightningGateway.Json.Tree

/-
  JSON values, their text, and their reading from a tree.

  A value is what a tree means: numerals are numbers, every
  text could be read, and an object has its members in the
  order of their names, the last of several members with one
  name counting.  A tree nested too deeply has no value.

  A value that is written keeps the order of its members, so
  the writer also serves records with a fixed order of fields.

  Key definitions include:
    * `Value`
    * `Value.render`
    * `Tree.value?`
    * `Value.parse?`
-/

namespace LightningGateway.Json

open Decimal

------------------------------------------------------------
-- Values
------------------------------------------------------------

/- A JSON value. -/
inductive Value where
  | null
  | bool (b : Bool)
  | int (n : Int)
  | real (x : Double)
  | text (s : String)
  | list (items : List Value)
  | object (members : List (String × Value))
  deriving Repr

namespace Value

/- The text, or null in its place. -/
def ofText? : Option String → Value
  | none => .null
  | some s => .text s

/- The number, or null in its place. -/
def ofInt? : Option Int → Value
  | none => .null
  | some n => .int n

------------------------------------------------------------
-- Writing
------------------------------------------------------------

/-
  A character inside a quoted text.  The quote, the backslash
  and the control characters are escaped.
-/
def escapeChar (c : Char) : List Char :=
  if c = '"' then ['\\', '"']
  else if c = '\\' then ['\\', '\\']
  else if c = '\x08' then ['\\', 'b']
  else if c = '\t' then ['\\', 't']
  else if c = '\n' then ['\\', 'n']
  else if c = '\x0c' then ['\\', 'f']
  else if c = '\r' then ['\\', 'r']
  else if c.toNat < 0x20 then
    ['\\', 'u', '0', '0', Text.Hex.digit (c.toNat / 16),
      Text.Hex.digit (c.toNat % 16)]
  else [c]

/- A quoted text. -/
def quote (s : String) : List Char :=
  '"' :: (s.toList.flatMap escapeChar ++ ['"'])

/- The decimal digits of an integer, with its sign. -/
def intChars (n : Int) : List Char :=
  if n < 0 then '-' :: Nat.toDigits 10 n.natAbs
  else Nat.toDigits 10 n.natAbs

mutual

/- The text of a value, without blanks. -/
def chars : Value → List Char
  | .null => ['n', 'u', 'l', 'l']
  | .bool true => ['t', 'r', 'u', 'e']
  | .bool false => ['f', 'a', 'l', 's', 'e']
  | .int n => intChars n
  | .real x => Real.chars x
  | .text s => quote s
  | .list items => '[' :: (itemsChars items ++ [']'])
  | .object members =>
      '\x7b' :: (membersChars members ++ ['\x7d'])

/- The items of a list, with commas between them. -/
def itemsChars : List Value → List Char
  | [] => []
  | [v] => chars v
  | v :: rest => chars v ++ ',' :: itemsChars rest

/- The members of an object, with commas between them. -/
def membersChars : List (String × Value) → List Char
  | [] => []
  | [(k, v)] => quote k ++ ':' :: chars v
  | (k, v) :: rest =>
      quote k ++ ':' :: (chars v ++ ',' :: membersChars rest)

end

/- The text of a value, without blanks. -/
def render (v : Value) : String :=
  String.ofList v.chars

------------------------------------------------------------
-- Members
------------------------------------------------------------

/-
  Members with one more, in the order of their names; a member
  with the same name is replaced.
-/
def putMember
    (name : String)
    (v : Value) :
    List (String × Value) → List (String × Value)
  | [] => [(name, v)]
  | (k, w) :: rest =>
      if name = k then (k, v) :: rest
      else if name < k then (name, v) :: (k, w) :: rest
      else (k, w) :: putMember name v rest

/- Members in the order of their names, the last of each name. -/
def sortMembers
    (members : List (String × Value)) :
    List (String × Value) :=
  members.foldl (fun done m => putMember m.1 m.2 done) []

/- The member of an object with a given name. -/
def member?
    (v : Value)
    (name : String) : Option Value :=
  match v with
  | .object members => members.lookup name
  | _ => none

end Value

------------------------------------------------------------
-- Reading
------------------------------------------------------------

namespace Numeral

/- The number that a numeral stands for, if it is in range. -/
def value? (n : Numeral) : Option Value :=
  match n.integer? with
  | some i => some (.int i)
  | none => n.real?.map .real

end Numeral

namespace Tree

/- How deeply the lists and objects of a value may be nested. -/
def deepest : Nat := 127

mutual

/- The value of a tree nested at most `depth` deep. -/
def valueWithin? (depth : Nat) : Tree → Option Value
  | .null => some .null
  | .bool b => some (.bool b)
  | .number n => n.value?
  | .text t => t.map .text
  | .list items =>
      match depth with
      | 0 => none
      | depth + 1 =>
          (valuesWithin? depth items).map .list
  | .object members =>
      match depth with
      | 0 => none
      | depth + 1 =>
          (membersWithin? depth members).map fun ms =>
            .object (Value.sortMembers ms)

/- The values of the items of a list. -/
def valuesWithin?
    (depth : Nat) : List Tree → Option (List Value)
  | [] => some []
  | t :: rest =>
      match valueWithin? depth t, valuesWithin? depth rest with
      | some v, some vs => some (v :: vs)
      | _, _ => none

/- The values of the members of an object. -/
def membersWithin?
    (depth : Nat) :
    List (Option String × Tree) →
    Option (List (String × Value))
  | [] => some []
  | (k, t) :: rest =>
      match k, valueWithin? depth t,
          membersWithin? depth rest with
      | some k, some v, some ms => some ((k, v) :: ms)
      | _, _, _ => none

end

/- The value of a tree. -/
def value? (t : Tree) : Option Value :=
  valueWithin? deepest t

end Tree

/- The value of a JSON text. -/
def Value.parse? (s : String) : Option Value :=
  (Tree.parse? s).bind Tree.value?

end LightningGateway.Json
