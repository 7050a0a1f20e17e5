import LightningGateway.Json.Value

/-
  Records read from JSON trees.

  A record has a fixed list of field names.  It is written as
  an object, in which other members are skipped whatever they
  hold and a field given twice is refused, or as a list with
  exactly one item for each field.

  A tagged record is one of several kinds, told apart by the
  text of one member, or by the first item of the list form.
  Since the tag may come last, all of it has to be readable as
  a value.

  Key definitions include:
    * `Record`
    * `Tree.record?`
    * `Tree.tagged?`
    * `Record.optional?`
    * `Record.required?`
-/

namespace LightningGateway.Json

/- The fields that were given, by name. -/
abbrev Record := List (String × Tree)

namespace Tree

------------------------------------------------------------
-- Scalars
------------------------------------------------------------

/- A text that can be read. -/
def text? : Tree → Option String
  | .text t => t
  | _ => none

/- A truth value. -/
def bool? : Tree → Option Bool
  | .bool b => some b
  | _ => none

/- An integer of at most 64 bits, signed or not. -/
def int? : Tree → Option Int
  | .number n => n.integer?
  | _ => none

/- Whether a tree is null. -/
def isNull : Tree → Bool
  | .null => true
  | _ => false

------------------------------------------------------------
-- Records
------------------------------------------------------------

/-
  The members with one of the names; a name that cannot be read
  or comes twice is refused.
-/
def known?
    (names : List String) :
    List (Option String × Tree) → Option Record
  | [] => some []
  | (none, _) :: _ => none
  | (some k, t) :: rest =>
      match known? names rest with
      | none => none
      | some r =>
          if names.contains k then
            if r.any (·.1 == k) then none
            else some ((k, t) :: r)
          else some r

/- The record with the given fields. -/
def record?
    (names : List String) : Tree → Option Record
  | .object members => known? names members
  | .list items =>
      if items.length = names.length then
        some (names.zip items)
      else none
  | _ => none

/-
  The tag of a record and what is left to read its fields
  from.
-/
def tagged?
    (tag : String)
    (t : Tree) : Option (String × Tree) :=
  if t.value?.isNone then none
  else
    match t with
    | .object members =>
        match members.filter (·.1 == some tag) with
        | [(_, t)] => do
            let name ← t.text?
            some (name,
              .object (members.filter (·.1 != some tag)))
        | _ => none
    | .list (t :: rest) => do
        let name ← t.text?
        some (name, .list rest)
    | _ => none

end Tree

namespace Record

------------------------------------------------------------
-- Fields
------------------------------------------------------------

/- A field that has to be given. -/
def required?
    {α : Type}
    (read? : Tree → Option α)
    (name : String)
    (r : Record) : Option α :=
  (r.lookup name).bind read?

/- A field that may be absent or null. -/
def optional?
    {α : Type}
    (read? : Tree → Option α)
    (name : String)
    (r : Record) : Option (Option α) :=
  match r.lookup name with
  | none => some none
  | some t =>
      if t.isNull then some none
      else (read? t).map some

end Record

end LightningGateway.Json
