import LightningGateway.Toml.Value

/-
  Tables in the making.

  A header names the table that the entries after it belong to;
  it may be used once.  A table comes into being by its own
  header, because a longer header passes through it, or because
  a dotted key does; only a table that was passed through may
  still get a header, and only one that dotted keys have made
  may get more entries by dotted keys.  A header in double
  brackets adds an element to a list of tables, and later
  headers that pass through the list mean its last element.
  Values never change.

  Key definitions include:
    * `Node`, `Draft`
    * `Draft.change?`
    * `Draft.open?`, `Draft.openElement?`
    * `Draft.enter?`
    * `Draft.close`
-/

namespace LightningGateway.Toml

------------------------------------------------------------
-- Drafts
------------------------------------------------------------

/- How a table came into being. -/
inductive Origin where
  | header
  | passing
  | dotted
  deriving DecidableEq, Repr

/- What a name stands for; of a list, the last element first. -/
inductive Node where
  | value (v : Value)
  | table (origin : Origin) (entries : List (String × Node))
  | elements
      (last : List (String × Node))
      (earlier : List (List (String × Node)))

/- A table in the making. -/
abbrev Draft := List (String × Node)

/- The way to a name: the tables it passes through, then the name. -/
structure Path where
  through : List String
  name : String
  deriving DecidableEq, Repr

/- All names of a path. -/
def Path.names (p : Path) : List String :=
  p.through ++ [p.name]

namespace Draft

/- Give a name its meaning, at its old place if it has one. -/
def put
    (name : String)
    (n : Node) : Draft → Draft
  | [] => [(name, n)]
  | (k, m) :: rest =>
      if k = name then (name, n) :: rest
      else (k, m) :: put name n rest

------------------------------------------------------------
-- Headers
------------------------------------------------------------

/- Change the table that names of a header lead to. -/
def change?
    (f : Draft → Option Draft) :
    List String → Draft → Option Draft
  | [], d => f d
  | k :: ks, d =>
      match d.lookup k with
      | none =>
          (change? f ks []).map fun t =>
            put k (.table .passing t) d
      | some (.value _) => none
      | some (.table o t) =>
          (change? f ks t).map fun t => put k (.table o t) d
      | some (.elements t earlier) =>
          (change? f ks t).map fun t =>
            put k (.elements t earlier) d

/- Open a table by its header. -/
def open?
    (p : Path)
    (d : Draft) : Option Draft :=
  change? (fun t =>
    match t.lookup p.name with
    | none => some (put p.name (.table .header []) t)
    | some (.table .passing entries) =>
        some (put p.name (.table .header entries) t)
    | _ => none) p.through d

/- Add an element to a list of tables. -/
def openElement?
    (p : Path)
    (d : Draft) : Option Draft :=
  change? (fun t =>
    match t.lookup p.name with
    | none => some (put p.name (.elements [] []) t)
    | some (.elements last earlier) =>
        some (put p.name (.elements [] (last :: earlier)) t)
    | _ => none) p.through d

------------------------------------------------------------
-- Entries
------------------------------------------------------------

/- Enter a value in a table, under a name that may be dotted. -/
def enterAt?
    (name : String)
    (v : Value) : List String → Draft → Option Draft
  | [], d =>
      if (d.lookup name).isSome then none
      else some (put name (.value v) d)
  | k :: ks, d =>
      match d.lookup k with
      | none =>
          (enterAt? name v ks []).map fun t =>
            put k (.table .dotted t) d
      | some (.value _) => none
      | some (.table o t) =>
          if o = .header ∨ (ks = [] ∧ o ≠ .dotted) then none
          else
            (enterAt? name v ks t).map fun t =>
              put k (.table o t) d
      | some (.elements t earlier) =>
          if ks = [] then none
          else
            (enterAt? name v ks t).map fun t =>
              put k (.elements t earlier) d

/- Enter a value, under a key. -/
def enter?
    (p : Path)
    (v : Value)
    (d : Draft) : Option Draft :=
  enterAt? p.name v p.through d

------------------------------------------------------------
-- Closing
------------------------------------------------------------

mutual

/- The value that a name stands for. -/
def closeNode : Node → Value
  | .value v => v
  | .table _ entries => .table (closeEntries entries)
  | .elements last earlier =>
      .list (closeAll earlier [.table (closeEntries last)])

/- The entries of a table. -/
def closeEntries : List (String × Node) → Table
  | [] => []
  | (k, n) :: rest => (k, closeNode n) :: closeEntries rest

/- The elements of a list, the last of which comes first. -/
def closeAll :
    List (List (String × Node)) → List Value → List Value
  | [], vs => vs
  | t :: rest, vs => closeAll rest (.table (closeEntries t) :: vs)

end

/- The finished table. -/
def close (d : Draft) : Table :=
  closeEntries d

end Draft

end LightningGateway.Toml
