import LightningGateway.Toml.Draft
import LightningGateway.Toml.Moment
import LightningGateway.Toml.Number
import LightningGateway.Toml.Quoted

/-
  The statements of a TOML document.

  A statement is a header, a header in double brackets, or an
  entry, on a line of its own.  Lists go over as many lines as
  they like, tables in braces stay on one.  Lists and tables in
  braces lie in each other less than eighty deep, and a dotted
  key has less than eighty names.

  Key definitions include:
    * `path?`
    * `Value.read?`
    * `Statement`
    * `Statement.readAll?`
-/

namespace LightningGateway.Toml

------------------------------------------------------------
-- Keys
------------------------------------------------------------

/- A character of a key without quotes. -/
def isKeyChar (c : Char) : Bool :=
  c.isAlphanum || c == '_' || c == '-'

/- One name of a key. -/
def name?
    (cs : List Char) : Option (String × List Char) :=
  match cs with
  | [] => none
  | c :: rest =>
      if c = '"' ∨ c = '\'' then Quoted.short? cs
      else if isKeyChar c then
        some (String.ofList (c :: rest.takeWhile isKeyChar),
          rest.dropWhile isKeyChar)
      else none

/- The names of a key, with points between them. -/
def names? :
    Nat → List Char → Option (List String × List Char)
  | 0, _ => none
  | fuel + 1, cs => do
      let (name, rest) ← name? (skipBlanks cs)
      match skipBlanks rest with
      | '.' :: rest =>
          let (names, rest) ← names? fuel rest
          some (name :: names, rest)
      | rest => some ([name], rest)

/- The number of names that a key has less of. -/
def keyLimit : Nat := 80

/- A key, with blanks around it. -/
def path?
    (cs : List Char) : Option (Path × List Char) :=
  match names? (keyLimit - 1) cs with
  | none => none
  | some (names, rest) =>
      names.getLast?.map fun name =>
        (⟨names.dropLast, name⟩, rest)

------------------------------------------------------------
-- Values
------------------------------------------------------------

/- A value that holds no other values. -/
def scalar?
    (cs : List Char) : Option (Value × List Char) :=
  match cs with
  | 't' :: 'r' :: 'u' :: 'e' :: rest => some (.bool true, rest)
  | 'f' :: 'a' :: 'l' :: 's' :: 'e' :: rest =>
      some (.bool false, rest)
  | [] => none
  | c :: _ =>
      if c = '"' ∨ c = '\'' then
        (Quoted.text? cs).map fun (s, rest) => (.text s, rest)
      else
        match Moment.read? cs with
        | some (m, rest) => some (.moment m, rest)
        | none => number? cs

/- The items of a list, after its opening bracket. -/
def items?
    (item? : List Char → Option (Value × List Char)) :
    Nat → List Char → Option (List Value × List Char)
  | 0, _ => none
  | fuel + 1, cs =>
      match skipLayout cs with
      | ']' :: rest => some ([], rest)
      | cs => do
          let (v, rest) ← item? cs
          match skipLayout rest with
          | ']' :: rest => some ([v], rest)
          | ',' :: rest =>
              let (vs, rest) ← items? item? fuel rest
              some (v :: vs, rest)
          | _ => none

/- A key, an equals sign and a value. -/
def pair?
    (item? : List Char → Option (Value × List Char))
    (cs : List Char) :
    Option ((Path × Value) × List Char) := do
  let (p, rest) ← path? cs
  let rest ← after? '=' rest
  let (v, rest) ← item? (skipBlanks rest)
  some ((p, v), rest)

/- The entries of a table in braces, of which there is one. -/
def pairs?
    (item? : List Char → Option (Value × List Char)) :
    Nat → List Char →
    Option (List (Path × Value) × List Char)
  | 0, _ => none
  | fuel + 1, cs => do
      let (p, rest) ← pair? item? cs
      match skipBlanks rest with
      | '\x7d' :: rest => some ([p], rest)
      | ',' :: rest =>
          let (ps, rest) ← pairs? item? fuel rest
          some (p :: ps, rest)
      | _ => none

/- The table that has the given entries. -/
def tableOf?
    (pairs : List (Path × Value)) : Option Value :=
  (pairs.foldlM (fun d (p, v) => Draft.enter? p v d) []).map
    fun d => .table (Draft.close d)

/- A table in braces, after the opening one. -/
def braced?
    (item? : List Char → Option (Value × List Char))
    (cs : List Char) : Option (Value × List Char) :=
  match skipBlanks cs with
  | '\x7d' :: rest => some (.table [], rest)
  | cs => do
      let (ps, rest) ← pairs? item? (cs.length + 1) cs
      let v ← tableOf? ps
      some (v, rest)

/- A value in which others lie at most so deep. -/
def Value.readWithin? :
    Nat → List Char → Option (Value × List Char)
  | 0, cs => scalar? cs
  | depth + 1, cs =>
      match cs with
      | '[' :: rest =>
          (items? (readWithin? depth) (rest.length + 1) rest).map
            fun (vs, rest) => (.list vs, rest)
      | '\x7b' :: rest => braced? (readWithin? depth) rest
      | cs => scalar? cs

/- How deep values lie in each other at most. -/
def depthLimit : Nat := 79

/- Read a value. -/
def Value.read?
    (cs : List Char) : Option (Value × List Char) :=
  Value.readWithin? depthLimit cs

------------------------------------------------------------
-- Statements
------------------------------------------------------------

/- A statement. -/
inductive Statement where
  | header (p : Path)
  | element (p : Path)
  | entry (p : Path) (v : Value)
  deriving Repr

namespace Statement

/- Read a statement, up to the end of its line. -/
def read?
    (cs : List Char) : Option (Statement × List Char) :=
  match cs with
  | '[' :: '[' :: rest => do
      let (p, rest) ← path? rest
      let rest ← after? ']' rest
      let rest ← after? ']' rest
      some (.element p, rest)
  | '[' :: rest => do
      let (p, rest) ← path? rest
      let rest ← after? ']' rest
      some (.header p, rest)
  | _ => do
      let ((p, v), rest) ← pair? Value.read? cs
      some (.entry p v, rest)

/- Read lines, each of which has at most one statement. -/
def readLines? :
    Nat → List Char → Option (List Statement)
  | 0, _ => none
  | fuel + 1, cs =>
      match skipBlanks cs with
      | [] => some []
      | c :: cs =>
          if c = '#' ∨ c = '\n' ∨ c = '\r' then
            (endLine? (c :: cs)).bind (readLines? fuel)
          else do
            let (s, rest) ← read? (c :: cs)
            let rest ← endLine? rest
            let ss ← readLines? fuel rest
            some (s :: ss)

/- Read the statements of a document. -/
def readAll?
    (cs : List Char) : Option (List Statement) :=
  readLines? (cs.length + 1) cs

end Statement

end LightningGateway.Toml
