import LightningGateway.Toml.Statement

/-
  TOML documents.

  Reading gathers the statements of a document in a table.
  Writing is for documents with one level of sections.

  Key definitions include:
    * `parse?`
    * `Outline`
    * `Outline.chars`
-/

namespace LightningGateway.Toml

------------------------------------------------------------
-- Reading
------------------------------------------------------------

/- What has been read, and the table that entries go to. -/
structure Progress where
  draft : Draft
  here : List String

/- Nothing has been read. -/
def Progress.start : Progress := ⟨[], []⟩

/- Read one more statement. -/
def Progress.step?
    (s : Progress) : Statement → Option Progress
  | .header p =>
      (s.draft.open? p).map (⟨·, p.names⟩)
  | .element p =>
      (s.draft.openElement? p).map (⟨·, p.names⟩)
  | .entry p v =>
      (s.draft.change? (Draft.enter? p v) s.here).map
        (⟨·, s.here⟩)

/- The character that may mark the order of bytes. -/
def orderMark : Char := '\uFEFF'

/- Leave out a byte order mark. -/
def skipMark : List Char → List Char
  | c :: rest => if c = orderMark then rest else c :: rest
  | [] => []

/- The table that a document holds. -/
def parse? (text : String) : Option Table := do
  let ss ← Statement.readAll? (skipMark text.toList)
  let s ← ss.foldlM Progress.step? .start
  some s.draft.close

------------------------------------------------------------
-- Writing
------------------------------------------------------------

/- A value that is written on the line of its name. -/
inductive Scalar where
  | text (s : String)
  | int (n : Int)
  deriving DecidableEq, Repr

namespace Scalar

/- The written value. -/
def chars : Scalar → List Char
  | .text s => Quoted.encode s
  | .int n => (toString n).toList

/- The value. -/
def value : Scalar → Value
  | .text s => .text s
  | .int n => .int n

end Scalar

/- Entries with plain names. -/
abbrev Entries := List (String × Scalar)

/- A document with one level of sections. -/
structure Outline where
  entries : Entries
  sections : List (String × Entries)
  deriving DecidableEq, Repr

namespace Outline

/- A line for each entry. -/
def entryChars (es : Entries) : List Char :=
  es.flatMap fun (name, v) =>
    name.toList ++ ' ' :: '=' :: ' ' :: (v.chars ++ ['\n'])

/- A header and the entries under it. -/
def sectionChars
    (s : String × Entries) : List Char :=
  '[' :: (s.1.toList ++ ']' :: '\n' :: entryChars s.2)

/- The parts of a document, the entries before all sections first. -/
def parts (o : Outline) : List (List Char) :=
  let sections := o.sections.map sectionChars
  if o.entries.isEmpty then sections
  else entryChars o.entries :: sections

/- The document; empty lines keep its parts apart. -/
def chars (o : Outline) : List Char :=
  ['\n'].intercalate o.parts

/- The document as a text. -/
def toText (o : Outline) : String :=
  String.ofList o.chars

/- The table that the document holds. -/
def table (o : Outline) : Table :=
  let valued (es : Entries) : Table :=
    es.map fun (name, v) => (name, v.value)
  valued o.entries ++
    o.sections.map fun (name, es) => (name, .table (valued es))

end Outline

end LightningGateway.Toml
