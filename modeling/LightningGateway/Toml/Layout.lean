/-
  What stands between the parts of a TOML document: blanks,
  comments and line ends.

  A line ends with a line feed, before which a carriage return
  may stand, or with the text.  A comment reaches to the end of
  its line and holds no control characters but tabs.

  Key definitions include:
    * `isBlank`, `isShown`
    * `newline?`
    * `endLine?`
    * `skipLayout`
-/

namespace LightningGateway.Toml

/- A space or a tab. -/
def isBlank (c : Char) : Bool :=
  c == ' ' || c == '\t'

/- A character that is no control character, or a tab. -/
def isShown (c : Char) : Bool :=
  c == '\t' || (0x20 ≤ c.toNat && c.toNat != 0x7F)

/- Leave out leading blanks. -/
def skipBlanks (cs : List Char) : List Char :=
  cs.dropWhile isBlank

/- What follows a line end. -/
def newline? : List Char → Option (List Char)
  | '\n' :: rest => some rest
  | '\r' :: '\n' :: rest => some rest
  | _ => none

/- Leave out a comment. -/
def skipComment : List Char → List Char
  | '#' :: rest => rest.dropWhile isShown
  | cs => cs

/-
  What follows the line, of which only blanks and a comment may
  be left.
-/
def endLine? (cs : List Char) : Option (List Char) :=
  match skipComment (skipBlanks cs) with
  | [] => some []
  | cs => newline? cs

/- Leave out blanks, line ends and comments, of which one may be open. -/
def skipLayoutFrom : Bool → List Char → List Char
  | _, [] => []
  | true, c :: rest =>
      if isShown c then skipLayoutFrom true rest
      else if c = '\n' then skipLayoutFrom false rest
      else if c = '\r' ∧ rest.head? = some '\n' then
        skipLayoutFrom false rest
      else c :: rest
  | false, c :: rest =>
      if isBlank c ∨ c = '\n' then skipLayoutFrom false rest
      else if c = '#' then skipLayoutFrom true rest
      else if c = '\r' ∧ rest.head? = some '\n' then
        skipLayoutFrom false rest
      else c :: rest

/- Leave out blanks, line ends and comments. -/
def skipLayout (cs : List Char) : List Char :=
  skipLayoutFrom false cs

end LightningGateway.Toml
