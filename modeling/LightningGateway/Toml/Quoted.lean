import LightningGateway.Text.Hex
import LightningGateway.Toml.Layout

/-
  Quoted text in TOML documents.

  Text stands between double quotes, where a backslash begins
  an escape, or between single quotes, where it does not.  One
  quote holds text of a single line; three hold a block of
  lines.  A line end right after the opening of a block does
  not count, every other counts as a line feed, and in double
  quotes a backslash at the end of a line takes away the line
  end and all blanks and line ends after it.

  Key definitions include:
    * `Quoting`
    * `line?`
    * `block?`
    * `text?`
    * `encode`
-/

namespace LightningGateway.Toml

namespace Quoted

------------------------------------------------------------
-- Escapes
------------------------------------------------------------

/- The character that a letter after a backslash stands for. -/
def escaped? (c : Char) : Option Char :=
  match c with
  | 'b' => some '\x08'
  | 't' => some '\t'
  | 'n' => some '\n'
  | 'f' => some '\x0c'
  | 'r' => some '\r'
  | '"' => some '"'
  | '\\' => some '\\'
  | _ => none

/- The character whose code point a list of digits spells. -/
def point?
    (digits : List Char) : Option Char := do
  let ds ← digits.mapM Text.Hex.value?
  let n := ds.foldl (fun n d => 16 * n + d) 0
  if h : n.isValidChar then some (Char.ofNatAux n h) else none

/-
  The character that an escape stands for, and how many
  characters after the backslash the escape takes.
-/
def escape?
    (cs : List Char) : Option (Char × Nat) :=
  match cs with
  | 'u' :: rest =>
      if rest.length < 4 then none
      else (point? (rest.take 4)).map (·, 5)
  | 'U' :: rest =>
      if rest.length < 8 then none
      else (point? (rest.take 8)).map (·, 9)
  | c :: _ => (escaped? c).map (·, 1)
  | [] => none

------------------------------------------------------------
-- Reading
------------------------------------------------------------

/- How a text is quoted. -/
inductive Quoting where
  | double
  | single
  deriving DecidableEq, Repr

/- The quote. -/
def Quoting.mark : Quoting → Char
  | .double => '"'
  | .single => '\''

/- What happens to the next character of a text. -/
inductive Mode where
  | keeping
  -- So many characters belong to an escape.
  | skipping (n : Nat)
  -- Blanks and line ends are taken away.
  | trimming
  deriving DecidableEq, Repr

/- Put a character in front of the text that was read. -/
def prepend
    (c : Char)
    (read : Option (List Char × List Char)) :
    Option (List Char × List Char) :=
  read.map fun (text, rest) => (c :: text, rest)

/- The text up to the closing quote, and what follows it. -/
def line?
    (q : Quoting) :
    Nat → List Char → Option (List Char × List Char)
  | _, [] => none
  | n + 1, _ :: rest => line? q n rest
  | 0, c :: rest =>
      if c = q.mark then some ([], rest)
      else if c = '\\' ∧ q = .double then
        match escape? rest with
        | some (x, n) => prepend x (line? q n rest)
        | none => none
      else if isShown c then prepend c (line? q 0 rest)
      else none

/-
  Up to two quotes right before the three closing ones belong
  to the text: those quotes and what follows the closing ones,
  given what follows the first three.
-/
def closing
    (mark : Char) : List Char → List Char × List Char
  | a :: b :: rest =>
      if a = mark ∧ b = mark then ([mark, mark], rest)
      else if a = mark then ([mark], b :: rest)
      else ([], a :: b :: rest)
  | [a] => if a = mark then ([mark], []) else ([], [a])
  | [] => ([], [])

/- Whether only blanks are left of the line. -/
def endsLine (cs : List Char) : Bool :=
  (newline? (skipBlanks cs)).isSome

/- Text of many lines up to the closing quotes. -/
def block?
    (q : Quoting) :
    Mode → List Char → Option (List Char × List Char)
  | _, [] => none
  | .skipping (n + 1), _ :: rest => block? q (.skipping n) rest
  | mode, c :: rest =>
      if mode = .trimming ∧ (isBlank c ∨ c = '\n') then
        block? q .trimming rest
      else if c = '\r' then
        if rest.head? = some '\n' then block? q mode rest
        else none
      else if c = q.mark then
        if rest.take 2 = [c, c] then
          some (closing c (rest.drop 2))
        else prepend c (block? q .keeping rest)
      else if c = '\\' ∧ q = .double then
        if endsLine rest then block? q .trimming rest
        else
          match escape? rest with
          | some (x, n) => prepend x (block? q (.skipping n) rest)
          | none => none
      else if c = '\n' ∨ isShown c then
        prepend c (block? q .keeping rest)
      else none

/- A text in one or in three quotes, after the first of them. -/
def body?
    (q : Quoting)
    (cs : List Char) : Option (List Char × List Char) :=
  match cs with
  | a :: b :: rest =>
      if a = q.mark ∧ b = q.mark then
        block? q .keeping ((newline? rest).getD rest)
      else line? q 0 cs
  | _ => line? q 0 cs

/- Make the characters that were read a text. -/
def toText
    (read : List Char × List Char) : String × List Char :=
  (String.ofList read.1, read.2)

/- A quoted text, on one line or on many. -/
def text?
    (cs : List Char) : Option (String × List Char) :=
  match cs with
  | '"' :: rest => (body? .double rest).map toText
  | '\'' :: rest => (body? .single rest).map toText
  | _ => none

/- A quoted text on one line. -/
def short?
    (cs : List Char) : Option (String × List Char) :=
  match cs with
  | '"' :: rest => (line? .double 0 rest).map toText
  | '\'' :: rest => (line? .single 0 rest).map toText
  | _ => none

------------------------------------------------------------
-- Writing
------------------------------------------------------------

/- A character between double quotes. -/
def escape (c : Char) : List Char :=
  if c = '"' then ['\\', '"']
  else if c = '\\' then ['\\', '\\']
  else if c = '\n' then ['\\', 'n']
  else if c = '\r' then ['\\', 'r']
  else if c = '\x08' then ['\\', 'b']
  else if c = '\x0c' then ['\\', 'f']
  else if isShown c then [c]
  else
    let n := c.toNat
    ['\\', 'u', '0', '0', Nat.digitChar (n / 16),
     Nat.digitChar (n % 16)]

/- A text in double quotes. -/
def encode (s : String) : List Char :=
  '"' :: (s.toList.flatMap escape ++ ['"'])

end Quoted

end LightningGateway.Toml
