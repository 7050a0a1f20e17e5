/-
  White space and the trimming of text.

  A character is blank when it has the Unicode property
  `White_Space`; the property has 25 members.  Trimming is
  defined on lists of characters, where its laws are short
  inductions, and lifted to `String`.

  Key definitions include:
    * `isBlank`
    * `trimEndWhile`
    * `trimBlank`
    * `trim`
-/

namespace LightningGateway.Text

------------------------------------------------------------
-- Blank Characters
------------------------------------------------------------

/- The code points with the property `White_Space`. -/
def isBlankPoint (n : Nat) : Bool :=
  (9 ≤ n && n ≤ 13) || n == 0x20 || n == 0x85 || n == 0xA0 ||
    n == 0x1680 || (0x2000 ≤ n && n ≤ 0x200A) ||
    n == 0x2028 || n == 0x2029 || n == 0x202F ||
    n == 0x205F || n == 0x3000

/- The characters with the property `White_Space`. -/
def isBlank (c : Char) : Bool :=
  isBlankPoint c.toNat

/- Every character that the core library calls white space is blank. -/
theorem isBlank_of_isWhitespace
    (c : Char)
    (h : c.isWhitespace = true) :
    isBlank c = true := by
  simp only [Char.isWhitespace, Bool.or_eq_true,
    decide_eq_true_eq] at h
  rcases h with ((h | h) | h) | h <;> subst h <;> decide

------------------------------------------------------------
-- Trimming
------------------------------------------------------------

/- Drop the longest suffix whose characters satisfy `p`. -/
def trimEndWhile
    (p : Char → Bool)
    (cs : List Char) : List Char :=
  (cs.reverse.dropWhile p).reverse

/- Drop the blanks on both sides. -/
def trimBlank (cs : List Char) : List Char :=
  trimEndWhile isBlank (cs.dropWhile isBlank)

/- Drop the blanks on both sides of a text. -/
def trim (s : String) : String :=
  String.ofList (trimBlank s.toList)

/- Drop every final character that satisfies `p`. -/
def trimEnd
    (p : Char → Bool)
    (s : String) : String :=
  String.ofList (trimEndWhile p s.toList)

/- Drop every leading character that satisfies `p`. -/
def trimStart
    (p : Char → Bool)
    (s : String) : String :=
  String.ofList (s.toList.dropWhile p)

/- The rest of a text after a given beginning, if it starts so. -/
def after?
    (start : List Char)
    (cs : List Char) : Option (List Char) :=
  match start, cs with
  | [], cs => some cs
  | _ :: _, [] => none
  | a :: start, c :: cs =>
      if a = c then after? start cs else none

end LightningGateway.Text
