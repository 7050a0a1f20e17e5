import LightningGateway.Json.Numeral
import LightningGateway.Text.Hex

/-
  JSON text and its syntax trees.

  Reading is done in two passes.  The first cuts the text into
  tokens, the second folds the tokens with a stack of open
  lists and objects, so its depth has no limit and nothing is
  recursive but the token list.  A tree keeps what later
  readers decide on: numerals as spelled, the order and the
  repetitions of object members, and whether a quoted text can
  be read at all (a lone half of a surrogate pair cannot).

  Key definitions include:
    * `Token`
    * `tokens?`
    * `Tree`
    * `Tree.parse?`
-/

namespace LightningGateway.Json

------------------------------------------------------------
-- Tokens
------------------------------------------------------------

/- The tokens of JSON text; `text none` cannot be read. -/
inductive Token where
  | openList
  | closeList
  | openObject
  | closeObject
  | comma
  | colon
  | null
  | bool (b : Bool)
  | number (n : Numeral)
  | text (t : Option String)
  deriving DecidableEq, Repr

/- The blanks of JSON. -/
def isSpace (c : Char) : Bool :=
  c == ' ' || c == '\n' || c == '\t' || c == '\r'

/- A piece of a quoted text: a character or half a pair. -/
inductive Piece where
  | char (c : Char)
  | half (n : Nat)
  deriving DecidableEq, Repr

/- The character that a one-letter escape stands for. -/
def escaped? (c : Char) : Option Char :=
  if c = '"' ∨ c = '\\' ∨ c = '/' then some c
  else if c = 'b' then some '\x08'
  else if c = 'f' then some '\x0c'
  else if c = 'n' then some '\n'
  else if c = 'r' then some '\r'
  else if c = 't' then some '\t'
  else none

/- The value of four hexadecimal digits. -/
def hex4? (a b c d : Char) : Option Nat := do
  let a ← Text.Hex.value? a
  let b ← Text.Hex.value? b
  let c ← Text.Hex.value? c
  let d ← Text.Hex.value? d
  some (((a * 16 + b) * 16 + c) * 16 + d)

/- The piece that a code unit stands for. -/
def Piece.ofUnit (n : Nat) : Piece :=
  if 0xD800 ≤ n ∧ n < 0xE000 then .half n
  else .char (Char.ofNat n)

/-
  The pieces up to the closing quote, and what follows it.
  Control characters have to be escaped.
-/
def pieces? : List Char → Option (List Piece × List Char)
  | [] => none
  | '"' :: rest => some ([], rest)
  | '\\' :: 'u' :: a :: b :: c :: d :: rest =>
      match hex4? a b c d, pieces? rest with
      | some n, some (ps, rest) =>
          some (Piece.ofUnit n :: ps, rest)
      | _, _ => none
  | '\\' :: e :: rest =>
      match escaped? e, pieces? rest with
      | some c, some (ps, rest) => some (.char c :: ps, rest)
      | _, _ => none
  | c :: rest =>
      if c = '\\' ∨ c.toNat < 0x20 then none
      else
        match pieces? rest with
        | some (ps, rest) => some (.char c :: ps, rest)
        | none => none

/- Join the halves of surrogate pairs; a lone half fails. -/
def join? : List Piece → Option (List Char)
  | [] => some []
  | .char c :: rest => (join? rest).map (c :: ·)
  | .half h :: .half l :: rest =>
      if h < 0xDC00 ∧ 0xDC00 ≤ l then
        let n := 0x10000 + (h - 0xD800) * 0x400 + (l - 0xDC00)
        (join? rest).map (Char.ofNat n :: ·)
      else none
  | .half _ :: _ => none

/- The leading decimal digits, and the rest. -/
def digits : List Char → List Nat × List Char
  | [] => ([], [])
  | c :: rest =>
      if c.isDigit then
        let (ds, rest) := digits rest
        ((c.toNat - 48) :: ds, rest)
      else ([], c :: rest)

/- The digits of a fraction, if a point starts one. -/
def fraction? :
    List Char → Option (List Nat × List Char)
  | '.' :: rest =>
      match digits rest with
      | ([], _) => none
      | (ds, rest) => some (ds, rest)
  | rest => some ([], rest)

/- The digits of an exponent, after its letter and sign. -/
def scaleDigits?
    (negative : Bool)
    (cs : List Char) : Option (Option Scale × List Char) :=
  match digits cs with
  | ([], _) => none
  | (ds, rest) => some (some ⟨negative, ds⟩, rest)

/- An exponent, if a letter starts one. -/
def scale? :
    List Char → Option (Option Scale × List Char)
  | [] => some (none, [])
  | c :: rest =>
      if c = 'e' ∨ c = 'E' then
        match rest with
        | '+' :: rest => scaleDigits? false rest
        | '-' :: rest => scaleDigits? true rest
        | rest => scaleDigits? false rest
      else some (none, c :: rest)

/- The whole part: one zero, or digits that start with none. -/
def whole? : List Char → Option (List Nat × List Char)
  | '0' :: rest => some ([0], rest)
  | cs =>
      match digits cs with
      | ([], _) => none
      | (ds, rest) => some (ds, rest)

/- An unsigned numeral, and the rest. -/
def unsigned?
    (negative : Bool)
    (cs : List Char) : Option (Numeral × List Char) :=
  match whole? cs with
  | none => none
  | some (whole, rest) =>
      match fraction? rest with
      | none => none
      | some (fraction, rest) =>
          match scale? rest with
          | none => none
          | some (scale, rest) =>
              some (⟨negative, whole, fraction, scale⟩, rest)

/- A numeral, and the rest. -/
def numeral? : List Char → Option (Numeral × List Char)
  | '-' :: rest => unsigned? true rest
  | cs => unsigned? false cs

/- The token that starts with a character other than a blank. -/
def token? : List Char → Option (Token × List Char)
  | [] => none
  | '[' :: rest => some (.openList, rest)
  | ']' :: rest => some (.closeList, rest)
  | '\x7b' :: rest => some (.openObject, rest)
  | '\x7d' :: rest => some (.closeObject, rest)
  | ',' :: rest => some (.comma, rest)
  | ':' :: rest => some (.colon, rest)
  | 'n' :: 'u' :: 'l' :: 'l' :: rest => some (.null, rest)
  | 't' :: 'r' :: 'u' :: 'e' :: rest =>
      some (.bool true, rest)
  | 'f' :: 'a' :: 'l' :: 's' :: 'e' :: rest =>
      some (.bool false, rest)
  | '"' :: rest =>
      match pieces? rest with
      | some (ps, rest) =>
          some (.text ((join? ps).map String.ofList), rest)
      | none => none
  | cs =>
      match numeral? cs with
      | some (n, rest) => some (.number n, rest)
      | none => none

------------------------------------------------------------
-- Tokens Take Characters
------------------------------------------------------------

/- A quoted text takes its closing quote at least. -/
theorem length_of_pieces?
    {cs : List Char}
    {ps : List Piece}
    {rest : List Char}
    (h : pieces? cs = some (ps, rest)) :
    rest.length < cs.length := by
  fun_induction pieces? cs generalizing ps rest <;>
    simp_all <;> grind

/- Digits take no more than there is. -/
theorem length_digits (cs : List Char) :
    (digits cs).2.length + (digits cs).1.length =
      cs.length := by
  fun_induction digits cs <;> grind

/- A whole part takes a digit at least. -/
theorem length_of_whole?
    {cs rest : List Char}
    {ds : List Nat}
    (h : whole? cs = some (ds, rest)) :
    rest.length < cs.length := by
  have := length_digits cs
  unfold whole? at h
  split at h
  · grind
  · split at h
    · simp at h
    · rename_i hne heq
      have := List.length_pos_iff.2 hne
      simp_all
      omega

/- A fraction takes no more than there is. -/
theorem length_of_fraction?
    {cs rest : List Char}
    {ds : List Nat}
    (h : fraction? cs = some (ds, rest)) :
    rest.length ≤ cs.length := by
  unfold fraction? at h
  split at h
  · rename_i cs
    have := length_digits cs
    split at h <;> grind
  · grind

/- The digits of an exponent take no more than there is. -/
theorem length_of_scaleDigits?
    {negative : Bool}
    {cs rest : List Char}
    {s : Option Scale}
    (h : scaleDigits? negative cs = some (s, rest)) :
    rest.length ≤ cs.length := by
  have := length_digits cs
  unfold scaleDigits? at h
  split at h <;> grind

/- An exponent takes no more than there is. -/
theorem length_of_scale?
    {cs rest : List Char}
    {s : Option Scale}
    (h : scale? cs = some (s, rest)) :
    rest.length ≤ cs.length := by
  unfold scale? at h
  split at h
  · grind
  · split at h
    · split at h <;>
        grind [→ length_of_scaleDigits?]
    · grind

/- A numeral takes a digit at least. -/
theorem length_of_unsigned?
    {negative : Bool}
    {cs rest : List Char}
    {n : Numeral}
    (h : unsigned? negative cs = some (n, rest)) :
    rest.length < cs.length := by
  unfold unsigned? at h
  grind [→ length_of_whole?, → length_of_fraction?,
    → length_of_scale?]

/- A numeral takes a digit at least. -/
theorem length_of_numeral?
    {cs rest : List Char}
    {n : Numeral}
    (h : numeral? cs = some (n, rest)) :
    rest.length < cs.length := by
  unfold numeral? at h
  grind [→ length_of_unsigned?]

/- A token takes a character at least. -/
theorem length_of_token?
    {cs rest : List Char}
    {t : Token}
    (h : token? cs = some (t, rest)) :
    rest.length < cs.length := by
  unfold token? at h
  split at h <;>
    grind [→ length_of_pieces?, → length_of_numeral?]

/- All tokens of a text, blanks between them being skipped. -/
def tokens? : List Char → Option (List Token)
  | [] => some []
  | c :: cs =>
      if isSpace c then tokens? cs
      else
        match _h : token? (c :: cs) with
        | none => none
        | some (t, rest) =>
            (tokens? rest).map (t :: ·)
  termination_by cs => cs.length
  decreasing_by
    · exact Nat.lt_succ_self cs.length
    · exact length_of_token? _h

------------------------------------------------------------
-- Trees
------------------------------------------------------------

/-
  The syntax tree of a JSON text.  Texts and member names that
  cannot be read are `none`.
-/
inductive Tree where
  | null
  | bool (b : Bool)
  | number (n : Numeral)
  | text (t : Option String)
  | list (items : List Tree)
  | object (members : List (Option String × Tree))
  deriving Repr

/- A list or an object whose end has not been read. -/
inductive Frame where
  | list (done : List Tree)
  | object
      (done : List (Option String × Tree))
      (name : Option String)

/- What has been read, and so what may follow. -/
inductive Reading where
  | value (stack : List Frame)
  | valueOrEnd (stack : List Frame)
  | nameOrEnd (stack : List Frame)
  | name
      (done : List (Option String × Tree))
      (stack : List Frame)
  | colon
      (done : List (Option String × Tree))
      (name : Option String)
      (stack : List Frame)
  | read (t : Tree) (stack : List Frame)

namespace Reading

/- Read a token where a value has to start. -/
def start
    (stack : List Frame) :
    Token → Option Reading
  | .null => some (.read .null stack)
  | .bool b => some (.read (.bool b) stack)
  | .number n => some (.read (.number n) stack)
  | .text t => some (.read (.text t) stack)
  | .openList => some (.valueOrEnd stack)
  | .openObject => some (.nameOrEnd stack)
  | _ => none

/- Read one token. -/
def step : Reading → Token → Option Reading
  | .value stack, t => start stack t
  | .valueOrEnd stack, .closeList =>
      some (.read (.list []) stack)
  | .valueOrEnd stack, t => start (.list [] :: stack) t
  | .nameOrEnd stack, .closeObject =>
      some (.read (.object []) stack)
  | .nameOrEnd stack, .text k => some (.colon [] k stack)
  | .name done stack, .text k => some (.colon done k stack)
  | .colon done k stack, .colon =>
      some (.value (.object done k :: stack))
  | .read t (.list done :: stack), .comma =>
      some (.value (.list (t :: done) :: stack))
  | .read t (.list done :: stack), .closeList =>
      some (.read (.list (t :: done).reverse) stack)
  | .read t (.object done k :: stack), .comma =>
      some (.name ((k, t) :: done) stack)
  | .read t (.object done k :: stack), .closeObject =>
      some (.read (.object ((k, t) :: done).reverse) stack)
  | _, _ => none

/- Read a list of tokens. -/
def run : Reading → List Token → Option Reading
  | r, [] => some r
  | r, t :: rest =>
      match r.step t with
      | some r => run r rest
      | none => none

/- The tree, if exactly one has been read. -/
def done? : Reading → Option Tree
  | .read t [] => some t
  | _ => none

end Reading

namespace Tree

/- The tree of a list of tokens. -/
def ofTokens? (ts : List Token) : Option Tree :=
  (Reading.run (.value []) ts).bind Reading.done?

/- The tree of a JSON text. -/
def parse? (s : String) : Option Tree :=
  (tokens? s.toList).bind ofTokens?

end Tree

end LightningGateway.Json
