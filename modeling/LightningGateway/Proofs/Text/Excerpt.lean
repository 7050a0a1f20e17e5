import LightningGateway.Proofs.Text.Utf8
import LightningGateway.Text.Excerpt

/-
  Texts that are shortened to their beginning.

  A text of at most as many characters as asked for stays as it
  is.  A longer one is cut behind that many characters and
  marked.  The place of the cut is also told by the bytes of the
  text: of every character the first byte, and no other, looks
  like a first byte.  So there is just one offset at which no
  character goes on and before which that many have begun.

  Key definitions include:
    * `Utf8.begun`
    * `Utf8.EndsAt`

  Main results:
    * `Utf8.begun_encodeChars`
    * `Utf8.endsAt_encodeChars`
    * `Utf8.EndsAt.unique`
    * `excerpt_of_length_le`, `excerpt_of_lt_length`
    * `encode_excerpt`
    * `excerpt_excerpt`
-/

namespace LightningGateway.Text

------------------------------------------------------------
-- Where Characters Begin and End
------------------------------------------------------------

namespace Utf8

/- How many characters begin in bytes of a text. -/
def begun (bytes : List UInt8) : Nat :=
  bytes.countP fun b => decide b.IsUTF8FirstByte

/-
  The first `count` characters end at an offset: so many have
  begun before it, and what follows begins a character.
-/
structure EndsAt
    (bytes : List UInt8)
    (count offset : Nat) : Prop where
  within : offset ≤ bytes.length
  first : ∀ b, bytes[offset]? = some b → b.IsUTF8FirstByte
  begun : begun (bytes.take offset) = count

/- Characters begin in one part of bytes or in the other. -/
theorem begun_append (front back : List UInt8) :
    begun (front ++ back) = begun front + begun back :=
  List.countP_append

/- A character begins with its first byte, and there alone. -/
theorem exists_encodeChar_cons (c : Char) :
    ∃ b rest, String.utf8EncodeChar c = b :: rest ∧
      b.IsUTF8FirstByte ∧ begun (String.utf8EncodeChar c) = 1 := by
  have hFirst
      {i : Nat}
      (hi : i < (String.utf8EncodeChar c).length) :
      (String.utf8EncodeChar c)[i].IsUTF8FirstByte ↔ i = 0 :=
    UInt8.isUTF8FirstByte_getElem_utf8EncodeChar
  cases hBytes : String.utf8EncodeChar c with
  | nil =>
      have hSome := String.length_utf8EncodeChar c
      rw [hBytes] at hSome
      exact absurd hSome (Nat.ne_of_lt c.utf8Size_pos)
  | cons b rest =>
      simp only [hBytes] at hFirst
      have hHead : b.IsUTF8FirstByte :=
        (hFirst (i := 0) (Nat.zero_lt_succ _)).mpr rfl
      have hTail : begun rest = 0 := by
        refine List.countP_eq_zero.mpr fun x hMem hBegins => ?_
        rcases List.getElem_of_mem hMem with ⟨i, hi, rfl⟩
        have hZero :=
          (hFirst (i := i + 1) (Nat.succ_lt_succ hi)).mp
            (of_decide_eq_true hBegins)
        cases hZero
      refine ⟨b, rest, rfl, hHead, ?_⟩
      rw [begun, List.countP_cons, ← begun, hTail,
        decide_eq_true hHead, if_pos rfl]

/- In the bytes of a text each of its characters begins once. -/
theorem begun_encodeChars (cs : List Char) :
    begun (encodeChars cs) = cs.length := by
  induction cs with
  | nil => rfl
  | cons c cs ih =>
      rcases exists_encodeChar_cons c with ⟨_, _, _, _, hOnce⟩
      rw [encodeChars, List.flatMap_cons, ← encodeChars,
        begun_append, hOnce, ih, List.length_cons, Nat.add_comm]

/- The bytes of a text start with a first byte. -/
theorem isUTF8FirstByte_of_head?
    {cs : List Char}
    {b : UInt8}
    (hHead : (encodeChars cs).head? = some b) :
    b.IsUTF8FirstByte := by
  cases cs with
  | nil => cases hHead
  | cons c cs =>
      rcases exists_encodeChar_cons c with
        ⟨x, rest, hBytes, hFirst, _⟩
      rw [encodeChars, List.flatMap_cons, hBytes,
        List.cons_append, List.head?_cons] at hHead
      cases hHead
      exact hFirst

/- A text that goes on ends where the bytes of its end do. -/
theorem endsAt_encodeChars (cs ds : List Char) :
    EndsAt (encodeChars (cs ++ ds)) cs.length
      (encodeChars cs).length where
  within := by
    rw [encodeChars_append, List.length_append]
    exact Nat.le_add_right _ _
  first := by
    intro b hByte
    rw [encodeChars_append,
      List.getElem?_append_right (Nat.le_refl _), Nat.sub_self,
      ← List.head?_eq_getElem?] at hByte
    exact isUTF8FirstByte_of_head? hByte
  begun := by
    rw [encodeChars_append, List.take_left, begun_encodeChars]

namespace EndsAt

variable {bytes : List UInt8}
variable {count i j : Nat}

/-
  So many characters do not end later than there: the one that
  begins there would have begun before.
-/
theorem le
    (hFirst : EndsAt bytes count i)
    (hSecond : EndsAt bytes count j) :
    j ≤ i := by
  refine Nat.le_of_not_lt fun hLater => ?_
  have hInside : i < bytes.length :=
    Nat.lt_of_lt_of_le hLater hSecond.within
  have hBegins : bytes[i].IsUTF8FirstByte :=
    hFirst.first _ (List.getElem?_eq_getElem hInside)
  have hMore :
      Utf8.begun (bytes.take (i + 1)) = count + 1 := by
    rw [List.take_succ_eq_append_getElem hInside, begun_append,
      hFirst.begun, Utf8.begun, List.countP_singleton,
      decide_eq_true hBegins, if_pos rfl]
  have hSublist :
      (bytes.take (i + 1)).Sublist (bytes.take j) :=
    (List.take_prefix_take_left hLater).sublist
  have hBegun :
      Utf8.begun (bytes.take (i + 1)) ≤
        Utf8.begun (bytes.take j) :=
    hSublist.countP_le
  rw [hMore, hSecond.begun] at hBegun
  exact Nat.not_succ_le_self count hBegun

/- So many characters end at one offset. -/
theorem unique
    (hFirst : EndsAt bytes count i)
    (hSecond : EndsAt bytes count j) :
    j = i :=
  Nat.le_antisymm (hFirst.le hSecond) (hSecond.le hFirst)

end EndsAt

end Utf8

------------------------------------------------------------
-- Beginnings of Characters
------------------------------------------------------------

section Characters

variable {cs : List Char}
variable {limit : Nat}

/- Few characters are kept as they are. -/
theorem excerptChars_of_length_le
    (hShort : cs.length ≤ limit) :
    excerptChars limit cs = cs := by
  rw [excerptChars, List.drop_eq_nil_of_le hShort]

/- Of more characters the first are kept, and marked. -/
theorem excerptChars_of_lt_length
    (hLong : limit < cs.length) :
    excerptChars limit cs = cs.take limit ++ ellipsis := by
  rw [excerptChars, List.drop_eq_getElem_cons hLong]

/- What is kept of them is marked in the same way again. -/
theorem excerptChars_excerptChars
    (limit : Nat)
    (cs : List Char) :
    excerptChars limit (excerptChars limit cs) =
      excerptChars limit cs := by
  rcases Nat.lt_or_ge limit cs.length with hLong | hShort
  · have hKept : (cs.take limit).length = limit :=
      List.length_take_of_le (Nat.le_of_lt hLong)
    have hAgain :
        limit < (cs.take limit ++ ellipsis).length := by
      rw [List.length_append, hKept]
      exact Nat.lt_add_of_pos_right (by decide)
    rw [excerptChars_of_lt_length hLong,
      excerptChars_of_lt_length hAgain, List.take_left' hKept]
  · rw [excerptChars_of_length_le hShort,
      excerptChars_of_length_le hShort]

/- There are no more of them than asked for, and the mark. -/
theorem length_excerptChars_le
    (limit : Nat)
    (cs : List Char) :
    (excerptChars limit cs).length ≤ limit + ellipsis.length := by
  rcases Nat.lt_or_ge limit cs.length with hLong | hShort
  · refine Nat.le_of_eq ?_
    rw [excerptChars_of_lt_length hLong, List.length_append,
      List.length_take_of_le (Nat.le_of_lt hLong)]
  · rw [excerptChars_of_length_le hShort]
    exact Nat.le_trans hShort (Nat.le_add_right _ _)

/- They start with all that is asked for and there. -/
theorem take_prefix_excerptChars
    (limit : Nat)
    (cs : List Char) :
    cs.take (min cs.length limit) <+: excerptChars limit cs := by
  rcases Nat.lt_or_ge limit cs.length with hLong | hShort
  · rw [Nat.min_eq_right (Nat.le_of_lt hLong),
      excerptChars_of_lt_length hLong]
    exact List.prefix_append _ _
  · refine ⟨[], ?_⟩
    rw [Nat.min_eq_left hShort, List.take_length,
      List.append_nil, excerptChars_of_length_le hShort]

end Characters

------------------------------------------------------------
-- Beginnings of Texts
------------------------------------------------------------

variable {s : String}
variable {limit : Nat}

/- A short text is kept as it is. -/
theorem excerpt_of_length_le
    (hShort : s.length ≤ limit) :
    excerpt s limit = s := by
  rw [excerpt, excerptChars_of_length_le hShort,
    String.ofList_toList]

/- Of a longer one the first characters are kept, and marked. -/
theorem excerpt_of_lt_length
    (hLong : limit < s.length) :
    excerpt s limit =
      String.ofList (s.toList.take limit) ++ "..." := by
  rw [excerpt, excerptChars_of_lt_length hLong,
    String.ofList_append]
  rfl

/- The first characters of a text end somewhere in its bytes. -/
theorem endsAt_encode
    (hEnough : limit ≤ s.length) :
    Utf8.EndsAt (Utf8.encode s) limit
      (Utf8.encodeChars (s.toList.take limit)).length := by
  have hEnds :=
    Utf8.endsAt_encodeChars (s.toList.take limit)
      (s.toList.drop limit)
  rw [List.take_append_drop,
    List.length_take_of_le hEnough] at hEnds
  exact hEnds

/- The bytes of a text are kept up to where they end. -/
theorem encode_excerpt
    {offset : Nat}
    (hLong : limit < s.length)
    (hEnds : Utf8.EndsAt (Utf8.encode s) limit offset) :
    Utf8.encode (excerpt s limit) =
      (Utf8.encode s).take offset ++ Utf8.encode "..." := by
  have hBytes :
      Utf8.encode s =
        Utf8.encodeChars (s.toList.take limit) ++
          Utf8.encodeChars (s.toList.drop limit) := by
    rw [← Utf8.encodeChars_append, List.take_append_drop,
      Utf8.encode]
  rw [(endsAt_encode (Nat.le_of_lt hLong)).unique hEnds, hBytes,
    List.take_left, excerpt_of_lt_length hLong, Utf8.encode,
    String.toList_append, String.toList_ofList,
    Utf8.encodeChars_append, Utf8.encode]

/- An excerpt is its own excerpt. -/
theorem excerpt_excerpt
    (s : String)
    (limit : Nat) :
    excerpt (excerpt s limit) limit = excerpt s limit := by
  simp only [excerpt, String.toList_ofList,
    excerptChars_excerptChars]

/- It has no more characters than asked for, and the mark. -/
theorem length_excerpt_le
    (s : String)
    (limit : Nat) :
    (excerpt s limit).length ≤ limit + 3 := by
  rw [excerpt, String.length_ofList]
  exact length_excerptChars_le limit s.toList

/- It starts with all of the text that is asked for. -/
theorem take_prefix_excerpt
    (s : String)
    (limit : Nat) :
    s.toList.take (min s.length limit) <+:
      (excerpt s limit).toList := by
  rw [excerpt, String.toList_ofList]
  exact take_prefix_excerptChars limit s.toList

/- An excerpt is empty only if the text is. -/
theorem excerpt_eq_empty_iff :
    excerpt s limit = "" ↔ s = "" := by
  rcases Nat.lt_or_ge limit s.length with hLong | hShort
  · rw [excerpt_of_lt_length hLong]
    refine iff_of_false (by simp) ?_
    rintro rfl
    exact Nat.not_lt_zero _ hLong
  · rw [excerpt_of_length_le hShort]

end LightningGateway.Text
