import LightningGateway.Proofs.Url.Below
import LightningGateway.Proofs.Url.Percent
import Mathlib.Data.List.Basic
import Mathlib.Data.List.Flatten
import Mathlib.Data.List.TakeWhile

/-
  Texts that are one segment of a path.

  A text at the end of a URL is plain if nothing in it is read
  as a part of the URL: no mark, no escape, no blank at its
  end, and not just dots.  The plain texts are those that stand
  for themselves in the last segment of the path.

  Key definitions include:
    * `IsPlain`

  Main results:
    * `IsPlain.segmentsOf_eq`, `IsPlain.tailsOf_eq`
    * `isPlain_of_getLast?`
    * `IsPlain.resolveDots_append`
-/

namespace LightningGateway.Url

------------------------------------------------------------
-- Plain Texts
------------------------------------------------------------

/- The characters that cut a text or are dropped from it. -/
def marks : List Char :=
  ['/', '\\', '?', '#', '\t', '\n', '\r']

/- Whether a text stands for itself in a path. -/
structure IsPlain (cs : List Char) : Prop where
  not_mark : ∀ c ∈ cs, c ∉ marks
  last_kept : ∀ c ∈ cs.getLast?, 0x20 < c.toNat
  not_dot : cs ≠ ['.']
  not_dots : cs ≠ ['.', '.']
  no_escape : Percent.decode cs = Text.Utf8.encodeChars cs

/- What is so of all characters is checked one by one. -/
theorem isPlain_iff (cs : List Char) :
    ((cs.all fun c => !marks.contains c) = true ∧
        (cs.getLast?.all fun c => 0x20 < c.toNat) = true ∧
        cs ≠ ['.'] ∧ cs ≠ ['.', '.'] ∧
        Percent.decode cs = Text.Utf8.encodeChars cs) ↔
      IsPlain cs := by
  have hMarks :
      (cs.all fun c => !marks.contains c) = true ↔
        ∀ c ∈ cs, c ∉ marks := by
    simp
  have hLast :
      (cs.getLast?.all fun c => 0x20 < c.toNat) = true ↔
        ∀ c ∈ cs.getLast?, 0x20 < c.toNat := by
    cases cs.getLast? <;> simp
  rw [hMarks, hLast]
  constructor
  · rintro ⟨hMark, hKept, hDot, hDots, hEscape⟩
    exact ⟨hMark, hKept, hDot, hDots, hEscape⟩
  · rintro ⟨hMark, hKept, hDot, hDots, hEscape⟩
    exact ⟨hMark, hKept, hDot, hDots, hEscape⟩

instance (cs : List Char) : Decidable (IsPlain cs) :=
  decidable_of_iff _ (isPlain_iff cs)

/- A character is no mark if it neither cuts nor is dropped. -/
theorem not_mem_marks_iff (c : Char) :
    c ∉ marks ↔
      isLineChar c = false ∧ endsPath c = false ∧
        Scheme.Kind.special.isSlash c = false := by
  simp only [marks, List.mem_cons, List.not_mem_nil, isLineChar,
    endsPath, Scheme.Kind.isSlash, Scheme.Kind.isSpecial]
  grind

/- A character is kept at an end if it is no blank. -/
theorem isEdge_eq_false_iff (c : Char) :
    isEdge c = false ↔ 0x20 < c.toNat := by
  simp [isEdge]

namespace IsPlain

variable {cs : List Char}

/- A plain text is read as a whole. -/
theorem readChars_eq (hPlain : IsPlain cs) :
    readChars cs = cs := by
  have hEnd : ∀ c, cs.getLast? = some c → isEdge c = false := by
    intro c hLast
    rw [isEdge_eq_false_iff]
    exact hPlain.last_kept c hLast
  rw [readChars, Text.trimEndWhile_eq_self hEnd,
    List.filter_eq_self]
  intro c hMem
  rw [((not_mem_marks_iff c).mp (hPlain.not_mark c hMem)).1]
  rfl

/- All of a plain text belongs to the path. -/
theorem all_inPath (hPlain : IsPlain cs) :
    ∀ c ∈ cs, (!endsPath c) = true := by
  intro c hMem
  rw [((not_mem_marks_iff c).mp (hPlain.not_mark c hMem)).2.1]
  rfl

/- A plain text is one segment. -/
theorem segmentsOf_eq (hPlain : IsPlain cs) :
    segmentsOf cs = [Percent.encode Percent.inPath cs] := by
  have hPath : pathChars cs = cs := by
    rw [pathChars, hPlain.readChars_eq,
      List.takeWhile_eq_self_iff]
    exact hPlain.all_inPath
  have hUncut :
      ∀ c ∈ cs, Scheme.Kind.special.isSlash c = false := by
    intro c hMem
    exact ((not_mem_marks_iff c).mp
      (hPlain.not_mark c hMem)).2.2
  rw [segmentsOf, hPath, Text.splitAll_of_forall hUncut]
  rfl

/- A plain text has no query and no fragment. -/
theorem tailsOf_eq (hPlain : IsPlain cs) :
    tailsOf cs = (none, none) := by
  have hEnds : cs.dropWhile (fun c => !endsPath c) = [] := by
    rw [List.dropWhile_eq_nil_iff]
    exact hPlain.all_inPath
  rw [tailsOf, hPlain.readChars_eq, hEnds]
  rfl

/- The segment of a plain text stands for it. -/
theorem decode_encode (hPlain : IsPlain cs) :
    Percent.decode (Percent.encode Percent.inPath cs) =
      Text.Utf8.encodeChars cs :=
  (Percent.decode_encode Percent.spares_inPath cs).trans
    hPlain.no_escape

/- The segment of a plain text does not mean itself. -/
theorem isSingleDot_eq (hPlain : IsPlain cs) :
    isSingleDot (Percent.encode Percent.inPath cs) = false := by
  cases hDot : isSingleDot (Percent.encode Percent.inPath cs) with
  | false => rfl
  | true =>
      have hSame := Percent.decode_of_isSingleDot hDot
      rw [hPlain.decode_encode] at hSame
      exact absurd (Text.Utf8.encodeChars_inj hSame)
        hPlain.not_dot

/- The segment of a plain text does not mean the one before. -/
theorem isDoubleDot_eq (hPlain : IsPlain cs) :
    isDoubleDot (Percent.encode Percent.inPath cs) = false := by
  cases hDot : isDoubleDot (Percent.encode Percent.inPath cs) with
  | false => rfl
  | true =>
      have hSame := Percent.decode_of_isDoubleDot hDot
      rw [hPlain.decode_encode] at hSame
      exact absurd (Text.Utf8.encodeChars_inj hSame)
        hPlain.not_dots

end IsPlain

------------------------------------------------------------
-- Texts that Stand for Themselves
------------------------------------------------------------

/- A part of a text with as many bytes is the whole text. -/
theorem eq_of_length_encodeChars_le
    {part cs : List Char}
    (hPart : part.Sublist cs)
    (hLength :
      (Text.Utf8.encodeChars cs).length ≤
        (Text.Utf8.encodeChars part).length) :
    part = cs := by
  have hBytes :
      (Text.Utf8.encodeChars part).Sublist
        (Text.Utf8.encodeChars cs) :=
    hPart.flatMap _
  exact Text.Utf8.encodeChars_inj
    (hBytes.eq_of_length_le hLength)

/- What is read of a text is a part of it. -/
theorem readChars_sublist (cs : List Char) :
    (readChars cs).Sublist cs :=
  List.filter_sublist.trans
    (Text.trimEndWhile_prefix isEdge cs).sublist

/- The path in a text is a part of what is read. -/
theorem pathChars_sublist (cs : List Char) :
    (pathChars cs).Sublist (readChars cs) :=
  List.takeWhile_sublist _

/- A text that is one of its own pieces has no marks. -/
theorem not_mark_of_mem_splitAll
    {cs : List Char}
    (hPiece :
      cs ∈ Text.splitAll Scheme.Kind.special.isSlash
        (pathChars cs)) :
    readChars cs = cs ∧ ∀ c ∈ cs, c ∉ marks := by
  rcases Text.mem_splitAll_imp hPiece with ⟨hPart, hUncut⟩
  have hRead : readChars cs = cs :=
    (readChars_sublist cs).antisymm
      (hPart.trans (pathChars_sublist cs))
  have hPath : pathChars cs = cs :=
    ((pathChars_sublist cs).trans
      (readChars_sublist cs)).antisymm hPart
  refine ⟨hRead, ?_⟩
  intro c hMem
  rw [not_mem_marks_iff]
  have hKept : c ∈ readChars cs := by
    rw [hRead]
    exact hMem
  have hTaken : c ∈ pathChars cs := by
    rw [hPath]
    exact hMem
  have hLine := (List.mem_filter.mp hKept).2
  have hEnds := List.mem_takeWhile_imp hTaken
  rw [Bool.not_eq_true'] at hLine hEnds
  exact ⟨hLine, hEnds, hUncut c hMem⟩

/- A text that is read as a whole is not trimmed at its end. -/
theorem last_kept_of_readChars
    {cs : List Char}
    (hRead : readChars cs = cs)
    {c : Char}
    (hLast : cs.getLast? = some c) :
    0x20 < c.toNat := by
  have hTrimmed : Text.trimEndWhile isEdge cs = cs := by
    apply (Text.trimEndWhile_prefix isEdge cs).sublist.antisymm
    have hFilter :
        (readChars cs).Sublist (Text.trimEndWhile isEdge cs) :=
      List.filter_sublist
    rw [hRead] at hFilter
    exact hFilter
  rw [← hTrimmed] at hLast
  rw [← isEdge_eq_false_iff]
  exact Text.not_of_getLast?_trimEndWhile hLast

/-
  If the last segment that is read stands for the whole text,
  then the text is plain: the segment has no more bytes than
  the piece that it comes from.
-/
theorem isPlain_of_getLast?
    {cs seg : List Char}
    {done : List (List Char)}
    (hSome : cs ≠ [])
    (hLast :
      (resolveDots .special done (segmentsOf cs)).getLast? =
        some seg)
    (hDecode : Percent.decode seg = Text.Utf8.encodeChars cs) :
    IsPlain cs := by
  rcases List.eq_nil_or_concat' (segmentsOf cs) with
    hNil | ⟨front, last, hSegments⟩
  · exact absurd hNil (segmentsOf_ne_nil cs)
  rw [hSegments, getLast?_resolveDots, Option.some_inj] at hLast
  have hMem : last ∈ segmentsOf cs := by
    rw [hSegments]
    exact List.mem_concat_self
  rcases List.mem_map.mp hMem with ⟨piece, hPiece, hEncoded⟩
  -- After dots the last segment is empty and stands for nothing.
  have hNoDots :
      isDoubleDot last = false ∧ isSingleDot last = false := by
    rw [← Bool.or_eq_false_iff]
    cases hDots : isDoubleDot last || isSingleDot last with
    | false => rfl
    | true =>
        rw [lastSegment, if_pos hDots] at hLast
        rw [← hLast] at hDecode
        have hEmpty : ([] : List Char) = cs :=
          Text.Utf8.encodeChars_inj hDecode
        exact absurd hEmpty.symm hSome
  have hSeg : last = seg := by
    rw [← hLast, lastSegment, hNoDots.1, hNoDots.2]
    exact (keptSegment_special last).symm
  have hStands :
      Percent.decode piece = Text.Utf8.encodeChars cs := by
    rw [← hDecode, ← hSeg, ← hEncoded,
      Percent.decode_encode Percent.spares_inPath]
  -- No part of the text stands for so many bytes but the whole.
  have hWhole : piece = cs := by
    have hPart := (Text.mem_splitAll_imp hPiece).1
    apply eq_of_length_encodeChars_le
    · exact (hPart.trans (pathChars_sublist cs)).trans
        (readChars_sublist cs)
    · rw [← hStands]
      exact Percent.length_decode_le piece
  subst hWhole
  rcases not_mark_of_mem_splitAll hPiece with ⟨hRead, hUnmarked⟩
  refine ⟨hUnmarked, fun c => last_kept_of_readChars hRead,
    ?_, ?_, hStands⟩
  · rintro rfl
    rw [← hEncoded] at hNoDots
    exact absurd hNoDots.2 (by decide)
  · rintro rfl
    rw [← hEncoded] at hNoDots
    exact absurd hNoDots.1 (by decide)

------------------------------------------------------------
-- Plain Segments before a Slash
------------------------------------------------------------

namespace IsPlain

variable {s : List Char}

/- A plain text before a slash is read as a whole. -/
theorem readChars_append
    (hPlain : IsPlain s)
    (cs : List Char) :
    readChars (s ++ '/' :: cs) = s ++ '/' :: readChars cs := by
  have hFilter : s.filter (fun c => !isLineChar c) = s := by
    rw [List.filter_eq_self]
    intro c hMem
    rw [((not_mem_marks_iff c).mp (hPlain.not_mark c hMem)).1]
    rfl
  rw [readChars, Text.trimEndWhile_append_cons (by decide),
    List.filter_append, hFilter,
    List.filter_cons_of_pos (by decide)]
  rfl

/- A plain text before a slash is a segment. -/
theorem segmentsOf_append
    (hPlain : IsPlain s)
    (cs : List Char) :
    segmentsOf (s ++ '/' :: cs) =
      Percent.encode Percent.inPath s :: segmentsOf cs := by
  have hPath :
      pathChars (s ++ '/' :: cs) = s ++ '/' :: pathChars cs := by
    rw [pathChars, hPlain.readChars_append,
      List.takeWhile_append_of_pos hPlain.all_inPath,
      List.takeWhile_cons_of_pos (by decide)]
    rfl
  have hUncut :
      ∀ c ∈ s, Scheme.Kind.special.isSlash c = false := by
    intro c hMem
    exact ((not_mem_marks_iff c).mp
      (hPlain.not_mark c hMem)).2.2
  rw [segmentsOf, hPath, Text.splitAll_append (by decide),
    Text.splitAll_of_forall hUncut]
  rfl

/- A plain text before a slash has no query and no fragment. -/
theorem tailsOf_append
    (hPlain : IsPlain s)
    (cs : List Char) :
    tailsOf (s ++ '/' :: cs) = tailsOf cs := by
  rw [tailsOf, hPlain.readChars_append,
    List.dropWhile_append_of_pos hPlain.all_inPath,
    List.dropWhile_cons_of_pos (by decide)]
  rfl

/- A plain text before a slash is added to the segments. -/
theorem resolveDots_append
    (hPlain : IsPlain s)
    (done : List (List Char))
    (cs : List Char) :
    resolveDots .special done (segmentsOf (s ++ '/' :: cs)) =
      resolveDots .special
        (Percent.encode Percent.inPath s :: done)
        (segmentsOf cs) := by
  have hEnter :
      enter .special done (Percent.encode Percent.inPath s) =
        Percent.encode Percent.inPath s :: done := by
    rw [enter, hPlain.isDoubleDot_eq, hPlain.isSingleDot_eq,
      keptSegment_special]
    rfl
  rw [hPlain.segmentsOf_append, ← List.singleton_append,
    Url.resolveDots_append _ _ _ (segmentsOf_ne_nil cs),
    List.foldl_cons, hEnter]
  rfl

end IsPlain

end LightningGateway.Url
