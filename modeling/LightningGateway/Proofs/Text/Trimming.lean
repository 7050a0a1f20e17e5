import LightningGateway.Text.Blank

/-
  What trimming leaves of a text, and what stands after a given
  beginning.

  Main results:
    * `trimEndWhile_append`
    * `dropWhile_append_cons`
    * `trimEndWhile_append_cons`
    * `exists_trimEndWhile_append`
    * `trimEndWhile_prefix`
    * `after?_eq_some_iff`
-/

namespace LightningGateway.Text

variable {p : Char → Bool}

/- A text that ends otherwise is not trimmed. -/
theorem trimEndWhile_eq_self
    {cs : List Char}
    (hEnd : ∀ c, cs.getLast? = some c → p c = false) :
    trimEndWhile p cs = cs := by
  rw [trimEndWhile, List.reverse_eq_iff]
  cases hReverse : cs.reverse with
  | nil => rfl
  | cons c rest =>
      have hLast : cs.getLast? = some c := by
        rw [List.getLast?_eq_head?_reverse, hReverse]
        rfl
      rw [List.dropWhile_cons_of_neg (by simp [hEnd c hLast])]

/- Of a text before characters to trim, these are trimmed. -/
theorem trimEndWhile_append
    {cs ds : List Char}
    (hEnd : ∀ c, cs.getLast? = some c → p c = false)
    (hTrim : ∀ d ∈ ds, p d = true) :
    trimEndWhile p (cs ++ ds) = cs := by
  have hAll : ∀ d ∈ ds.reverse, p d = true := by
    intro d hMem
    exact hTrim d (List.mem_reverse.mp hMem)
  have hDrop := trimEndWhile_eq_self hEnd
  rw [trimEndWhile] at hDrop ⊢
  rw [List.reverse_append, List.dropWhile_append_of_pos hAll, hDrop]

/- Nothing is dropped after a character that is kept. -/
theorem dropWhile_append_cons
    {c : Char}
    (hKept : p c = false)
    (cs ds : List Char) :
    (cs ++ c :: ds).dropWhile p = cs.dropWhile p ++ c :: ds := by
  induction cs with
  | nil => exact List.dropWhile_cons_of_neg (by simp [hKept])
  | cons x cs ih =>
      by_cases hDropped : p x = true
      · rw [List.cons_append, List.dropWhile_cons_of_pos hDropped,
          List.dropWhile_cons_of_pos hDropped, ih]
      · rw [List.cons_append, List.dropWhile_cons_of_neg hDropped,
          List.dropWhile_cons_of_neg hDropped, List.cons_append]

/- Nothing is taken after a character that is left. -/
theorem takeWhile_append_cons
    {c : Char}
    (hLeft : p c = false)
    (cs ds : List Char) :
    (cs ++ c :: ds).takeWhile p = cs.takeWhile p := by
  induction cs with
  | nil => exact List.takeWhile_cons_of_neg (by simp [hLeft])
  | cons x cs ih =>
      by_cases hTaken : p x = true
      · rw [List.cons_append, List.takeWhile_cons_of_pos hTaken,
          List.takeWhile_cons_of_pos hTaken, ih]
      · rw [List.cons_append, List.takeWhile_cons_of_neg hTaken,
          List.takeWhile_cons_of_neg hTaken]

/- Trimming does not reach over a character that it keeps. -/
theorem trimEndWhile_append_cons
    {c : Char}
    (hKept : p c = false)
    (cs ds : List Char) :
    trimEndWhile p (cs ++ c :: ds) =
      cs ++ c :: trimEndWhile p ds := by
  rw [trimEndWhile, trimEndWhile, List.reverse_append,
    List.reverse_cons, List.append_assoc, List.singleton_append,
    dropWhile_append_cons hKept, List.reverse_append,
    List.reverse_cons, List.reverse_reverse, List.append_assoc,
    List.singleton_append]

/- The last character that trimming keeps is not to be trimmed. -/
theorem not_of_getLast?_trimEndWhile
    {cs : List Char}
    {c : Char}
    (hLast : (trimEndWhile p cs).getLast? = some c) :
    p c = false := by
  rw [trimEndWhile, List.getLast?_reverse] at hLast
  have hHead := List.head?_dropWhile_not p cs.reverse
  rw [hLast] at hHead
  exact hHead

/- Trimming keeps a beginning. -/
theorem trimEndWhile_prefix
    (p : Char → Bool)
    (cs : List Char) :
    trimEndWhile p cs <+: cs := by
  rw [trimEndWhile, ← List.reverse_suffix, List.reverse_reverse]
  exact List.dropWhile_suffix p

/- What trimming takes is all to be trimmed. -/
theorem exists_trimEndWhile_append
    (p : Char → Bool)
    (cs : List Char) :
    ∃ ds, cs = trimEndWhile p cs ++ ds ∧
      ∀ d ∈ ds, p d = true := by
  refine ⟨(cs.reverse.takeWhile p).reverse, ?_, ?_⟩
  · rw [trimEndWhile, ← List.reverse_append,
      List.takeWhile_append_dropWhile, List.reverse_reverse]
  · intro d hMem
    exact List.all_eq_true.mp List.all_takeWhile d
      (List.mem_reverse.mp hMem)

/- What stands after a beginning is the rest of the text. -/
theorem after?_eq_some_iff
    (start cs rest : List Char) :
    after? start cs = some rest ↔ cs = start ++ rest := by
  induction start generalizing cs with
  | nil =>
      rw [after?, Option.some.injEq, List.nil_append]
  | cons a start ih =>
      cases cs with
      | nil => simp [after?]
      | cons c cs =>
          by_cases hSame : a = c
          · rw [after?, if_pos hSame, ih, hSame, List.cons_append,
              List.cons.injEq, and_iff_right rfl]
          · have hOther : c :: cs ≠ a :: (start ++ rest) := by
              intro hEq
              exact hSame (List.cons.inj hEq).1.symm
            rw [after?, if_neg hSame, List.cons_append]
            exact iff_of_false (by simp) hOther

end LightningGateway.Text
