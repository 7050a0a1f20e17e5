import LightningGateway.Proofs.Json.Spelling
import LightningGateway.Toml.Document

/-
  How names and values of TOML documents are spelled.

  A name without quotes, a text in quotes and an integer that
  are written as a document writes them are read as what they
  stand for, up to what follows them: a name up to a character
  that belongs to no name, an integer up to the end of the line,
  and a text up to anything but one more quote.

  Key definitions include:
    * `IsBare`
    * `Scalar.Fits`

  Main results:
    * `Quoted.text?_encode`
    * `number?_toDigits`
    * `path?_bare`
    * `Value.read?_chars`
-/

namespace LightningGateway.Toml

------------------------------------------------------------
-- Quoted Texts
------------------------------------------------------------

namespace Quoted

/- The characters that are escaped by one letter. -/
def lettered : List Char :=
  ['"', '\\', '\n', '\r', '\x08', '\x0c']

/-
  A character is escaped by one letter, or stands for itself, or
  is escaped by its code.
-/
theorem escape_cases (c : Char) :
    (∃ e, escape c = ['\\', e] ∧ e ≠ 'u' ∧ e ≠ 'U' ∧
      escaped? e = some c) ∨
    (c ≠ '"' ∧ c ≠ '\\' ∧ isShown c = true ∧ escape c = [c]) ∨
    (c.toNat < 128 ∧
      escape c =
        ['\\', 'u', '0', '0', Nat.digitChar (c.toNat / 16),
          Nat.digitChar (c.toNat % 16)]) := by
  by_cases hLettered : c ∈ lettered
  · left
    simp only [lettered, List.mem_cons, List.not_mem_nil,
      or_false] at hLettered
    rcases hLettered with rfl | rfl | rfl | rfl | rfl | rfl <;>
      exact ⟨_, rfl, by decide, by decide, rfl⟩
  · right
    simp only [lettered, List.mem_cons, List.not_mem_nil,
      or_false, not_or] at hLettered
    rcases hLettered with ⟨hQuote, hSlash, h10, h13, h8, h12⟩
    unfold escape
    rw [if_neg hQuote, if_neg hSlash, if_neg h10, if_neg h13,
      if_neg h8, if_neg h12]
    by_cases hShown : isShown c = true
    · exact .inl ⟨hQuote, hSlash, hShown, if_pos hShown⟩
    · refine .inr ⟨?_, if_neg hShown⟩
      simp only [isShown, Bool.or_eq_true, beq_iff_eq,
        Bool.and_eq_true, decide_eq_true_eq, bne_iff_ne]
        at hShown
      omega

/- A code below 128 is read as its character. -/
theorem point?_code
    {c : Char}
    (hSmall : c.toNat < 128) :
    point? ['0', '0', Nat.digitChar (c.toNat / 16),
        Nat.digitChar (c.toNat % 16)] =
      some c := by
  have hAll :
      ∀ k : Fin 128,
        point? ['0', '0', Nat.digitChar (k.val / 16),
            Nat.digitChar (k.val % 16)] =
          some (Char.ofNat k.val) := by
    decide +kernel
  rw [hAll ⟨c.toNat, hSmall⟩, Char.ofNat_toNat]

/- A character is read as it was escaped. -/
theorem line?_escape
    (c : Char)
    (rest : List Char) :
    line? .double 0 (escape c ++ rest) =
      prepend c (line? .double 0 rest) := by
  rcases escape_cases c with
    ⟨e, hChars, hShort, hLong, hKnown⟩ |
      ⟨hQuote, hSlash, hShown, hChars⟩ | ⟨hSmall, hChars⟩
  · have hRead : escape? (e :: rest) = some (c, 1) := by
      rw [escape?]
      · rw [hKnown]
        rfl
      · exact hShort
      · exact hLong
    rw [hChars]
    simp only [List.cons_append, List.nil_append, line?,
      Quoting.mark, hRead]
    rfl
  · rw [hChars]
    simp only [List.cons_append, List.nil_append, line?,
      Quoting.mark, hQuote, hSlash, hShown, false_and, if_false,
      if_true]
  · have hRead :
        escape? ('u' :: '0' :: '0' ::
            Nat.digitChar (c.toNat / 16) ::
            Nat.digitChar (c.toNat % 16) :: rest) =
          some (c, 5) := by
      simp only [escape?, List.length_cons, List.take_succ_cons,
        List.take_zero, point?_code hSmall]
      rw [if_neg (by omega)]
      rfl
    rw [hChars]
    simp only [List.cons_append, List.nil_append, line?,
      Quoting.mark, hRead]
    rfl

/- So are all characters of a text, up to the quote after them. -/
theorem line?_escapes
    (cs rest : List Char) :
    line? .double 0 (cs.flatMap escape ++ '"' :: rest) =
      some (cs, rest) := by
  induction cs with
  | nil => rfl
  | cons c cs ih =>
      rw [List.flatMap_cons, List.append_assoc, line?_escape, ih]
      rfl

/- No escaped character begins with a quote. -/
theorem exists_escape_cons (c : Char) :
    ∃ d ds, escape c = d :: ds ∧ d ≠ '"' := by
  rcases escape_cases c with
    ⟨_, hChars, _, _, _⟩ | ⟨hQuote, _, _, hChars⟩ | ⟨_, hChars⟩
  · exact ⟨_, _, hChars, by decide⟩
  · exact ⟨_, _, hChars, hQuote⟩
  · exact ⟨_, _, hChars, by decide⟩

/- Two quotes at once do not begin what is between quotes. -/
theorem escapes_ne_quotes
    {cs rest more : List Char}
    (hRest : rest.head? ≠ some '"') :
    cs.flatMap escape ++ '"' :: rest ≠ '"' :: '"' :: more := by
  cases cs with
  | nil =>
      rintro hSame
      cases hSame
      exact hRest rfl
  | cons c cs =>
      rcases exists_escape_cons c with ⟨d, ds, hChars, hOther⟩
      rw [List.flatMap_cons, hChars, List.append_assoc,
        List.cons_append]
      exact fun hSame => hOther (List.cons.inj hSame).1

/- A quoted text is read, if no quote follows it. -/
theorem text?_encode
    (s : String)
    {rest : List Char}
    (hRest : rest.head? ≠ some '"') :
    text? (encode s ++ rest) = some (s, rest) := by
  have hBody :
      body? .double (s.toList.flatMap escape ++ '"' :: rest) =
        some (s.toList, rest) := by
    unfold body?
    split
    · next a b more hChars =>
        rw [if_neg]
        · exact line?_escapes s.toList rest
        · rintro ⟨rfl, rfl⟩
          exact escapes_ne_quotes hRest hChars
    · exact line?_escapes s.toList rest
  rw [encode, List.cons_append, List.append_assoc,
    List.singleton_append, text?, hBody]
  simp only [Option.map_some, toText, String.ofList_toList]

end Quoted

------------------------------------------------------------
-- Integers
------------------------------------------------------------

section Digits

variable {ds rest : List Char}

/- Digits are read up to the end of the line. -/
theorem run_digits
    (hDigits : ∀ c ∈ ds, c.isDigit = true) :
    run Char.isDigit (ds ++ '\n' :: rest) =
      (ds, '\n' :: rest) := by
  induction ds with
  | nil => rfl
  | cons d ds ih =>
      rw [List.forall_mem_cons] at hDigits
      simp only [List.cons_append, run, hDigits.1, if_true,
        ih hDigits.2]

/- A point in time does not go on like a number. -/
theorem after?_of_fixed?
    {n lo hi v : Nat}
    {c : Char}
    {more : List Char}
    (hDigits : ∀ d ∈ ds, d.isDigit = true)
    (hMark : c.isDigit = false)
    (hLine : c ≠ '\n')
    (hFixed :
      fixed? n lo hi (ds ++ '\n' :: rest) = some (v, more)) :
    after? c more = none := by
  simp only [fixed?, Option.ite_none_right_eq_some,
    Option.some.injEq, Prod.mk.injEq] at hFixed
  rcases hFixed with ⟨⟨_, hAll⟩, _, _, rfl⟩
  by_cases hLess : n ≤ ds.length
  · rw [List.drop_append_of_le_length hLess]
    cases hRest : ds.drop n with
    | nil => exact if_neg (Ne.symm hLine)
    | cons d more =>
        have hMem : d ∈ ds := by
          apply List.mem_of_mem_drop (i := n)
          rw [hRest]
          exact .head more
        apply if_neg
        rintro rfl
        rw [hDigits d hMem] at hMark
        cases hMark
  · -- The end of the line would be a digit.
    have hEnd :
        '\n' ∈ (ds ++ '\n' :: rest).take n := by
      rw [List.take_append, List.mem_append]
      right
      rcases Nat.exists_eq_add_of_lt (Nat.lt_of_not_le hLess) with
        ⟨k, rfl⟩
      rw [Nat.add_assoc, Nat.add_sub_cancel_left,
        List.take_succ_cons]
      exact .head _
    have hDigit := List.all_eq_true.mp hAll _ hEnd
    cases hDigit

/- So a number is no point in time. -/
theorem Moment.read?_digits
    (hDigits : ∀ d ∈ ds, d.isDigit = true) :
    Moment.read? (ds ++ '\n' :: rest) = none := by
  have hDate : Date.read? (ds ++ '\n' :: rest) = none := by
    unfold Date.read?
    cases hYear : fixed? 4 0 9999 (ds ++ '\n' :: rest) with
    | none => rfl
    | some p =>
        have hMore := after?_of_fixed? (c := '-') hDigits
          (by decide) (by decide) hYear
        simp only [Option.bind_eq_bind, Option.bind_some, hMore,
          Option.bind_none]
  have hClock : Clock.read? (ds ++ '\n' :: rest) = none := by
    unfold Clock.read?
    cases hHour : fixed? 2 0 23 (ds ++ '\n' :: rest) with
    | none => rfl
    | some p =>
        have hMore := after?_of_fixed? (c := ':') hDigits
          (by decide) (by decide) hHour
        simp only [Option.bind_eq_bind, Option.bind_some, hMore,
          Option.bind_none]
  rw [Moment.read?, hDate, hClock]
  rfl

end Digits

/- The digits of a number spell it. -/
theorem ofDigits_toDigits (n : Nat) :
    ofDigits 10 (Nat.toDigits 10 n) = n := by
  have hSame (m : Nat) {ds : List Char}
      (hDigits : ∀ d ∈ ds, d.isDigit = true) :
      ds.foldl
          (fun n c => 10 * n + (Text.Hex.value? c).getD 0) m =
        (ds.map Json.digitValue).foldl
          (fun n d => 10 * n + d) m := by
    induction ds generalizing m with
    | nil => rfl
    | cons d ds ih =>
        rw [List.forall_mem_cons] at hDigits
        have hValue :
            (Text.Hex.value? d).getD 0 = Json.digitValue d := by
          have hRange : 48 ≤ d.toNat ∧ d.toNat ≤ 57 :=
            Char.isDigit_iff_toNat.mp hDigits.1
          rw [Text.Hex.value?, if_pos hRange]
          rfl
        rw [List.foldl_cons, List.map_cons, List.foldl_cons,
          hValue, ih _ hDigits.2]
  exact (hSame 0 fun _ => Json.isDigit_of_mem_toDigits).trans
    (Json.ofDigits_toDigits n)

/- The digits of a number have no zero in front of others. -/
theorem whole?_toDigits
    (n : Nat)
    (rest : List Char) :
    Numeral.whole? (Nat.toDigits 10 n ++ '\n' :: rest) =
      some (Nat.toDigits 10 n, '\n' :: rest) := by
  rcases Nat.eq_zero_or_pos n with rfl | hPositive
  · rfl
  · have hHead := Json.head?_toDigits hPositive
    have hRun :
        run Char.isDigit (Nat.toDigits 10 n ++ '\n' :: rest) =
          (Nat.toDigits 10 n, '\n' :: rest) :=
      run_digits fun _ => Json.isDigit_of_mem_toDigits
    rcases Json.exists_digit_cons n with ⟨d, ds, hDigits, hDigit⟩
    rw [hDigits] at hHead hRun ⊢
    rw [List.cons_append] at hRun ⊢
    unfold Numeral.whole?
    split
    · next hZero =>
        cases hZero
        exact absurd rfl hHead
    · rw [run?, if_pos hDigit, hRun]

/- No letter follows a zero at the beginning. -/
theorem toDigits_ne_based
    {n : Nat}
    {c : Char}
    (hLine : c ≠ '\n')
    (rest more : List Char) :
    Nat.toDigits 10 n ++ '\n' :: rest ≠ '0' :: c :: more := by
  intro hSame
  rcases Nat.eq_zero_or_pos n with rfl | hPositive
  · cases hSame
    exact hLine rfl
  · rcases Json.exists_digit_cons n with ⟨d, ds, hDigits, _⟩
    have hHead := Json.head?_toDigits hPositive
    rw [hDigits] at hHead hSame
    exact hHead (congrArg some (List.cons.inj hSame).1)

/- A digit is no sign. -/
theorem sign_digit
    {d : Char}
    (hDigit : d.isDigit = true)
    (cs : List Char) :
    sign (d :: cs) = (none, d :: cs) := by
  unfold sign
  split
  · next hPlus =>
      cases hPlus
      cases hDigit
  · next hMinus =>
      cases hMinus
      cases hDigit
  · rfl

/- A number without a sign is read in digits. -/
theorem decimal?_toDigits
    {n : Nat}
    (hFits : n < integerLimit)
    (rest : List Char) :
    decimal? (Nat.toDigits 10 n ++ '\n' :: rest) =
      some (.int n, '\n' :: rest) := by
  have hWhole := whole?_toDigits n rest
  have hRead :
      Numeral.read? false (Nat.toDigits 10 n ++ '\n' :: rest) =
        some (⟨false, Nat.toDigits 10 n, none, none⟩,
          '\n' :: rest) := by
    rw [Numeral.read?, hWhole]
    rfl
  have hValue (spelling : List Char) :
      (⟨false, Nat.toDigits 10 n, none, none⟩ : Numeral).value?
          spelling =
        some (.int n) := by
    simp only [Numeral.value?, Option.isNone_none, Bool.and_self,
      if_true, ofDigits_toDigits, Bool.false_eq_true, if_false,
      if_pos hFits]
  rcases Json.exists_digit_cons n with ⟨d, ds, hDigits, hDigit⟩
  rw [hDigits, List.cons_append] at hRead ⊢
  simp only [decimal?, sign_digit hDigit]
  split
  · next hInf =>
      rw [(List.cons.inj hInf).1] at hDigit
      cases hDigit
  · next hNan =>
      rw [(List.cons.inj hNan).1] at hDigit
      cases hDigit
  · rw [Option.getD_none, hRead, ← hDigits]
    simp only [hValue, Option.map_some]

/- A natural number that fits is read. -/
theorem number?_toDigits
    {n : Nat}
    (hFits : n < integerLimit)
    (rest : List Char) :
    number? (Nat.toDigits 10 n ++ '\n' :: rest) =
      some (.int n, '\n' :: rest) := by
  unfold number?
  split
  · next hBase =>
      exact absurd hBase (toDigits_ne_based (by decide) _ _)
  · next hBase =>
      exact absurd hBase (toDigits_ne_based (by decide) _ _)
  · next hBase =>
      exact absurd hBase (toDigits_ne_based (by decide) _ _)
  · exact decimal?_toDigits hFits rest

------------------------------------------------------------
-- Names
------------------------------------------------------------

/- Whether a name needs no quotes. -/
def IsBare (name : String) : Prop :=
  name.toList ≠ [] ∧ name.toList.all isKeyChar = true

instance (name : String) : Decidable (IsBare name) :=
  inferInstanceAs (Decidable (_ ∧ _))

/- A name without quotes begins with a character of names. -/
theorem IsBare.exists_cons
    {name : String}
    (hBare : IsBare name) :
    ∃ c cs, name.toList = c :: cs ∧ isKeyChar c = true ∧
      ∀ d ∈ cs, isKeyChar d = true := by
  cases hChars : name.toList with
  | nil => exact absurd hChars hBare.1
  | cons c cs =>
      have hAll := hBare.2
      rw [hChars, List.all_eq_true, List.forall_mem_cons] at hAll
      exact ⟨c, cs, rfl, hAll⟩

/- A name is read up to what belongs to no name. -/
theorem name?_bare
    {name : String}
    {c : Char}
    (hBare : IsBare name)
    (hEnd : isKeyChar c = false)
    (rest : List Char) :
    name? (name.toList ++ c :: rest) = some (name, c :: rest) := by
  rcases hBare.exists_cons with ⟨d, ds, hChars, hFirst, hAll⟩
  have hPlain : ¬(d = '"' ∨ d = '\'') := by
    rintro (rfl | rfl) <;> cases hFirst
  rw [hChars, List.cons_append, name?, if_neg hPlain,
    if_pos hFirst, List.takeWhile_append_of_pos hAll,
    List.dropWhile_append_of_pos hAll,
    List.takeWhile_cons_of_neg (by simp [hEnd]),
    List.dropWhile_cons_of_neg (by simp [hEnd]),
    List.append_nil, ← hChars, String.ofList_toList]

/- A name is not led in by blanks. -/
theorem skipBlanks_bare
    {name : String}
    (hBare : IsBare name)
    (rest : List Char) :
    skipBlanks (name.toList ++ rest) = name.toList ++ rest := by
  rcases hBare.exists_cons with ⟨d, ds, hChars, hFirst, _⟩
  have hShown : ¬isBlank d = true := by
    intro hBlank
    simp only [isBlank, Bool.or_eq_true, beq_iff_eq] at hBlank
    rcases hBlank with rfl | rfl <;> cases hFirst
  rw [hChars, List.cons_append, skipBlanks,
    List.dropWhile_cons_of_neg hShown]

/- A name alone is a key, with blanks after it or without. -/
theorem path?_bare
    {name : String}
    {c : Char}
    (hBare : IsBare name)
    (hEnd : isKeyChar c = false)
    (rest : List Char)
    (hPoint : (skipBlanks (c :: rest)).head? ≠ some '.') :
    path? (name.toList ++ c :: rest) =
      some (⟨[], name⟩, skipBlanks (c :: rest)) := by
  have hNames :
      names? (keyLimit - 1) (name.toList ++ c :: rest) =
        some ([name], skipBlanks (c :: rest)) := by
    rw [keyLimit, names?, skipBlanks_bare hBare,
      name?_bare hBare hEnd]
    simp only [Option.bind_eq_bind, Option.bind_some]
    split
    · next hDot =>
        rw [hDot] at hPoint
        exact absurd rfl hPoint
    · rfl
  rw [path?, hNames]
  rfl

------------------------------------------------------------
-- Values
------------------------------------------------------------

/- Whether a value can be read where it is written. -/
def Scalar.Fits : Scalar → Prop
  | .text _ => True
  | .int n => 0 ≤ n ∧ n < (integerLimit : Int)

/- A text or a number is no list and no table in braces. -/
theorem Value.read?_eq_scalar?
    {c : Char}
    (hList : c ≠ '[')
    (hTable : c ≠ '\x7b')
    (cs : List Char) :
    Value.read? (c :: cs) = scalar? (c :: cs) := by
  rw [Value.read?, depthLimit, readWithin?]
  · exact fun _ hSame => hList (List.cons.inj hSame).1
  · exact fun _ hSame => hTable (List.cons.inj hSame).1

/- A text is read up to the end of its line. -/
theorem Value.read?_text
    (s : String)
    (rest : List Char) :
    Value.read? (Quoted.encode s ++ '\n' :: rest) =
      some (.text s, '\n' :: rest) := by
  have hText :
      Quoted.text? (Quoted.encode s ++ '\n' :: rest) =
        some (s, '\n' :: rest) :=
    Quoted.text?_encode s (by simp)
  rw [Quoted.encode, List.cons_append] at hText ⊢
  rw [Value.read?_eq_scalar? (by decide) (by decide), scalar?,
    if_pos (.inl rfl), hText]
  · rfl
  · intro _ hSame
    cases hSame
  · intro _ hSame
    cases hSame

/- So is a number. -/
theorem Value.read?_toDigits
    {n : Nat}
    (hFits : n < integerLimit)
    (rest : List Char) :
    Value.read? (Nat.toDigits 10 n ++ '\n' :: rest) =
      some (.int n, '\n' :: rest) := by
  have hNumber := number?_toDigits hFits rest
  have hMoment :
      Moment.read? (Nat.toDigits 10 n ++ '\n' :: rest) = none :=
    Moment.read?_digits fun _ => Json.isDigit_of_mem_toDigits
  rcases Json.exists_digit_cons n with ⟨d, ds, hDigits, hDigit⟩
  have hOther {c : Char} (hMark : c.isDigit = false) : d ≠ c := by
    rintro rfl
    rw [hDigit] at hMark
    cases hMark
  rw [hDigits, List.cons_append] at hNumber hMoment ⊢
  rw [Value.read?_eq_scalar? (hOther (by decide))
      (hOther (by decide)),
    scalar?, if_neg, hMoment]
  · exact hNumber
  · rintro (hQuote | hQuote)
    · exact hOther (by decide) hQuote
    · exact hOther (by decide) hQuote
  · exact fun _ hSame _ => hOther (by decide) hSame
  · exact fun _ hSame _ => hOther (by decide) hSame

/- A value on the line of its name is read up to its end. -/
theorem Value.read?_chars
    {v : Scalar}
    (hFits : v.Fits)
    (rest : List Char) :
    Value.read? (v.chars ++ '\n' :: rest) =
      some (v.value, '\n' :: rest) := by
  cases v with
  | text s => exact Value.read?_text s rest
  | int n =>
      rcases Int.eq_ofNat_of_zero_le hFits.1 with ⟨k, rfl⟩
      have hLess : k < integerLimit := Int.ofNat_lt.mp hFits.2
      have hChars : (Scalar.int k).chars = Nat.toDigits 10 k :=
        Nat.toList_repr
      rw [hChars]
      exact Value.read?_toDigits hLess rest

end LightningGateway.Toml
