import LightningGateway.Proofs.Text.Trimming
import LightningGateway.Url.Reading
import Mathlib.Data.List.TakeWhile

/-
  URLs below a URL.

  A text that is written after a URL with a final slash adds
  segments to the path of the URL, unless the URL has a query
  or a fragment, in which the text then ends up.  Of the text
  itself, slashes, dots, marks and blanks are read as parts of
  the URL.

  Key definitions include:
    * `enter`
    * `readChars`, `pathChars`
    * `startChars`
    * `segmentsOf`, `tailsOf`
    * `ofKeptChars`

  Main results:
    * `splitAll_append`
    * `resolveDots_append`
    * `authority_of_ofChars`
    * `ofChars_below`
-/

namespace LightningGateway

------------------------------------------------------------
-- Pieces
------------------------------------------------------------

namespace Text

variable {α : Type} {p : α → Bool}

/- A text is cut where the parts of it are cut. -/
theorem splitAll_append
    {c : α}
    (hCut : p c = true)
    (xs ys : List α) :
    splitAll p (xs ++ c :: ys) =
      splitAll p xs ++ splitAll p ys := by
  induction xs with
  | nil => exact if_pos hCut
  | cons x xs ih =>
      rw [List.cons_append, splitAll, splitAll, ih]
      by_cases hPiece : p x = true
      · rw [if_pos hPiece, if_pos hPiece, List.cons_append]
      · rw [if_neg hPiece, if_neg hPiece]
        cases hRest : splitAll p xs with
        | nil => exact absurd hRest (splitAll_ne_nil p xs)
        | cons piece more => rfl

/- A text without cuts is one piece. -/
theorem splitAll_of_forall
    {xs : List α}
    (hUncut : ∀ x ∈ xs, p x = false) :
    splitAll p xs = [xs] := by
  induction xs with
  | nil => rfl
  | cons x xs ih =>
      have hFirst : ¬p x = true := by
        simp [hUncut x (.head xs)]
      rw [splitAll, if_neg hFirst,
        ih fun y hMem => hUncut y (.tail x hMem)]

/- A piece is a part of the text in which nothing is cut. -/
theorem mem_splitAll_imp
    {xs piece : List α}
    (hPiece : piece ∈ splitAll p xs) :
    piece.Sublist xs ∧ ∀ x ∈ piece, p x = false := by
  have hNone : ∀ x ∈ ([] : List α), p x = false := by
    intro x hMem
    exact absurd hMem List.not_mem_nil
  induction xs generalizing piece with
  | nil =>
      rw [splitAll, List.mem_singleton] at hPiece
      rw [hPiece]
      exact ⟨List.nil_sublist [], hNone⟩
  | cons x xs ih =>
      rw [splitAll] at hPiece
      by_cases hCut : p x = true
      · rw [if_pos hCut, List.mem_cons] at hPiece
        rcases hPiece with rfl | hLater
        · exact ⟨List.nil_sublist _, hNone⟩
        · rcases ih hLater with ⟨hPart, hUncut⟩
          exact ⟨hPart.cons x, hUncut⟩
      · rw [if_neg hCut] at hPiece
        cases hRest : splitAll p xs with
        | nil => exact absurd hRest (splitAll_ne_nil p xs)
        | cons first more =>
            rw [hRest] at hPiece ih
            rcases List.mem_cons.mp hPiece with rfl | hLater
            · rcases ih (.head more) with ⟨hPart, hUncut⟩
              refine ⟨hPart.cons_cons x, ?_⟩
              intro y hMem
              rcases List.mem_cons.mp hMem with rfl | hMore
              · exact eq_false_of_ne_true hCut
              · exact hUncut y hMore
            · rcases ih (.tail first hLater) with
                ⟨hPart, hUncut⟩
              exact ⟨hPart.cons x, hUncut⟩

end Text

namespace Url

------------------------------------------------------------
-- Dots
------------------------------------------------------------

/- The segments before, after one that is not the last. -/
def enter
    (k : Scheme.Kind)
    (done : List (List Char))
    (s : List Char) : List (List Char) :=
  if isDoubleDot s then dropSegment k done
  else if isSingleDot s then done
  else keptSegment k s :: done

/- Segments are resolved one after the other. -/
theorem resolveDots_append
    (k : Scheme.Kind)
    (done raw : List (List Char))
    {later : List (List Char)}
    (hMore : later ≠ []) :
    resolveDots k done (raw ++ later) =
      resolveDots k (raw.foldl (enter k) done) later := by
  induction raw generalizing done with
  | nil => rfl
  | cons s raw ih =>
      cases hRest : raw ++ later with
      | nil =>
          rw [List.append_eq_nil_iff] at hRest
          exact absurd hRest.2 hMore
      | cons t rest =>
          rw [List.cons_append, List.foldl_cons, ← ih, hRest,
            resolveDots, enter]
          · split
            · rfl
            · split <;> rfl
          · exact nofun

/- The last segment is empty after dots. -/
def lastSegment
    (k : Scheme.Kind)
    (s : List Char) : List Char :=
  if isDoubleDot s || isSingleDot s then []
  else keptSegment k s

/- The last segment of a path is the last one that is written. -/
theorem getLast?_resolveDots
    (k : Scheme.Kind)
    (done raw : List (List Char))
    (s : List Char) :
    (resolveDots k done (raw ++ [s])).getLast? =
      some (lastSegment k s) := by
  rw [resolveDots_append k done raw (List.cons_ne_nil s [])]
  unfold resolveDots lastSegment
  cases isDoubleDot s <;> cases isSingleDot s <;> simp

/- A segment without dots is added at the end. -/
theorem resolveDots_singleton
    {k : Scheme.Kind}
    {s : List Char}
    (hDouble : isDoubleDot s = false)
    (hSingle : isSingleDot s = false)
    (done : List (List Char)) :
    resolveDots k done [s] =
      done.reverse ++ [keptSegment k s] := by
  rw [resolveDots, hDouble, hSingle]
  simp

/- Only the schemes of files have drives. -/
theorem keptSegment_special (s : List Char) :
    keptSegment .special s = s :=
  if_neg (by simp)

------------------------------------------------------------
-- The End of a Text
------------------------------------------------------------

/- What is read of the end of a text. -/
def readChars (cs : List Char) : List Char :=
  (Text.trimEndWhile isEdge cs).filter fun c => !isLineChar c

/- The path in the end of a text. -/
def pathChars (cs : List Char) : List Char :=
  (readChars cs).takeWhile fun c => !endsPath c

/- The query and the fragment in the end of a text. -/
def tailsOf
    (cs : List Char) :
    Option (List Char) × Option (List Char) :=
  tails .special ((readChars cs).dropWhile fun c => !endsPath c)

/- The segments in the end of a text, as they are written. -/
def segmentsOf (cs : List Char) : List (List Char) :=
  (Text.splitAll Scheme.Kind.special.isSlash (pathChars cs)).map
    (Percent.encode Percent.inPath)

/- There is always a segment. -/
theorem segmentsOf_ne_nil (cs : List Char) :
    segmentsOf cs ≠ [] := by
  unfold segmentsOf
  rw [ne_eq, List.map_eq_nil_iff]
  exact Text.splitAll_ne_nil _ _

------------------------------------------------------------
-- Reading behind a Slash
------------------------------------------------------------

/- What is read of the start of a text. -/
def startChars (cs : List Char) : List Char :=
  (cs.dropWhile isEdge).filter fun c => !isLineChar c

/- Read a text of which nothing is dropped any more. -/
def ofKeptChars (cs : List Char) : Except UrlError Url :=
  match Scheme.split? cs with
  | none => .error .noScheme
  | some (scheme, rest) =>
      match Scheme.kind scheme with
      | .file => readFile scheme rest
      | .special =>
          readWithAuthority scheme
            (rest.dropWhile Scheme.Kind.special.isSlash)
      | .other => readOther scheme rest

/- What is dropped before a slash is apart from what is after. -/
theorem ofChars_append
    (start cs : List Char) :
    ofChars (start ++ '/' :: cs) =
      ofKeptChars (startChars start ++ '/' :: readChars cs) := by
  have hEdge : isEdge '/' = false := by decide
  have hDropped := Text.dropWhile_append_cons hEdge start cs
  have hTrimmed :=
    Text.trimEndWhile_append_cons hEdge
      (start.dropWhile isEdge) cs
  have hFilter :
      (start.dropWhile isEdge ++
          '/' :: Text.trimEndWhile isEdge cs).filter
          (fun c => !isLineChar c) =
        startChars start ++ '/' :: readChars cs := by
    rw [List.filter_append, List.filter_cons_of_pos (by decide)]
    rfl
  rw [ofChars, hDropped, hTrimmed, hFilter]
  rfl

/- A scheme is what stands before a colon, after a letter. -/
theorem Scheme.split?_eq_some_iff
    {cs scheme rest : List Char} :
    Scheme.split? cs = some (scheme, rest) ↔
      ∃ c name, cs = c :: name ++ ':' :: rest ∧
        c.isAlpha = true ∧
        (∀ d ∈ c :: name, isSchemeChar d = true) ∧
        scheme = (c :: name).map Char.toLower := by
  have hColon : isSchemeChar ':' = false := by decide
  constructor
  · intro hSplit
    cases cs with
    | nil => cases hSplit
    | cons c cs =>
        unfold Scheme.split? at hSplit
        simp only at hSplit
        split at hSplit
        case isFalse hAlpha => cases hSplit
        case isTrue hAlpha =>
          have hFirst : isSchemeChar c = true := by
            simp [isSchemeChar, Char.isAlphanum, hAlpha]
          split at hSplit
          case h_2 => cases hSplit
          case h_1 more hDrop =>
            cases hSplit
            have hWhole :=
              @List.takeWhile_append_dropWhile _ isSchemeChar
                (c :: cs)
            rw [hDrop] at hWhole
            rw [List.takeWhile_cons_of_pos hFirst]
              at hWhole ⊢
            refine ⟨c, _, hWhole.symm, hAlpha, ?_, rfl⟩
            intro d hMem
            rw [← List.takeWhile_cons_of_pos hFirst] at hMem
            exact List.mem_takeWhile_imp hMem
  · rintro ⟨c, name, rfl, hAlpha, hName, rfl⟩
    have hTaken :
        (c :: name ++ ':' :: rest).takeWhile isSchemeChar =
          c :: name := by
      rw [List.takeWhile_append_of_pos hName,
        List.takeWhile_cons_of_neg (by simp [hColon]), List.append_nil]
    have hDropped :
        (c :: name ++ ':' :: rest).dropWhile isSchemeChar =
          ':' :: rest := by
      rw [List.dropWhile_append_of_pos hName,
        List.dropWhile_cons_of_neg (by simp [hColon])]
    unfold Scheme.split?
    rw [List.cons_append] at hTaken hDropped ⊢
    simp only [hTaken, hDropped, if_pos hAlpha]

/- More text behind a scheme that is found does not change it. -/
theorem split?_append_of_eq_some
    {cs scheme rest : List Char}
    (hSplit : Scheme.split? cs = some (scheme, rest))
    (more : List Char) :
    Scheme.split? (cs ++ more) = some (scheme, rest ++ more) := by
  rw [Scheme.split?_eq_some_iff] at hSplit ⊢
  rcases hSplit with ⟨c, name, rfl, hAlpha, hName, hScheme⟩
  exact ⟨c, name, by simp, hAlpha, hName, hScheme⟩

/- The scheme is found before a slash, or not at all. -/
theorem split?_append
    (start cs : List Char) :
    Scheme.split? (start ++ '/' :: cs) =
      (Scheme.split? start).map fun (scheme, rest) =>
        (scheme, rest ++ '/' :: cs) := by
  have hSlash : Scheme.isSchemeChar '/' = false := by decide
  cases start with
  | nil => rfl
  | cons c start =>
      have hTaken :=
        Text.takeWhile_append_cons hSlash (c :: start) cs
      have hDropped :=
        Text.dropWhile_append_cons hSlash (c :: start) cs
      rw [List.cons_append] at hTaken hDropped ⊢
      unfold Scheme.split?
      simp only [hTaken, hDropped]
      by_cases hAlpha : c.isAlpha = true
      · simp only [if_pos hAlpha]
        cases (c :: start).dropWhile Scheme.isSchemeChar with
        | nil => rfl
        | cons d rest =>
            by_cases hColon : d = ':'
            · subst hColon
              rfl
            · simp [hColon]
      · simp only [if_neg hAlpha]
        rfl

/- Of what comes after an authority, only its presence counts. -/
theorem readAuthority_congr
    (scheme cs : List Char)
    {before after : List Char}
    (hBefore : before ≠ [])
    (hAfter : after ≠ []) :
    readAuthority scheme cs before =
      readAuthority scheme cs after := by
  unfold readAuthority
  simp [hBefore, hAfter]

/- A special URL has a host. -/
theorem readAuthority_nil
    {scheme : List Char}
    (hKind : Scheme.kind scheme = .special)
    (after : List Char) :
    readAuthority scheme [] after = .error .emptyHost := by
  unfold readAuthority
  simp [splitUser?, splitHost, readHost, hKind,
    Scheme.Kind.isSpecial, bind, Except.bind]

/- A URL with an authority is what its authority and its rest say. -/
theorem readWithAuthority_eq
    (scheme cs : List Char) :
    readWithAuthority scheme cs =
      let k := Scheme.kind scheme
      let body := cs.takeWhile fun c => !endsPath c
      let text := body.takeWhile fun c => !k.isSlash c
      let ends := tails k (cs.dropWhile fun c => !endsPath c)
      (readAuthority scheme text (cs.drop text.length)).map
        fun (a, more) =>
          ⟨scheme, some a,
            pathAfterAuthority k
              (more ++ body.dropWhile fun c => !k.isSlash c),
            ends.1, ends.2⟩ := by
  unfold readWithAuthority
  simp only
  cases readAuthority scheme _ _ <;> rfl

/- The segments before the last slash, resolved. -/
def doneOf (cs : List Char) : List (List Char) :=
  let raw :=
    match cs with
    | [] => []
    | c :: rest =>
        Text.splitAll Scheme.Kind.special.isSlash
          (if Scheme.Kind.special.isSlash c then rest else cs)
  (raw.map (Percent.encode Percent.inPath)).foldl
    (enter .special) []

/- A path goes on after a slash where it was. -/
theorem rootedPath_append
    (start cs : List Char) :
    rootedPath .special (start ++ '/' :: cs) =
      .segments (resolveDots .special (doneOf start)
        ((Text.splitAll Scheme.Kind.special.isSlash cs).map
          (Percent.encode Percent.inPath))) := by
  have hSlash : Scheme.Kind.special.isSlash '/' = true := by
    decide
  have hNormal (xs : List Char) :
      normalSegments .special (xs ++ '/' :: cs) =
        resolveDots .special
          (((Text.splitAll Scheme.Kind.special.isSlash xs).map
            (Percent.encode Percent.inPath)).foldl
              (enter .special) [])
          ((Text.splitAll Scheme.Kind.special.isSlash cs).map
            (Percent.encode Percent.inPath)) := by
    have hMore :
        (Text.splitAll Scheme.Kind.special.isSlash cs).map
          (Percent.encode Percent.inPath) ≠ [] := by
      rw [ne_eq, List.map_eq_nil_iff]
      exact Text.splitAll_ne_nil _ cs
    rw [← resolveDots_append _ _ _ hMore, ← List.map_append,
      ← Text.splitAll_append hSlash]
    rfl
  cases start with
  | nil => rfl
  | cons c rest =>
      rw [List.cons_append, rootedPath]
      by_cases hFirst : Scheme.Kind.special.isSlash c = true
      · rw [if_pos hFirst, hNormal, doneOf]
        simp only [if_pos hFirst]
      · rw [if_neg hFirst, ← List.cons_append, hNormal, doneOf]
        simp only [if_neg hFirst]

/-
  A text without marks before a slash leaves it to the text
  after the slash to go on with the path.
-/
theorem readWithAuthority_open
    {scheme start : List Char}
    (hKind : Scheme.kind scheme = .special)
    (hOpen : ∀ c ∈ start, endsPath c = false) :
    ∃ base : Except UrlError (Authority × List (List Char)),
      ∀ cs, readWithAuthority scheme (start ++ '/' :: cs) =
        base.map fun (a, done) =>
          ⟨scheme, some a,
            .segments (resolveDots .special done
              ((Text.splitAll Scheme.Kind.special.isSlash
                  (cs.takeWhile fun c => !endsPath c)).map
                (Percent.encode Percent.inPath))),
            (tails .special
              (cs.dropWhile fun c => !endsPath c)).1,
            (tails .special
              (cs.dropWhile fun c => !endsPath c)).2⟩ := by
  let isSlash := Scheme.Kind.special.isSlash
  let text := start.takeWhile fun c => !isSlash c
  let path := start.dropWhile fun c => !isSlash c
  refine ⟨(readAuthority scheme text ['/']).map fun (a, more) =>
    (a, doneOf (more ++ path)), ?_⟩
  intro cs
  have hStart : ∀ c ∈ start, (!endsPath c) = true := by
    intro c hMem
    rw [hOpen c hMem]
    rfl
  have hSlash : (!isSlash '/') = false := by decide
  have hBody :
      (start ++ '/' :: cs).takeWhile (fun c => !endsPath c) =
        start ++ '/' :: cs.takeWhile fun c => !endsPath c := by
    rw [List.takeWhile_append_of_pos hStart,
      List.takeWhile_cons_of_pos (by decide)]
  have hEnds :
      (start ++ '/' :: cs).dropWhile (fun c => !endsPath c) =
        cs.dropWhile fun c => !endsPath c := by
    rw [List.dropWhile_append_of_pos hStart,
      List.dropWhile_cons_of_pos (by decide)]
  have hText (ds : List Char) :
      (start ++ '/' :: ds).takeWhile (fun c => !isSlash c) =
        text :=
    Text.takeWhile_append_cons hSlash start ds
  have hPath (ds : List Char) :
      (start ++ '/' :: ds).dropWhile (fun c => !isSlash c) =
        path ++ '/' :: ds :=
    Text.dropWhile_append_cons hSlash start ds
  have hAfter :
      (start ++ '/' :: cs).drop text.length ≠ [] := by
    have hShort : text.length ≤ start.length :=
      (List.takeWhile_prefix _).length_le
    rw [ne_eq, List.drop_eq_nil_iff, List.length_append,
      List.length_cons]
    omega
  rw [readWithAuthority_eq, hKind]
  simp only [hBody, hEnds]
  rw [hText, hPath,
    readAuthority_congr scheme text hAfter
      (List.cons_ne_nil '/' [])]
  cases readAuthority scheme text ['/'] with
  | error e => rfl
  | ok found =>
      rcases found with ⟨a, more⟩
      simp only [Except.map]
      rw [← List.append_assoc, pathAfterAuthority,
        if_pos (by decide), rootedPath_append]

/- Where there is a mark, there is a query or a fragment. -/
theorem tails_of_marked
    (k : Scheme.Kind)
    {c : Char}
    (hMark : endsPath c = true)
    (before behind : List Char) :
    let ends :=
      tails k
        ((before ++ c :: behind).dropWhile fun c => !endsPath c)
    ¬(ends.1 = none ∧ ends.2 = none) := by
  have hMarked : (!endsPath c) = false := by rw [hMark]; rfl
  have hFirst :
      ∃ d rest, endsPath d = true ∧
        (before ++ c :: behind).dropWhile (fun c => !endsPath c) =
          d :: rest := by
    rw [Text.dropWhile_append_cons hMarked]
    cases hDrop : before.dropWhile fun c => !endsPath c with
    | nil => exact ⟨c, behind, hMark, rfl⟩
    | cons d rest =>
        have hSome :
            before.dropWhile (fun c => !endsPath c) ≠ [] := by
          rw [hDrop]
          exact List.cons_ne_nil d rest
        have hHead := List.head_dropWhile_not _ hSome
        simp only [hDrop, List.head_cons, Bool.not_eq_false']
          at hHead
        exact ⟨d, rest ++ c :: behind, hHead, rfl⟩
  rcases hFirst with ⟨d, rest, hFirst, hDrop⟩
  rw [hDrop]
  simp only [endsPath, Bool.or_eq_true, beq_iff_eq] at hFirst
  rcases hFirst with rfl | rfl <;> simp [tails]

/-
  After a text with a mark, all there is after a slash belongs
  to the query or to the fragment.
-/
theorem readWithAuthority_marked
    {scheme start : List Char}
    {c : Char}
    (hMem : c ∈ start)
    (hMark : endsPath c = true) :
    ∃ base : Except UrlError Url, ∀ cs, ∃ query fragment,
      ¬(query = none ∧ fragment = none) ∧
        readWithAuthority scheme (start ++ '/' :: cs) =
          base.map fun u =>
            { u with query := query, fragment := fragment } := by
  rcases List.append_of_mem hMem with ⟨before, behind, rfl⟩
  let k := Scheme.kind scheme
  let body := before.takeWhile fun c => !endsPath c
  let text := body.takeWhile fun c => !k.isSlash c
  refine ⟨(readAuthority scheme text ['/']).map fun (a, more) =>
    ⟨scheme, some a,
      pathAfterAuthority k
        (more ++ body.dropWhile fun c => !k.isSlash c),
      none, none⟩, ?_⟩
  intro cs
  have hMarked : (!endsPath c) = false := by rw [hMark]; rfl
  have hWhole :
      (before ++ c :: behind) ++ '/' :: cs =
        before ++ c :: (behind ++ '/' :: cs) := by
    rw [List.append_assoc, List.cons_append]
  have hBody :
      (before ++ c :: (behind ++ '/' :: cs)).takeWhile
          (fun c => !endsPath c) =
        body :=
    Text.takeWhile_append_cons hMarked before _
  have hAfter :
      (before ++ c :: (behind ++ '/' :: cs)).drop text.length ≠
        [] := by
    have hText : text.length ≤ body.length :=
      (List.takeWhile_prefix _).length_le
    have hShort : body.length ≤ before.length :=
      (List.takeWhile_prefix _).length_le
    rw [ne_eq, List.drop_eq_nil_iff, List.length_append,
      List.length_cons]
    omega
  have hTails :=
    tails_of_marked k hMark before (behind ++ '/' :: cs)
  refine ⟨_, _, hTails, ?_⟩
  rw [hWhole, readWithAuthority_eq]
  simp only [hBody]
  rw [readAuthority_congr scheme text hAfter
    (List.cons_ne_nil '/' [])]
  cases readAuthority scheme text ['/'] <;> rfl

------------------------------------------------------------
-- URLs below a URL
------------------------------------------------------------

/- A URL with an authority has the scheme that is given. -/
theorem scheme_of_readWithAuthority
    {scheme cs : List Char}
    {u : Url}
    (hRead : readWithAuthority scheme cs = .ok u) :
    u.scheme = scheme := by
  rw [readWithAuthority_eq] at hRead
  simp only at hRead
  revert hRead
  cases readAuthority scheme _ _ with
  | error e => exact nofun
  | ok found =>
      intro hRead
      cases hRead
      rfl

/- The URL of a file has the scheme that is given. -/
theorem scheme_of_readFile
    {scheme cs : List Char}
    {u : Url}
    (hRead : readFile scheme cs = .ok u) :
    u.scheme = scheme := by
  unfold readFile at hRead
  simp only [bind, Except.bind, pure, Except.pure] at hRead
  split at hRead
  · split at hRead
    · split at hRead
      · cases hRead
      · cases hRead
        rfl
    · cases hRead
      rfl
  · cases hRead
    rfl

/- A URL has the scheme that is read first. -/
theorem scheme_of_ofKeptChars
    {cs : List Char}
    {u : Url}
    (hRead : ofKeptChars cs = .ok u) :
    ∃ rest, Scheme.split? cs = some (u.scheme, rest) := by
  unfold ofKeptChars at hRead
  cases hSplit : Scheme.split? cs with
  | none =>
      rw [hSplit] at hRead
      cases hRead
  | some found =>
      rcases found with ⟨scheme, rest⟩
      rw [hSplit] at hRead
      have hScheme : u.scheme = scheme := by
        cases hKind : Scheme.kind scheme with
        | special =>
            simp only [hKind] at hRead
            exact scheme_of_readWithAuthority hRead
        | file =>
            simp only [hKind] at hRead
            exact scheme_of_readFile hRead
        | other =>
            simp only [hKind] at hRead
            unfold readOther at hRead
            split at hRead
            · exact scheme_of_readWithAuthority hRead
            · cases hRead
              rfl
      exact ⟨rest, by rw [hScheme]⟩

/- What is left of a special URL has a host in front. -/
theorem host_ne_nil
    {scheme rest : List Char}
    {u : Url}
    (hKind : Scheme.kind scheme = .special)
    (hRead :
      readWithAuthority scheme
        (rest.dropWhile Scheme.Kind.special.isSlash) = .ok u) :
    rest.dropWhile Scheme.Kind.special.isSlash ≠ [] := by
  intro hNone
  rw [hNone, readWithAuthority_eq] at hRead
  simp only [List.takeWhile_nil, readAuthority_nil hKind] at hRead
  cases hRead

/-
  Of a special URL with a host, all but the scheme is an
  authority and what comes behind it, whatever the text after a
  slash.
-/
theorem ofChars_append_eq
    {start scheme rest : List Char}
    (hSplit :
      Scheme.split? (startChars start) = some (scheme, rest))
    (hKind : Scheme.kind scheme = .special)
    (hHost : rest.dropWhile Scheme.Kind.special.isSlash ≠ [])
    (cs : List Char) :
    ofChars (start ++ '/' :: cs) =
      readWithAuthority scheme
        (rest.dropWhile Scheme.Kind.special.isSlash ++
          '/' :: readChars cs) := by
  have hMore :
      (rest ++ '/' :: readChars cs).dropWhile
          Scheme.Kind.special.isSlash =
        rest.dropWhile Scheme.Kind.special.isSlash ++
          '/' :: readChars cs := by
    rw [List.dropWhile_append, if_neg (by simpa using hHost)]
  rw [ofChars_append, ofKeptChars, split?_append, hSplit]
  simp only [Option.map_some, hKind, hMore]

/- A special URL with a final slash has a host before the slash. -/
theorem exists_ofChars_append_eq
    {start : List Char}
    {b : Url}
    (hBase : ofChars (start ++ ['/']) = .ok b)
    (hKind : Scheme.kind b.scheme = .special) :
    ∃ rest, ∀ cs, ofChars (start ++ '/' :: cs) =
      readWithAuthority b.scheme (rest ++ '/' :: readChars cs) := by
  have hKept := hBase
  rw [ofChars_append] at hKept
  rcases scheme_of_ofKeptChars hKept with ⟨after, hFound⟩
  have hSplit := hFound
  rw [split?_append, Option.map_eq_some_iff] at hSplit
  rcases hSplit with ⟨⟨scheme, rest⟩, hSplit, hSame⟩
  cases hSame
  have hRead :
      readWithAuthority b.scheme
        ((rest ++ '/' :: readChars []).dropWhile
          Scheme.Kind.special.isSlash) = .ok b := by
    rw [ofKeptChars, hFound] at hKept
    simpa only [hKind] using hKept
  have hHost : rest.dropWhile Scheme.Kind.special.isSlash ≠ [] := by
    intro hNone
    refine host_ne_nil hKind hRead ?_
    rw [List.dropWhile_append, hNone]
    rfl
  exact ⟨_, ofChars_append_eq hSplit hKind hHost⟩

/- What is written after a slash does not change the authority. -/
theorem authority_readWithAuthority
    {scheme : List Char}
    (hKind : Scheme.kind scheme = .special)
    (start cs ds : List Char) :
    (readWithAuthority scheme (start ++ '/' :: cs)).map
        Url.authority =
      (readWithAuthority scheme (start ++ '/' :: ds)).map
        Url.authority := by
  by_cases hMarked : ∃ c ∈ start, endsPath c = true
  · rcases hMarked with ⟨c, hMem, hMark⟩
    rcases readWithAuthority_marked hMem hMark with
      ⟨base, hAdded⟩
    rcases hAdded cs with ⟨q, f, -, hFirst⟩
    rcases hAdded ds with ⟨r, g, -, hOther⟩
    rw [hFirst, hOther]
    cases base <;> rfl
  · have hOpen : ∀ c ∈ start, endsPath c = false := by
      simpa using hMarked
    rcases readWithAuthority_open hKind hOpen with
      ⟨base, hAdded⟩
    rw [hAdded, hAdded]
    cases base <;> rfl

/- What comes after a special URL adds no slash before its host. -/
theorem host_ne_nil_of_append
    {kept rest : List Char}
    {e : Url}
    (hKept : ofKeptChars kept = .ok e)
    (hFound : Scheme.split? kept = some (e.scheme, rest))
    (hKind : Scheme.kind e.scheme = .special)
    (more : List Char) :
    (rest ++ more).dropWhile Scheme.Kind.special.isSlash ≠
      [] := by
  have hRead :
      readWithAuthority e.scheme
        (rest.dropWhile Scheme.Kind.special.isSlash) = .ok e := by
    rw [ofKeptChars, hFound] at hKept
    simpa only [hKind] using hKept
  have hFirst := host_ne_nil hKind hRead
  rw [List.dropWhile_append, if_neg (by simpa using hFirst)]
  simp [hFirst]

/-
  If a text is a URL, all special URLs that go on after a slash
  have one authority: that of the URL with a final slash.
-/
theorem authority_of_ofChars
    {start cs : List Char}
    {e u : Url}
    (hStart : ofChars start = .ok e)
    (hUrl : ofChars (start ++ '/' :: cs) = .ok u)
    (hKind : Scheme.kind u.scheme = .special) :
    ∃ b, ofChars (start ++ ['/']) = .ok b ∧
      b.authority = u.authority := by
  -- All that is read of the URL stands in front of the slash.
  let trimmed :=
    (Text.trimEndWhile isEdge (start.dropWhile isEdge)).filter
      fun c => !isLineChar c
  have hKept : ofKeptChars trimmed = .ok e := hStart
  have hStarts : trimmed <+: startChars start :=
    (Text.trimEndWhile_prefix _ _).filter _
  rcases hStarts with ⟨more, hMore⟩
  rcases scheme_of_ofKeptChars hKept with ⟨rest, hFound⟩
  have hSplit := split?_append_of_eq_some hFound more
  rw [hMore] at hSplit
  have hScheme : u.scheme = e.scheme := by
    rw [ofChars_append] at hUrl
    rcases scheme_of_ofKeptChars hUrl with ⟨after, hAfter⟩
    rw [split?_append, hSplit] at hAfter
    exact (congrArg Prod.fst (Option.some.inj hAfter)).symm
  rw [hScheme] at hKind
  have hHost := host_ne_nil_of_append hKept hFound hKind more
  have hAppend := ofChars_append_eq hSplit hKind hHost
  have hSame :
      (ofChars (start ++ ['/'])).map Url.authority =
        .ok u.authority := by
    rw [hAppend, authority_readWithAuthority hKind _ _
      (readChars cs), ← hAppend, hUrl]
    rfl
  cases hBase : ofChars (start ++ ['/']) with
  | error f =>
      rw [hBase] at hSame
      cases hSame
  | ok b =>
      rw [hBase] at hSame
      exact ⟨b, rfl, Except.ok.inj hSame⟩

/-
  For a special URL with a final slash and all texts after it:
  without a query and a fragment the URL is a directory, and
  the text adds its segments to the directory.  Otherwise the
  text adds nothing to the path.
-/
theorem ofChars_below
    {start : List Char}
    {b : Url}
    (hBase : ofChars (start ++ ['/']) = .ok b)
    (hKind : Scheme.kind b.scheme = .special) :
    (b.query = none ∧ b.fragment = none ∧
      ∃ done, b.path = .segments (done.reverse ++ [[]]) ∧
        ∀ cs, ofChars (start ++ '/' :: cs) =
          .ok { b with
            path :=
              .segments (resolveDots .special done (segmentsOf cs))
            query := (tailsOf cs).1
            fragment := (tailsOf cs).2 }) ∨
    (¬(b.query = none ∧ b.fragment = none) ∧
      ∀ cs, ∃ query fragment,
        ofChars (start ++ '/' :: cs) =
          .ok { b with query := query, fragment := fragment }) := by
  rcases exists_ofChars_append_eq hBase hKind with ⟨rest, hBelow⟩
  rw [hBelow] at hBase
  simp only [hBelow]
  by_cases hMarked : ∃ c ∈ rest, endsPath c = true
  · rcases hMarked with ⟨c, hMem, hMark⟩
    rcases readWithAuthority_marked hMem hMark with
      ⟨base, hAdded⟩
    rcases hAdded (readChars []) with
      ⟨query, fragment, hTails, hFirst⟩
    rw [hFirst] at hBase
    cases base with
    | error e => cases hBase
    | ok u =>
        cases hBase
        refine .inr ⟨hTails, ?_⟩
        intro cs
        rcases hAdded (readChars cs) with ⟨q, f, _, hLater⟩
        exact ⟨q, f, hLater⟩
  · have hOpen : ∀ c ∈ rest, endsPath c = false := by
      intro c hMem
      cases hMark : endsPath c with
      | false => rfl
      | true => exact absurd ⟨c, hMem, hMark⟩ hMarked
    rcases readWithAuthority_open hKind hOpen with
      ⟨base, hAdded⟩
    rw [hAdded] at hBase
    cases base with
    | error e => cases hBase
    | ok found =>
        rcases found with ⟨a, done⟩
        have hFields := Except.ok.inj hBase
        have hAuthority : some a = b.authority :=
          congrArg Url.authority hFields
        have hPath :
            Path.segments (resolveDots .special done [[]]) =
              b.path :=
          congrArg Url.path hFields
        have hQuery : none = b.query :=
          congrArg Url.query hFields
        have hFragment : none = b.fragment :=
          congrArg Url.fragment hFields
        rw [resolveDots_singleton rfl rfl, keptSegment_special]
          at hPath
        refine .inl
          ⟨hQuery.symm, hFragment.symm, done, hPath.symm, ?_⟩
        intro cs
        rw [hAdded, ← hAuthority]
        rfl

end Url

end LightningGateway
