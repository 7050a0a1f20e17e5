import LightningGateway.Proofs.Backend.Secrecy
import LightningGateway.Proofs.Text.Trimming

/-
  Addresses of providers in their normal form.

  An address is trimmed in two steps: blanks go from both sides,
  and then slashes go from the end.  Where blanks and slashes
  are mixed at its end, the second step may lay open a blank
  that the first one would have taken.  The form is normal
  exactly if no slash stands behind a blank there.

  Key definitions include:
    * `Endpoint.IsOrderly`
    * `Endpoint.padding`
    * `Endpoint.bare`

  Main results:
    * `Endpoint.trimmed_append_eq_iff`
    * `Endpoint.normal_eq_bare_iff`
    * `Endpoint.normal_append_eq_iff`
    * `Client.endpoints_normal_iff`
-/

namespace LightningGateway.Provider

namespace Endpoint

------------------------------------------------------------
-- Blanks and Slashes
------------------------------------------------------------

/- A blank or a slash. -/
def isPadding (c : Char) : Bool :=
  Text.isBlank c || isSlash c

/- Once there is a blank, nothing but blanks follows. -/
def IsOrderly (cs : List Char) : Prop :=
  cs.Pairwise fun a b =>
    Text.isBlank a = true → Text.isBlank b = true

instance (cs : List Char) : Decidable (IsOrderly cs) :=
  inferInstanceAs (Decidable (cs.Pairwise _))

/- A slash is no blank. -/
theorem isBlank_of_isSlash
    {c : Char}
    (hSlash : isSlash c = true) :
    Text.isBlank c = false := by
  rw [beq_iff_eq.mp hSlash]
  decide

/- What comes later is in order if blanks before it allow it. -/
theorem isOrderly_append_iff
    (cs ds : List Char) :
    IsOrderly (cs ++ ds) ↔
      IsOrderly cs ∧ IsOrderly ds ∧
        ((∃ c ∈ cs, Text.isBlank c = true) →
          ∀ d ∈ ds, Text.isBlank d = true) := by
  rw [IsOrderly, List.pairwise_append]
  constructor
  · rintro ⟨hFirst, hSecond, hAcross⟩
    refine ⟨hFirst, hSecond, ?_⟩
    rintro ⟨c, hMem, hBlank⟩ d hLater
    exact hAcross c hMem d hLater hBlank
  · rintro ⟨hFirst, hSecond, hAcross⟩
    exact ⟨hFirst, hSecond, fun c hMem d hLater hBlank =>
      hAcross ⟨c, hMem, hBlank⟩ d hLater⟩

/- Slashes and then blanks are in order. -/
theorem isOrderly_slashes_blanks
    {slashes blanks : List Char}
    (hSlashes : ∀ c ∈ slashes, isSlash c = true)
    (hBlanks : ∀ c ∈ blanks, Text.isBlank c = true) :
    IsOrderly (slashes ++ blanks) := by
  refine (isOrderly_append_iff _ _).mpr
    ⟨?_, ?_, fun _ => hBlanks⟩
  · apply List.pairwise_of_forall_mem_list
    intro c hMem d _ hBlank
    rw [isBlank_of_isSlash (hSlashes c hMem)] at hBlank
    cases hBlank
  · apply List.pairwise_of_forall_mem_list
    intro c _ d hMem _
    exact hBlanks d hMem

/- Slashes and then blanks are padding. -/
theorem isPadding_slashes_blanks
    {slashes blanks : List Char}
    (hSlashes : ∀ c ∈ slashes, isSlash c = true)
    (hBlanks : ∀ c ∈ blanks, Text.isBlank c = true) :
    ∀ c ∈ slashes ++ blanks, isPadding c = true := by
  intro c hMem
  rw [isPadding, Bool.or_eq_true]
  rcases List.mem_append.mp hMem with hSlash | hBlank
  · exact .inr (hSlashes c hSlash)
  · exact .inl (hBlanks c hBlank)

/- Padding in order is slashes and then blanks. -/
theorem IsOrderly.exists_slashes_blanks
    {cs : List Char}
    (hOrderly : IsOrderly cs)
    (hPadding : ∀ c ∈ cs, isPadding c = true) :
    ∃ slashes blanks, cs = slashes ++ blanks ∧
      (∀ c ∈ slashes, isSlash c = true) ∧
      ∀ c ∈ blanks, Text.isBlank c = true := by
  induction cs with
  | nil => exact ⟨[], [], rfl, nofun, nofun⟩
  | cons c rest ih =>
      rcases List.pairwise_cons.mp hOrderly with
        ⟨hFirst, hRest⟩
      rw [List.forall_mem_cons] at hPadding
      rcases Bool.or_eq_true_iff.mp hPadding.1 with
        hBlank | hSlash
      · refine ⟨[], c :: rest, rfl, nofun, ?_⟩
        exact List.forall_mem_cons.mpr
          ⟨hBlank, fun d hMem => hFirst d hMem hBlank⟩
      · rcases ih hRest hPadding.2 with
          ⟨slashes, blanks, rfl, hSlashes, hBlanks⟩
        exact ⟨c :: slashes, blanks, rfl,
          List.forall_mem_cons.mpr ⟨hSlash, hSlashes⟩, hBlanks⟩

------------------------------------------------------------
-- Both Steps of Trimming
------------------------------------------------------------

/- The blanks at the end are taken, and then the slashes. -/
def trimmed (cs : List Char) : List Char :=
  Text.trimEndWhile isSlash (Text.trimEndWhile Text.isBlank cs)

/-
  What both steps take is slashes and then blanks.  If there are
  no slashes, what is left does not end with a blank.
-/
theorem exists_trimmed_append (cs : List Char) :
    ∃ slashes blanks, cs = trimmed cs ++ (slashes ++ blanks) ∧
      (∀ c ∈ slashes, isSlash c = true) ∧
      (∀ c ∈ blanks, Text.isBlank c = true) ∧
      ∀ c, (trimmed cs ++ slashes).getLast? = some c →
        Text.isBlank c = false := by
  rcases Text.exists_trimEndWhile_append Text.isBlank cs with
    ⟨blanks, hWhole, hBlanks⟩
  rcases Text.exists_trimEndWhile_append isSlash
      (Text.trimEndWhile Text.isBlank cs) with
    ⟨slashes, hRest, hSlashes⟩
  refine ⟨slashes, blanks, ?_, hSlashes, hBlanks, ?_⟩
  · rw [← List.append_assoc, trimmed, ← hRest, ← hWhole]
  · intro c hLast
    rw [trimmed, ← hRest] at hLast
    exact Text.not_of_getLast?_trimEndWhile hLast

/- What is left does not end with a slash. -/
theorem not_isSlash_of_trimmed
    {cs : List Char}
    {c : Char}
    (hLast : (trimmed cs).getLast? = some c) :
    isSlash c = false :=
  Text.not_of_getLast?_trimEndWhile hLast

/- Padding is taken as a whole if it is in order. -/
theorem trimmed_append_eq_iff
    {core tail : List Char}
    (hCore : ∀ c, core.getLast? = some c → isSlash c = false)
    (hSeam :
      (∀ c, core.getLast? = some c → Text.isBlank c = false) ∨
        ∃ c, tail.head? = some c ∧ isSlash c = true)
    (hPadding : ∀ c ∈ tail, isPadding c = true) :
    trimmed (core ++ tail) = core ↔ IsOrderly tail := by
  constructor
  · intro hTrimmed
    rcases exists_trimmed_append (core ++ tail) with
      ⟨slashes, blanks, hWhole, hSlashes, hBlanks, _⟩
    rw [hTrimmed, List.append_cancel_left_eq] at hWhole
    rw [hWhole]
    exact isOrderly_slashes_blanks hSlashes hBlanks
  · intro hOrderly
    rcases hOrderly.exists_slashes_blanks hPadding with
      ⟨slashes, blanks, rfl, hSlashes, hBlanks⟩
    have hEnd :
        ∀ c, (core ++ slashes).getLast? = some c →
          Text.isBlank c = false := by
      intro c hLast
      by_cases hNone : slashes = []
      · rw [hNone, List.append_nil] at hLast
        rcases hSeam with hKept | ⟨d, hHead, hSlash⟩
        · exact hKept c hLast
        · -- A blank cannot be the slash at the seam.
          rw [hNone, List.nil_append] at hHead
          have hBlank := hBlanks d (List.mem_of_head? hHead)
          rw [isBlank_of_isSlash hSlash] at hBlank
          cases hBlank
      · rw [List.getLast?_append_of_ne_nil _ hNone] at hLast
        exact isBlank_of_isSlash
          (hSlashes c (List.mem_of_getLast? hLast))
    rw [trimmed, ← List.append_assoc,
      Text.trimEndWhile_append hEnd hBlanks,
      Text.trimEndWhile_append hCore hSlashes]

------------------------------------------------------------
-- Normal Forms
------------------------------------------------------------

/- The blanks and slashes at the end of an address. -/
def padding (endpoint : String) : List Char :=
  ((endpoint.toList.dropWhile Text.isBlank).reverse.takeWhile
    isPadding).reverse

/-
  The address without blanks around it and without slashes at
  its end, however they are mixed.
-/
def bare (endpoint : String) : String :=
  String.ofList
    (Text.trimEndWhile isPadding
      (endpoint.toList.dropWhile Text.isBlank))

/- An address is trimmed after the blanks before it. -/
theorem toList_normal (endpoint : String) :
    (normal endpoint).toList =
      trimmed (endpoint.toList.dropWhile Text.isBlank) := by
  simp only [normal, Text.trimEnd, Text.trim, Text.trimBlank,
    String.toList_ofList, trimmed]

/- After the blanks before it, an address is bare and padded. -/
theorem dropWhile_eq_append (endpoint : String) :
    endpoint.toList.dropWhile Text.isBlank =
      (bare endpoint).toList ++ padding endpoint := by
  rw [bare, String.toList_ofList, padding, Text.trimEndWhile,
    ← List.reverse_append, List.takeWhile_append_dropWhile,
    List.reverse_reverse]

/- All of the padding is blanks and slashes. -/
theorem isPadding_of_mem_padding
    {endpoint : String}
    {c : Char}
    (hMem : c ∈ padding endpoint) :
    isPadding c = true :=
  List.all_eq_true.mp List.all_takeWhile c
    (List.mem_reverse.mp hMem)

/- A bare address ends with neither. -/
theorem isPadding_of_getLast?_bare
    {endpoint : String}
    {c : Char}
    (hLast : (bare endpoint).toList.getLast? = some c) :
    isPadding c = false := by
  rw [bare, String.toList_ofList] at hLast
  exact Text.not_of_getLast?_trimEndWhile hLast

/- A normal address does not begin with a blank. -/
theorem isBlank_of_head?_normal
    {endpoint : String}
    {c : Char}
    (hFirst : (normal endpoint).toList.head? = some c) :
    Text.isBlank c = false := by
  rw [toList_normal] at hFirst
  rcases exists_trimmed_append
      (endpoint.toList.dropWhile Text.isBlank) with
    ⟨slashes, blanks, hWhole, _⟩
  have hHead :=
    List.head?_dropWhile_not Text.isBlank endpoint.toList
  rw [hWhole, List.head?_append, hFirst] at hHead
  exact hHead

/- Nor does it end with a slash. -/
theorem isSlash_of_getLast?_normal
    {endpoint : String}
    {c : Char}
    (hLast : (normal endpoint).toList.getLast? = some c) :
    isSlash c = false := by
  rw [toList_normal] at hLast
  exact not_isSlash_of_trimmed hLast

variable {endpoint : String}

/- A normal address is bare if the padding is in order. -/
theorem normal_eq_bare_iff :
    normal endpoint = bare endpoint ↔
      IsOrderly (padding endpoint) := by
  have hBare {c : Char}
      (hLast : (bare endpoint).toList.getLast? = some c) :=
    Bool.or_eq_false_iff.mp (isPadding_of_getLast?_bare hLast)
  rw [← String.toList_inj, toList_normal, dropWhile_eq_append]
  exact trimmed_append_eq_iff (fun _ hLast => (hBare hLast).2)
    (.inl fun _ hLast => (hBare hLast).1)
    fun _ => isPadding_of_mem_padding

/- It ends with a blank if the padding is not. -/
theorem not_ends_blank_iff :
    (∀ c, (normal endpoint).toList.getLast? = some c →
        Text.isBlank c = false) ↔
      IsOrderly (padding endpoint) := by
  rw [← normal_eq_bare_iff]
  constructor
  · intro hEnd
    rcases exists_trimmed_append
        (endpoint.toList.dropWhile Text.isBlank) with
      ⟨slashes, blanks, hWhole, hSlashes, hBlanks, _⟩
    rw [← toList_normal] at hWhole
    rw [bare, hWhole, Text.trimEndWhile_append,
      String.ofList_toList]
    · intro c hLast
      exact Bool.or_eq_false_iff.mpr
        ⟨hEnd c hLast, isSlash_of_getLast?_normal hLast⟩
    · exact isPadding_slashes_blanks hSlashes hBlanks
  · intro hBare c hLast
    rw [hBare] at hLast
    exact (Bool.or_eq_false_iff.mp
      (isPadding_of_getLast?_bare hLast)).1

/- And then only it is not normal. -/
theorem normal_normal_iff :
    normal (normal endpoint) = normal endpoint ↔
      IsOrderly (padding endpoint) := by
  have hKept :
      (normal endpoint).toList.dropWhile Text.isBlank =
        (normal endpoint).toList := by
    cases hText : (normal endpoint).toList with
    | nil => rfl
    | cons c rest =>
        have hFirst : (normal endpoint).toList.head? = some c := by
          rw [hText]
          rfl
        have hBlank := isBlank_of_head?_normal hFirst
        exact List.dropWhile_cons_of_neg (by simp [hBlank])
  have hSlash :
      ∀ c, (normal endpoint).toList.getLast? = some c →
        isSlash c = false :=
    fun _ => isSlash_of_getLast?_normal
  rw [← not_ends_blank_iff, ← String.toList_inj,
    toList_normal (normal endpoint), hKept]
  constructor
  · intro hSame c hLast
    rcases exists_trimmed_append (normal endpoint).toList with
      ⟨slashes, blanks, hWhole, _, _, hEnd⟩
    rw [hSame, List.self_eq_append_right,
      List.append_eq_nil_iff] at hWhole
    rw [hSame, hWhole.1, List.append_nil] at hEnd
    exact hEnd c hLast
  · intro hEnd
    rw [trimmed, Text.trimEndWhile_eq_self hEnd,
      Text.trimEndWhile_eq_self hSlash]

/-
  Blanks behind slashes are there if the text ends with one, for
  what is before the slashes and behind none ends with none.
-/
theorem exists_isBlank_iff_getLast?
    {kept slashes blanks : List Char}
    (hSlashes : ∀ c ∈ slashes, isSlash c = true)
    (hBlanks : ∀ c ∈ blanks, Text.isBlank c = true)
    (hEnd :
      ∀ c, (kept ++ slashes).getLast? = some c →
        Text.isBlank c = false) :
    (∃ c ∈ slashes ++ blanks, Text.isBlank c = true) ↔
      ∃ c ∈ (kept ++ slashes ++ blanks).getLast?.toList,
        Text.isBlank c = true := by
  by_cases hNone : blanks = []
  · rw [hNone, List.append_nil, List.append_nil]
    refine iff_of_false ?_ ?_
    · rintro ⟨c, hMem, hBlank⟩
      rw [isBlank_of_isSlash (hSlashes c hMem)] at hBlank
      cases hBlank
    · rintro ⟨c, hMem, hBlank⟩
      rw [hEnd c (Option.mem_toList.mp hMem)] at hBlank
      cases hBlank
  · rw [List.getLast?_append_of_ne_nil _ hNone]
    have hFinal := List.getLast?_eq_getLast_of_ne_nil hNone
    have hMem := List.getLast_mem hNone
    refine iff_of_true ?_ ?_
    · exact ⟨_, List.mem_append_right slashes hMem,
        hBlanks _ hMem⟩
    · exact ⟨blanks.getLast hNone, Option.mem_toList.mpr hFinal,
        hBlanks _ hMem⟩

/- More padding changes nothing if it is in order with the end. -/
theorem normal_append_eq_iff
    {more : String}
    (hSome : normal endpoint ≠ "")
    (hPadding : ∀ c ∈ more.toList, isPadding c = true) :
    normal (endpoint ++ more) = normal endpoint ↔
      IsOrderly (endpoint.toList.getLast?.toList ++ more.toList) := by
  rcases exists_trimmed_append
      (endpoint.toList.dropWhile Text.isBlank) with
    ⟨slashes, blanks, hWhole, hSlashes, hBlanks, hEnd⟩
  rw [← toList_normal] at hWhole hEnd
  have hKept : endpoint.toList.dropWhile Text.isBlank ≠ [] := by
    intro hNone
    rw [hNone, eq_comm, List.append_eq_nil_iff] at hWhole
    exact hSome (String.toList_eq_nil_iff.mp hWhole.1)
  have hLast :
      endpoint.toList.getLast? =
        ((normal endpoint).toList ++ slashes ++ blanks).getLast? := by
    rw [List.append_assoc, ← hWhole,
      ← List.getLast?_append_of_ne_nil
        (endpoint.toList.takeWhile Text.isBlank) hKept,
      List.takeWhile_append_dropWhile]
  have hText :
      (endpoint ++ more).toList.dropWhile Text.isBlank =
        (normal endpoint).toList ++
          (slashes ++ blanks ++ more.toList) := by
    rw [String.toList_append, List.dropWhile_append,
      if_neg (by simpa using hKept), hWhole, List.append_assoc]
  have hSeam :
      (∀ c, (normal endpoint).toList.getLast? = some c →
          Text.isBlank c = false) ∨
        ∃ c, (slashes ++ blanks ++ more.toList).head? = some c ∧
          isSlash c = true := by
    cases slashes with
    | nil =>
        rw [List.append_nil] at hEnd
        exact .inl hEnd
    | cons c rest =>
        exact .inr ⟨c, rfl, hSlashes c (.head rest)⟩
  have hTail :
      ∀ c ∈ slashes ++ blanks ++ more.toList,
        isPadding c = true := by
    intro c hMem
    rcases List.mem_append.mp hMem with hOld | hNew
    · exact isPadding_slashes_blanks hSlashes hBlanks c hOld
    · exact hPadding c hNew
  have hBlank :
      (∃ c ∈ slashes ++ blanks, Text.isBlank c = true) ↔
        ∃ c ∈ endpoint.toList.getLast?.toList,
          Text.isBlank c = true := by
    rw [hLast]
    exact exists_isBlank_iff_getLast? hSlashes hBlanks hEnd
  have hOne : IsOrderly endpoint.toList.getLast?.toList := by
    cases endpoint.toList.getLast? <;> simp [IsOrderly]
  rw [← String.toList_inj, toList_normal (endpoint ++ more), hText,
    trimmed_append_eq_iff
      (fun _ => isSlash_of_getLast?_normal) hSeam hTail,
    isOrderly_append_iff (slashes ++ blanks),
    isOrderly_append_iff endpoint.toList.getLast?.toList, hBlank,
    and_iff_right (isOrderly_slashes_blanks hSlashes hBlanks),
    and_iff_right hOne]

end Endpoint

namespace Client

------------------------------------------------------------
-- Clients
------------------------------------------------------------

variable {wallet endpoint userAgent keyName key : String}
variable {c : Client}

/- No client is built for an address without content. -/
theorem normal_ne_empty_of_build
    (hBuilt :
      build wallet endpoint userAgent keyName key = .ok c) :
    Endpoint.normal endpoint ≠ "" := by
  intro hEmpty
  rw [build, hEmpty] at hBuilt
  cases hBuilt

/- Addresses with one normal form make one client. -/
theorem build_eq_of_normal_eq
    {other : String}
    (hSame : Endpoint.normal other = Endpoint.normal endpoint) :
    build wallet other userAgent keyName key =
      build wallet endpoint userAgent keyName key := by
  rw [build, build, hSame]

/- Slashes before a path do not count. -/
theorem url_append
    {slashes : String}
    (hSlashes : ∀ c ∈ slashes.toList, Endpoint.isSlash c = true)
    (path : String) :
    c.url (slashes ++ path) = c.url path := by
  simp only [url, Endpoint.join, Text.trimStart,
    String.toList_append, List.dropWhile_append_of_pos hSlashes]

/- A client whose addresses are the same has the same address. -/
theorem endpoint_eq_of_url
    {d : Client}
    {path : String}
    (hUrl : d.url path = c.url path) :
    d.endpoint = c.endpoint := by
  simp only [url, Endpoint.join, String.append_assoc] at hUrl
  exact String.append_left_inj _ |>.mp hUrl

/-
  More padding makes the same addresses if it is in order with
  the end of the address that a client was built for.
-/
theorem joins_alike_iff
    {more : String}
    (hBuilt :
      build wallet endpoint userAgent keyName key = .ok c)
    (hPadding :
      ∀ c ∈ more.toList, Endpoint.isPadding c = true) :
    (∃ d,
      build wallet (endpoint ++ more) userAgent keyName key =
          .ok d ∧
        ∀ slashes path : String,
          (∀ c ∈ slashes.toList, Endpoint.isSlash c = true) →
          d.url (slashes ++ path) = c.url path) ↔
      Endpoint.IsOrderly
        (endpoint.toList.getLast?.toList ++ more.toList) := by
  rw [← Endpoint.normal_append_eq_iff
    (normal_ne_empty_of_build hBuilt) hPadding]
  constructor
  · rintro ⟨d, hOther, hUrl⟩
    have hSame := endpoint_eq_of_url (hUrl "" "" nofun)
    rw [build_eq_ok hOther, build_eq_ok hBuilt] at hSame
    exact hSame
  · intro hSame
    rw [build_eq_of_normal_eq hSame]
    exact ⟨c, hBuilt, fun _ path hSlashes =>
      url_append hSlashes path⟩

/-
  A normal address does not begin with a blank or end with a
  slash.  It does not end with a blank either, and its normal
  form is itself, and it is what is left without blanks around
  it and slashes at its end, exactly if no slash stands behind a
  blank in the padding of the text that it was made from.

  A client joins its address and a path with one slash, however
  many the path begins with.  If any padding is added to the
  address, a client is built for it that joins the same
  addresses exactly if the padding has no slash behind a blank,
  and no slash at all behind a blank at the end of the address.
-/
theorem endpoints_normal_iff (endpoint : String) :
    ((∀ c, (Endpoint.normal endpoint).toList.head? = some c →
        Text.isBlank c = false) ∧
      (∀ c, (Endpoint.normal endpoint).toList.getLast? = some c →
        Endpoint.isSlash c = false) ∧
      ((∀ c,
          (Endpoint.normal endpoint).toList.getLast? = some c →
            Text.isBlank c = false) ↔
        Endpoint.IsOrderly (Endpoint.padding endpoint)) ∧
      (Endpoint.normal (Endpoint.normal endpoint) =
          Endpoint.normal endpoint ↔
        Endpoint.IsOrderly (Endpoint.padding endpoint)) ∧
      (Endpoint.normal endpoint = Endpoint.bare endpoint ↔
        Endpoint.IsOrderly (Endpoint.padding endpoint))) ∧
    ∀ {wallet userAgent keyName key : String} {c : Client},
      build wallet endpoint userAgent keyName key = .ok c →
      (∀ path, ∃ slashes rest, path = slashes ++ rest ∧
        (∀ c ∈ slashes.toList, Endpoint.isSlash c = true) ∧
        (∀ c, rest.toList.head? = some c →
          Endpoint.isSlash c = false) ∧
        c.url path = Endpoint.normal endpoint ++ "/" ++ rest) ∧
      ∀ more : String,
        (∀ c ∈ more.toList, Endpoint.isPadding c = true) →
        ((∃ d,
          build wallet (endpoint ++ more) userAgent keyName key =
              .ok d ∧
            ∀ slashes path : String,
              (∀ c ∈ slashes.toList,
                Endpoint.isSlash c = true) →
              d.url (slashes ++ path) = c.url path) ↔
          Endpoint.IsOrderly
            (endpoint.toList.getLast?.toList ++
              more.toList)) := by
  constructor
  · exact ⟨fun _ => Endpoint.isBlank_of_head?_normal,
      fun _ => Endpoint.isSlash_of_getLast?_normal,
      Endpoint.not_ends_blank_iff, Endpoint.normal_normal_iff,
      Endpoint.normal_eq_bare_iff⟩
  · intro wallet userAgent keyName key c hBuilt
    refine ⟨fun path => ?_, fun more => joins_alike_iff hBuilt⟩
    refine ⟨String.ofList (path.toList.takeWhile Endpoint.isSlash),
      Text.trimStart Endpoint.isSlash path, ?_, ?_, ?_, ?_⟩
    · rw [Text.trimStart, ← String.ofList_append,
        List.takeWhile_append_dropWhile, String.ofList_toList]
    · intro c hMem
      rw [String.toList_ofList] at hMem
      exact List.all_eq_true.mp List.all_takeWhile c hMem
    · intro c hFirst
      have hHead :=
        List.head?_dropWhile_not Endpoint.isSlash path.toList
      rw [Text.trimStart, String.toList_ofList] at hFirst
      rw [hFirst] at hHead
      exact hHead
    · rw [build_eq_ok hBuilt]
      rfl

/- Slashes and a blank are in order after this address. -/
theorem endpoints_normal_iff_of_padded :
    ∃ c d,
      build "wallet" "http://lnbits.test" "agent" "key" "" =
          .ok c ∧
        build "wallet" ("http://lnbits.test" ++ "// ") "agent"
            "key" "" = .ok d ∧
        d.url "//wallet" = c.url "wallet" ∧
        ¬∃ d,
          build "wallet" ("http://lnbits.test" ++ "/ /") "agent"
              "key" "" = .ok d ∧
            ∀ slashes path : String,
              (∀ c ∈ slashes.toList,
                Endpoint.isSlash c = true) →
              d.url (slashes ++ path) = c.url path := by
  have hBuilt :
      build "wallet" "http://lnbits.test" "agent" "key" "" =
        .ok ⟨"http://lnbits.test", "key", "", "agent", false⟩ :=
    rfl
  rcases (endpoints_normal_iff _).2 hBuilt with ⟨_, hMore⟩
  have hSlashes : "//".toList.all Endpoint.isSlash = true := rfl
  have hKept : "// ".toList.all Endpoint.isPadding = true := by
    decide
  have hLost : "/ /".toList.all Endpoint.isPadding = true := by
    decide
  rw [List.all_eq_true] at hSlashes hKept hLost
  rcases (hMore "// " hKept).mpr (by decide) with
    ⟨d, hOther, hUrl⟩
  refine ⟨_, d, hBuilt, hOther, hUrl "//" "wallet" hSlashes, ?_⟩
  exact mt (hMore "/ /" hLost).mp (by decide)

/-
  Trimmed once, this address ends with a blank, trimmed twice it
  does not, and a client that is built for it joins another
  address than without the padding.
-/
theorem not_all_endpoints_normal :
    (¬∀ endpoint,
      Endpoint.normal (Endpoint.normal endpoint) =
        Endpoint.normal endpoint) ∧
    (¬∀ endpoint c,
      (Endpoint.normal endpoint).toList.getLast? = some c →
        Text.isBlank c = false) ∧
    ¬∀ {wallet endpoint userAgent keyName key more : String}
        {c d : Client},
      (∀ c ∈ more.toList, Endpoint.isPadding c = true) →
      build wallet endpoint userAgent keyName key = .ok c →
      build wallet (endpoint ++ more) userAgent keyName key =
          .ok d →
      ∀ path, d.url path = c.url path := by
  refine ⟨fun hAll => ?_, fun hAll => ?_, fun hAll => ?_⟩
  · have hTwice := hAll "http://lnbits.test/ /"
    revert hTwice
    decide
  · have hLast := hAll "http://lnbits.test/ /" ' ' (by decide)
    cases hLast
  · have hBuilt :
        build "wallet" "http://lnbits.test" "agent" "key" "" =
          .ok ⟨"http://lnbits.test", "key", "", "agent", false⟩ :=
      rfl
    have hOther :
        build "wallet" ("http://lnbits.test" ++ "/ /") "agent" "key"
            "" =
          .ok ⟨"http://lnbits.test/ ", "key", "", "agent",
            false⟩ :=
      rfl
    have hPadding :
        "/ /".toList.all Endpoint.isPadding = true := by
      decide
    have hUrl := hAll (List.all_eq_true.mp hPadding) hBuilt hOther
      "wallet"
    revert hUrl
    decide

end Client

end LightningGateway.Provider
