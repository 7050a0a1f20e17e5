import LightningGateway.Proofs.Toml.Spelling

/-
  TOML documents that were written and are read again.

  A document is written line by line, and its lines are read as
  the statements that they were written for, whatever comes
  after them.  The statements build a table up at its end, so
  that the table is the one that was written, in its order.

  Key definitions include:
    * `Lines`
    * `Entries.IsSound`
    * `Outline.IsSound`

  Main results:
    * `Outline.lines_chars`
    * `Outline.foldlM_statements`
    * `Outline.parse?_toText`
-/

namespace LightningGateway.Toml

------------------------------------------------------------
-- Lines
------------------------------------------------------------

/-
  Characters are lines that make statements: these are read
  first, and then what comes after them.  Each line takes one
  unit of fuel.
-/
def Lines
    (cs : List Char)
    (ss : List Statement) : Prop :=
  ∃ n ≤ cs.length, ∀ fuel rest,
    Statement.readLines? (fuel + n) (cs ++ rest) =
      (Statement.readLines? fuel rest).map (ss ++ ·)

/- No lines make no statements. -/
theorem lines_nil : Lines [] [] := by
  refine ⟨0, Nat.le_refl 0, fun fuel rest => ?_⟩
  rw [List.nil_append, Nat.add_zero]
  cases Statement.readLines? fuel rest <;> rfl

/- An empty line makes none. -/
theorem lines_empty : Lines ['\n'] [] := by
  refine ⟨1, Nat.le_refl 1, fun fuel rest => ?_⟩
  rw [List.singleton_append]
  cases hRest : Statement.readLines? fuel rest <;>
    simp [Statement.readLines?, skipBlanks, endLine?, isBlank,
      skipComment, newline?, hRest]

/- Lines after lines make statements after statements. -/
theorem Lines.append
    {cs ds : List Char}
    {ss ts : List Statement}
    (hFirst : Lines cs ss)
    (hSecond : Lines ds ts) :
    Lines (cs ++ ds) (ss ++ ts) := by
  rcases hFirst with ⟨n, hLess, hRead⟩
  rcases hSecond with ⟨m, hMore, hNext⟩
  refine ⟨m + n, ?_, fun fuel rest => ?_⟩
  · rw [List.length_append]
    omega
  · rw [List.append_assoc, ← Nat.add_assoc, hRead, hNext,
      Option.map_map]
    congr 1
    funext us
    exact (List.append_assoc ss ts us).symm

/- A statement that ends with its line is a line. -/
theorem lines_statement
    {c : Char}
    {cs : List Char}
    {s : Statement}
    (hBlank : isBlank c = false)
    (hOther : ¬(c = '#' ∨ c = '\n' ∨ c = '\r'))
    (hRead :
      ∀ rest, Statement.read? (c :: cs ++ '\n' :: rest) =
        some (s, '\n' :: rest)) :
    Lines (c :: cs ++ ['\n']) [s] := by
  refine ⟨1, by simp, fun fuel rest => ?_⟩
  have hLine : endLine? ('\n' :: rest) = some rest := rfl
  have hStart :
      skipBlanks (c :: (cs ++ '\n' :: rest)) =
        c :: (cs ++ '\n' :: rest) := by
    rw [skipBlanks, List.dropWhile_cons_of_neg (by simp [hBlank])]
  have hStatement := hRead rest
  rw [List.cons_append] at hStatement
  rw [List.append_assoc, List.singleton_append, List.cons_append,
    Statement.readLines?, hStart]
  simp only [if_neg hOther, hStatement, hLine,
    Option.bind_eq_bind, Option.bind_some]
  cases Statement.readLines? fuel rest <;> rfl

/- Lines are all the statements of a document. -/
theorem Lines.readAll?_eq
    {cs : List Char}
    {ss : List Statement}
    (hLines : Lines cs ss) :
    Statement.readAll? cs = some ss := by
  rcases hLines with ⟨n, hLess, hRead⟩
  have hAll := hRead (cs.length - n + 1) []
  have hFuel : cs.length - n + 1 + n = cs.length + 1 := by omega
  rw [List.append_nil, hFuel] at hAll
  rw [Statement.readAll?, hAll]
  simp [Statement.readLines?, skipBlanks]

------------------------------------------------------------
-- Statements
------------------------------------------------------------

/- The statement that an entry is written for. -/
def Statement.ofEntry (e : String × Scalar) : Statement :=
  .entry ⟨[], e.1⟩ e.2.value

/- The statements that a section is written for. -/
def Statement.ofSection
    (s : String × Entries) : List Statement :=
  .header ⟨[], s.1⟩ :: s.2.map .ofEntry

/- A value does not begin with a blank. -/
theorem Scalar.skipBlanks_chars
    {v : Scalar}
    (hFits : v.Fits)
    (rest : List Char) :
    skipBlanks (v.chars ++ rest) = v.chars ++ rest := by
  cases v with
  | text s => rfl
  | int n =>
      rcases Int.eq_ofNat_of_zero_le hFits.1 with ⟨k, rfl⟩
      rcases Json.exists_digit_cons k with
        ⟨d, ds, hDigits, hDigit⟩
      have hChars : (Scalar.int k).chars = d :: ds :=
        Nat.toList_repr.trans hDigits
      have hShown : ¬isBlank d = true := by
        intro hBlank
        simp only [isBlank, Bool.or_eq_true, beq_iff_eq] at hBlank
        rcases hBlank with rfl | rfl <;> cases hDigit
      rw [hChars, List.cons_append, skipBlanks,
        List.dropWhile_cons_of_neg hShown]

/- A character of names begins no list and no comment. -/
theorem ne_of_isKeyChar
    {c d : Char}
    (hKey : isKeyChar c = true)
    (hOther : isKeyChar d = false) :
    c ≠ d := by
  rintro rfl
  rw [hKey] at hOther
  cases hOther

/- An entry is read up to the end of its line. -/
theorem Statement.read?_entry
    {name : String}
    {v : Scalar}
    (hBare : IsBare name)
    (hFits : v.Fits)
    (rest : List Char) :
    Statement.read?
        (name.toList ++ ' ' :: '=' :: ' ' ::
          (v.chars ++ '\n' :: rest)) =
      some (.ofEntry (name, v), '\n' :: rest) := by
  have hPath :
      path? (name.toList ++ ' ' :: '=' :: ' ' ::
          (v.chars ++ '\n' :: rest)) =
        some (⟨[], name⟩,
          '=' :: ' ' :: (v.chars ++ '\n' :: rest)) :=
    path?_bare hBare (by decide) _ (by simp [skipBlanks, isBlank])
  have hPair :
      pair? Value.read? (name.toList ++ ' ' :: '=' :: ' ' ::
          (v.chars ++ '\n' :: rest)) =
        some ((⟨[], name⟩, v.value), '\n' :: rest) := by
    have hValue :
        Value.read? (skipBlanks (' ' ::
            (v.chars ++ '\n' :: rest))) =
          some (v.value, '\n' :: rest) := by
      rw [skipBlanks, List.dropWhile_cons_of_pos rfl,
        ← skipBlanks, Scalar.skipBlanks_chars hFits]
      exact Value.read?_chars hFits rest
    simp only [pair?, hPath, Option.bind_eq_bind,
      Option.bind_some, after?, if_true, hValue]
  rcases hBare.exists_cons with ⟨c, cs, hChars, hKey, _⟩
  have hList : c ≠ '[' := ne_of_isKeyChar hKey (by decide)
  rw [hChars, List.cons_append] at hPair ⊢
  rw [Statement.read?, hPair]
  · rfl
  · exact fun _ hSame => hList (List.cons.inj hSame).1
  · exact fun _ hSame => hList (List.cons.inj hSame).1

/- A header is read up to the end of its line. -/
theorem Statement.read?_header
    {name : String}
    (hBare : IsBare name)
    (rest : List Char) :
    Statement.read? ('[' :: (name.toList ++ ']' :: '\n' :: rest)) =
      some (.header ⟨[], name⟩, '\n' :: rest) := by
  have hPath :
      path? (name.toList ++ ']' :: '\n' :: rest) =
        some (⟨[], name⟩, ']' :: '\n' :: rest) :=
    path?_bare hBare (by decide) _ (by simp [skipBlanks, isBlank])
  rcases hBare.exists_cons with ⟨c, cs, hChars, hKey, _⟩
  have hList : c ≠ '[' := ne_of_isKeyChar hKey (by decide)
  rw [hChars, List.cons_append] at hPath ⊢
  rw [Statement.read?, hPath]
  · rfl
  · exact fun _ hSame => hList (List.cons.inj hSame).1

------------------------------------------------------------
-- Documents as Lines
------------------------------------------------------------

/-
  Entries that can be read where they are written: they have
  different names without quotes, and values that fit.
-/
structure Entries.IsSound (es : Entries) : Prop where
  bare : ∀ e ∈ es, IsBare e.1
  fits : ∀ e ∈ es, e.2.Fits
  nodup : (es.map Prod.fst).Nodup

/- A document of such entries and sections, with one name each. -/
structure Outline.IsSound (o : Outline) : Prop where
  entries : Entries.IsSound o.entries
  bare : ∀ s ∈ o.sections, IsBare s.1
  sections : ∀ s ∈ o.sections, Entries.IsSound s.2
  nodup :
    (o.entries.map Prod.fst ++ o.sections.map Prod.fst).Nodup

/- The statements that a document is written for. -/
def Outline.statements (o : Outline) : List Statement :=
  o.entries.map .ofEntry ++
    o.sections.flatMap Statement.ofSection

/- A character of names begins a line that has a statement. -/
theorem lines_of_isKeyChar
    {c : Char}
    {cs : List Char}
    {s : Statement}
    (hKey : isKeyChar c = true)
    (hRead :
      ∀ rest, Statement.read? (c :: cs ++ '\n' :: rest) =
        some (s, '\n' :: rest)) :
    Lines (c :: cs ++ ['\n']) [s] := by
  refine lines_statement ?_ ?_ hRead
  · simp only [isBlank, Bool.or_eq_false_iff,
      beq_eq_false_iff_ne]
    exact ⟨ne_of_isKeyChar hKey (by decide),
      ne_of_isKeyChar hKey (by decide)⟩
  · rintro (rfl | rfl | rfl) <;> cases hKey

/- An entry is a line. -/
theorem lines_entry
    {name : String}
    {v : Scalar}
    (hBare : IsBare name)
    (hFits : v.Fits) :
    Lines (name.toList ++ ' ' :: '=' :: ' ' :: (v.chars ++ ['\n']))
      [.ofEntry (name, v)] := by
  rcases hBare.exists_cons with ⟨c, cs, hChars, hKey, _⟩
  have hLine :
      name.toList ++ ' ' :: '=' :: ' ' :: (v.chars ++ ['\n']) =
        c :: (cs ++ ' ' :: '=' :: ' ' :: v.chars) ++ ['\n'] := by
    rw [hChars]
    simp
  rw [hLine]
  refine lines_of_isKeyChar hKey fun rest => ?_
  have hRead := Statement.read?_entry hBare hFits rest
  rw [hChars] at hRead
  simpa using hRead

/- Entries are a line each. -/
theorem lines_entryChars
    {es : Entries}
    (hSound : es.IsSound) :
    Lines (Outline.entryChars es) (es.map .ofEntry) := by
  rcases hSound with ⟨hBare, hFits, hNodup⟩
  clear hNodup
  induction es with
  | nil => exact lines_nil
  | cons e es ih =>
      rw [List.forall_mem_cons] at hBare hFits
      rw [Outline.entryChars, List.flatMap_cons,
        ← Outline.entryChars, List.map_cons]
      exact (lines_entry hBare.1 hFits.1).append
        (ih hBare.2 hFits.2)

/- A section is a line with its name, and then its entries. -/
theorem lines_sectionChars
    {s : String × Entries}
    (hBare : IsBare s.1)
    (hSound : Entries.IsSound s.2) :
    Lines (Outline.sectionChars s) (Statement.ofSection s) := by
  have hHeader :
      Lines ('[' :: (s.1.toList ++ [']']) ++ ['\n'])
        [.header ⟨[], s.1⟩] := by
    refine lines_statement (by decide) (by decide) fun rest => ?_
    have hRead := Statement.read?_header hBare rest
    simpa using hRead
  have hLines := hHeader.append (lines_entryChars hSound)
  simpa [Outline.sectionChars, Statement.ofSection] using hLines

/- Parts are kept apart by empty lines. -/
theorem lines_intercalate
    {parts : List (List Char × List Statement)}
    (hParts : ∀ p ∈ parts, Lines p.1 p.2) :
    Lines (['\n'].intercalate (parts.map Prod.fst))
      (parts.flatMap Prod.snd) := by
  induction parts with
  | nil => exact lines_nil
  | cons p rest ih =>
      rw [List.forall_mem_cons] at hParts
      have hRest := ih hParts.2
      cases rest with
      | nil => simpa using hParts.1
      | cons q rest =>
          have hLines := (hParts.1.append lines_empty).append hRest
          simpa [List.intercalate_cons_cons] using hLines

/- A document is lines for its statements. -/
theorem Outline.IsSound.lines
    {o : Outline}
    (hSound : o.IsSound) :
    Lines o.chars o.statements := by
  have hSections :
      ∀ p ∈ o.sections.map fun s =>
          (Outline.sectionChars s, Statement.ofSection s),
        Lines p.1 p.2 := by
    intro p hMem
    rcases List.mem_map.mp hMem with ⟨s, hSection, rfl⟩
    exact lines_sectionChars (hSound.bare s hSection)
      (hSound.sections s hSection)
  have hEntries := lines_entryChars hSound.entries
  cases hFirst : o.entries with
  | nil =>
      have hLines := lines_intercalate hSections
      simpa [Outline.chars, Outline.parts, Outline.statements,
        hFirst, List.flatMap_map, Function.comp_def] using hLines
  | cons e es =>
      rw [hFirst] at hEntries
      have hParts :
          ∀ p ∈ (Outline.entryChars (e :: es),
              (e :: es).map Statement.ofEntry) ::
              o.sections.map fun s =>
                (Outline.sectionChars s, Statement.ofSection s),
            Lines p.1 p.2 :=
        List.forall_mem_cons.mpr ⟨hEntries, hSections⟩
      have hLines := lines_intercalate hParts
      simpa [Outline.chars, Outline.parts, Outline.statements,
        hFirst, List.flatMap_map, Function.comp_def] using hLines

------------------------------------------------------------
-- Tables in the Making
------------------------------------------------------------

namespace Draft

/- Nothing is found under a name that is new. -/
theorem lookup_eq_none
    {name : String}
    {d : Draft}
    (hFresh : name ∉ d.map Prod.fst) :
    d.lookup name = none := by
  rw [List.lookup_eq_none_iff]
  intro p hMem
  rw [bne_iff_ne]
  rintro rfl
  exact hFresh (List.mem_map_of_mem hMem)

/- What is put under a name goes past other names. -/
theorem put_append
    {name : String}
    {d : Draft}
    (hOther : name ∉ d.map Prod.fst)
    (n : Node)
    (rest : Draft) :
    put name n (d ++ rest) = d ++ put name n rest := by
  induction d with
  | nil => rfl
  | cons e d ih =>
      rcases e with ⟨k, m⟩
      rw [List.map_cons, List.mem_cons, not_or] at hOther
      rw [List.cons_append, put, if_neg (Ne.symm hOther.1),
        ih hOther.2, List.cons_append]

/- What has a new name comes last. -/
theorem put_eq_append
    {name : String}
    {d : Draft}
    (hFresh : name ∉ d.map Prod.fst)
    (n : Node) :
    put name n d = d ++ [(name, n)] := by
  have hLast := put_append hFresh n []
  rw [List.append_nil] at hLast
  exact hLast

/- What came last is changed in its place. -/
theorem put_append_singleton
    {name : String}
    {d : Draft}
    (hFresh : name ∉ d.map Prod.fst)
    (m n : Node) :
    put name n (d ++ [(name, m)]) = d ++ [(name, n)] := by
  rw [put_append hFresh, put, if_pos rfl]

/-
  A place in a draft: the table that the given names lead to,
  when everything around it stays.
-/
def IsPlace
    (names : List String)
    (around : Draft → Draft) : Prop :=
  ∀ f t, change? f names (around t) = (f t).map around

/- The draft itself is a place. -/
theorem isPlace_id : IsPlace [] id := by
  intro f t
  rw [Option.map_id]
  rfl

/- So is the table that was opened last. -/
theorem isPlace_last
    {name : String}
    {d : Draft}
    (hFresh : name ∉ d.map Prod.fst) :
    IsPlace [name] fun t => d ++ [(name, .table .header t)] := by
  intro f t
  have hFound :
      (d ++ [(name, Node.table .header t)]).lookup name =
        some (.table .header t) := by
    rw [List.lookup_append, lookup_eq_none hFresh,
      List.lookup_cons_self]
    rfl
  rw [change?, hFound]
  simp only [change?, put_append_singleton hFresh]

end Draft

/- The table that entries are. -/
def Entries.table (es : Entries) : Table :=
  es.map fun e => (e.1, e.2.value)

/- The entries of a draft that were written. -/
def Entries.nodes (es : Entries) : Draft :=
  es.map fun e => (e.1, .value e.2.value)

/- Entries with new names are entered last, in their order. -/
theorem foldlM_entries
    {es : Entries}
    {names : List String}
    {around : Draft → Draft}
    {t : Draft}
    (hPlace : Draft.IsPlace names around)
    (hNodup : (t.map Prod.fst ++ es.map Prod.fst).Nodup) :
    (es.map Statement.ofEntry).foldlM Progress.step?
        ⟨around t, names⟩ =
      some ⟨around (t ++ es.nodes), names⟩ := by
  induction es generalizing t with
  | nil =>
      have hSame : t ++ Entries.nodes [] = t := t.append_nil
      rw [hSame]
      rfl
  | cons e es ih =>
      have hFresh : e.1 ∉ t.map Prod.fst := by
        intro hMem
        exact (List.nodup_append.mp hNodup).2.2 _ hMem _
          (.head _) rfl
      have hStep :
          Progress.step? ⟨around t, names⟩ (.ofEntry e) =
            some ⟨around (t ++ [(e.1, .value e.2.value)]),
              names⟩ := by
        simp only [Statement.ofEntry, Progress.step?, hPlace _ t,
          Draft.enter?, Draft.enterAt?,
          Draft.lookup_eq_none hFresh,
          Draft.put_eq_append hFresh]
        rfl
      rw [List.map_cons, List.foldlM_cons, hStep]
      have hRest :
          ((t ++ [(e.1, Node.value e.2.value)]).map Prod.fst ++
            es.map Prod.fst).Nodup := by
        simpa using hNodup
      refine (ih hRest).trans ?_
      rw [List.append_assoc]
      rfl

/- The table of a section. -/
def sectionNode (s : String × Entries) : String × Node :=
  (s.1, .table .header s.2.nodes)

/- Sections with new names are opened last, in their order. -/
theorem foldlM_sections
    {sections : List (String × Entries)}
    {d : Draft}
    (hSections : ∀ s ∈ sections, (s.2.map Prod.fst).Nodup)
    (hNodup :
      (d.map Prod.fst ++ sections.map Prod.fst).Nodup)
    (here : List String) :
    ∃ last,
      (sections.flatMap Statement.ofSection).foldlM
          Progress.step? ⟨d, here⟩ =
        some ⟨d ++ sections.map sectionNode, last⟩ := by
  induction sections generalizing d here with
  | nil =>
      refine ⟨here, ?_⟩
      rw [List.map_nil, List.append_nil]
      rfl
  | cons s sections ih =>
      rw [List.forall_mem_cons] at hSections
      have hFresh : s.1 ∉ d.map Prod.fst := by
        intro hMem
        exact (List.nodup_append.mp hNodup).2.2 _ hMem _
          (.head _) rfl
      have hHeader :
          Progress.step? ⟨d, here⟩ (.header ⟨[], s.1⟩) =
            some ⟨d ++ [(s.1, .table .header [])], [s.1]⟩ := by
        simp only [Progress.step?, Draft.open?, Draft.change?,
          Draft.lookup_eq_none hFresh,
          Draft.put_eq_append hFresh]
        rfl
      have hEntries :=
        foldlM_entries (t := []) (Draft.isPlace_last hFresh)
          hSections.1
      have hRest :
          ((d ++ [sectionNode s]).map Prod.fst ++
            sections.map Prod.fst).Nodup := by
        simpa [sectionNode] using hNodup
      rcases ih hSections.2 hRest [s.1] with ⟨last, hLast⟩
      refine ⟨last, ?_⟩
      rw [List.flatMap_cons, List.foldlM_append,
        Statement.ofSection, List.foldlM_cons, hHeader,
        Option.bind_eq_bind, Option.bind_some, hEntries,
        Option.bind_some]
      refine hLast.trans ?_
      rw [List.append_assoc]
      rfl

/- The entries of a finished table are the finished entries. -/
theorem closeEntries_eq_map (d : Draft) :
    Draft.closeEntries d =
      d.map fun e => (e.1, Draft.closeNode e.2) := by
  induction d with
  | nil => rfl
  | cons e d ih =>
      rcases e with ⟨k, n⟩
      rw [Draft.closeEntries, ih, List.map_cons]

/- The finished entries are the table of those written. -/
theorem Entries.closeEntries_nodes (es : Entries) :
    Draft.closeEntries es.nodes = es.table := by
  rw [closeEntries_eq_map, Entries.nodes, List.map_map]
  rfl

/- The statements of a document make its table. -/
theorem Outline.foldlM_statements
    {o : Outline}
    (hSound : o.IsSound) :
    ∃ s,
      o.statements.foldlM Progress.step? .start = some s ∧
        s.draft.close = o.table := by
  have hEntries :
      (o.entries.map Statement.ofEntry).foldlM Progress.step?
          .start =
        some ⟨o.entries.nodes, []⟩ :=
    foldlM_entries (t := []) Draft.isPlace_id
      hSound.entries.nodup
  have hNodup :
      (o.entries.nodes.map Prod.fst ++
        o.sections.map Prod.fst).Nodup := by
    simpa [Entries.nodes, Function.comp_def] using hSound.nodup
  rcases foldlM_sections
      (fun s hMem => (hSound.sections s hMem).nodup) hNodup []
    with ⟨last, hLast⟩
  refine ⟨⟨o.entries.nodes ++ o.sections.map sectionNode, last⟩,
    ?_, ?_⟩
  · rw [Outline.statements, List.foldlM_append, hEntries,
      Option.bind_eq_bind, Option.bind_some, hLast]
  · rw [Draft.close, closeEntries_eq_map, List.map_append,
      ← closeEntries_eq_map, Entries.closeEntries_nodes,
      List.map_map]
    refine congrArg (o.entries.table ++ ·)
      (List.map_congr_left fun s _ => ?_)
    rw [Function.comp_apply, sectionNode, Draft.closeNode,
      Entries.closeEntries_nodes]
    rfl

/- A document does not begin with a byte order mark. -/
theorem Outline.skipMark_chars
    {o : Outline}
    (hSound : o.IsSound) :
    skipMark o.chars = o.chars := by
  rcases o with ⟨_ | ⟨e, es⟩, sections⟩
  · cases sections with
    | nil => rfl
    | cons s sections =>
        cases sections <;>
          simp [Outline.chars, Outline.parts, Outline.sectionChars,
            List.intercalate_cons_cons, skipMark, orderMark]
  · rcases (hSound.entries.bare e (.head _)).exists_cons with
      ⟨c, cs, hChars, hKey, _⟩
    have hMark : c ≠ orderMark := ne_of_isKeyChar hKey (by decide)
    cases sections <;>
      simp [Outline.chars, Outline.parts, Outline.entryChars,
        List.intercalate_cons_cons, skipMark, hChars, hMark]

/- A document that was written holds its table. -/
theorem Outline.parse?_toText
    {o : Outline}
    (hSound : o.IsSound) :
    parse? o.toText = some o.table := by
  rcases foldlM_statements hSound with ⟨s, hFold, hTable⟩
  rw [parse?, Outline.toText, String.toList_ofList,
    skipMark_chars hSound, hSound.lines.readAll?_eq]
  simp only [Option.bind_eq_bind, Option.bind_some, hFold, hTable]

end LightningGateway.Toml
