import LightningGateway.Json.Record
import Mathlib.Data.List.Nodup

/-
  What may stand in a body, field by field.

  A body has named fields, each with a kind of tree that may
  stand there.  It is an object, whose other members may hold
  anything, or a list with an item for each field.  A field may
  also be left out or be null.

  Nothing here reads a tree.  The readers of records are held
  against this: they read the bodies that the fields admit, no
  others, and of each field what the body gives for it.

  Key definitions include:
    * `Tree.Has`
    * `Tree.IsShaped`
    * `Fields.Admits`
    * `Fields.Gives`

  Main results:
    * `Tree.lookup_eq_some_iff_has`
    * `Fields.record?_bind_isSome_iff`
    * `Fields.eq_some_iff_gives`
-/

namespace LightningGateway.Json

namespace Tree

------------------------------------------------------------
-- Fields by Name
------------------------------------------------------------

/-
  What a tree has in a field: the member of an object with that
  name, or the item of a list that stands in its place.
-/
inductive Has
    (names : List String)
    (name : String) : Tree → Tree → Prop
  | member
      {members : List (Option String × Tree)}
      {u : Tree}
      (hMember : (some name, u) ∈ members) :
      Has names name (.object members) u
  | item
      {items : List Tree}
      {u : Tree}
      (hItem : (name, u) ∈ names.zip items) :
      Has names name (.list items) u

/-
  The form of a tree with some fields: an object without a name
  that cannot be read and without a field that comes twice, or a
  list of the right length.
-/
inductive IsShaped
    (names : List String) : Tree → Prop
  | object
      {members : List (Option String × Tree)}
      (hReadable : ∀ m ∈ members, m.1 ≠ none)
      (hOnce : ∀ name ∈ names,
        (members.map Prod.fst).count (some name) ≤ 1) :
      IsShaped names (.object members)
  | list
      {items : List Tree}
      (hLength : items.length = names.length) :
      IsShaped names (.list items)

/- What comes once is found exactly if it is there. -/
theorem lookup_eq_some_iff_mem
    {α β : Type}
    [BEq α] [LawfulBEq α]
    {entries : List (α × β)}
    {k : α}
    {b : β}
    (hOnce : (entries.map Prod.fst).count k ≤ 1) :
    entries.lookup k = some b ↔ (k, b) ∈ entries := by
  induction entries with
  | nil => simp
  | cons e rest ih =>
      rcases e with ⟨l, c⟩
      rw [List.map_cons, List.count_cons] at hOnce
      by_cases hFirst : l = k
      · subst hFirst
        have hRest : l ∉ rest.map Prod.fst := by
          rw [← List.count_eq_zero]
          simp only [beq_self_eq_true, if_true] at hOnce
          omega
        have hOther : (l, b) ∉ rest := fun hMem =>
          hRest (List.mem_map_of_mem hMem)
        rw [List.lookup_cons_self, Option.some_inj,
          List.mem_cons, or_iff_left hOther, Prod.mk.injEq,
          and_iff_right rfl, eq_comm]
      · have hMiss : (k == l) = false :=
          beq_eq_false_iff_ne.mpr (Ne.symm hFirst)
        have hCount : (rest.map Prod.fst).count k ≤ 1 := by
          omega
        rw [List.lookup_cons, hMiss]
        simp only [List.mem_cons, Prod.mk.injEq,
          Ne.symm hFirst, false_and, false_or]
        exact ih hCount

/- A record has all members with a name that it knows. -/
theorem lookup_known?
    {names : List String}
    {members : List (Option String × Tree)}
    {r : Record}
    {name : String}
    (hKnown : known? names members = some r)
    (hName : name ∈ names) :
    r.lookup name = members.lookup (some name) := by
  induction members generalizing r with
  | nil =>
      cases hKnown
      rfl
  | cons m rest ih =>
      rcases m with ⟨_ | k, t⟩
      · cases hKnown
      · unfold known? at hKnown
        cases hRest : known? names rest with
        | none =>
            rw [hRest] at hKnown
            cases hKnown
        | some s =>
            simp only [hRest] at hKnown
            have hStep := ih hRest
            have hOther :
                name ≠ k →
                  ((some k, t) :: rest).lookup (some name) =
                    s.lookup name := by
              intro hNe
              have hMiss : (some name == some k) = false :=
                beq_eq_false_iff_ne.mpr fun hSame =>
                  hNe (Option.some.inj hSame)
              rw [List.lookup_cons, hMiss]
              exact hStep.symm
            by_cases hListed : names.contains k = true
            · rw [if_pos hListed] at hKnown
              by_cases hTwice : (s.any (·.1 == k)) = true
              · rw [if_pos hTwice] at hKnown
                cases hKnown
              · rw [if_neg hTwice] at hKnown
                cases hKnown
                by_cases hFirst : name = k
                · rw [hFirst, List.lookup_cons_self,
                    List.lookup_cons_self]
                · have hMiss : (name == k) = false :=
                    beq_eq_false_iff_ne.mpr hFirst
                  rw [List.lookup_cons, hMiss, hOther hFirst]
            · rw [if_neg hListed] at hKnown
              cases hKnown
              have hFirst : name ≠ k := by
                rintro rfl
                exact hListed (List.contains_iff_mem.mpr hName)
              exact (hOther hFirst).symm

/- A record has a field exactly if the members name it. -/
theorem any_known?_iff
    {names : List String}
    {members : List (Option String × Tree)}
    {r : Record}
    {name : String}
    (hKnown : known? names members = some r)
    (hName : name ∈ names) :
    (r.any (·.1 == name)) = true ↔
      some name ∈ members.map Prod.fst := by
  have hNone := congrArg Option.isNone
    (lookup_known? hKnown hName)
  rw [Bool.eq_iff_iff, Option.isNone_iff_eq_none,
    Option.isNone_iff_eq_none, List.lookup_eq_none_iff,
    List.lookup_eq_none_iff] at hNone
  simp only [bne_iff_ne] at hNone
  rw [← not_iff_not]
  simp only [List.any_eq_true, beq_iff_eq, List.mem_map,
    not_exists, not_and]
  constructor
  · intro hFresh p hMem hSame
    exact hNone.mp (fun q hIn hEq => hFresh q hIn hEq.symm) p hMem
      hSame.symm
  · intro hFresh p hMem hSame
    exact hNone.mpr (fun q hIn hEq => hFresh q hIn hEq.symm) p
      hMem hSame.symm

/- A member is added unless it is a field that is there. -/
theorem known?_cons_isSome_iff
    {names : List String}
    {rest : List (Option String × Tree)}
    {r : Record}
    (hRest : known? names rest = some r)
    (k : String)
    (t : Tree) :
    (known? names ((some k, t) :: rest)).isSome = true ↔
      (k ∈ names → some k ∉ rest.map Prod.fst) := by
  simp only [known?, hRest]
  by_cases hListed : k ∈ names
  · rw [if_pos (List.contains_iff_mem.mpr hListed),
      forall_prop_of_true hListed,
      ← any_known?_iff hRest hListed]
    by_cases hTwice : (r.any (·.1 == k)) = true
    · simp [hTwice]
    · simp [hTwice]
  · rw [if_neg (mt List.contains_iff_mem.mp hListed)]
    exact iff_of_true rfl fun hIn => absurd hIn hListed

/- Members make a record if all names can be read, each once. -/
theorem known?_isSome_iff
    (names : List String)
    (members : List (Option String × Tree)) :
    (known? names members).isSome = true ↔
      (∀ m ∈ members, m.1 ≠ none) ∧
        ∀ name ∈ names,
          (members.map Prod.fst).count (some name) ≤ 1 := by
  induction members with
  | nil => simp [known?]
  | cons m rest ih =>
      rcases m with ⟨_ | k, t⟩
      · simp [known?]
      · rw [List.forall_mem_cons,
          and_iff_right (Option.some_ne_none k)]
        have hCount (name : String) :
            (((some k, t) :: rest).map Prod.fst).count
                (some name) =
              (rest.map Prod.fst).count (some name) +
                if k = name then 1 else 0 := by
          simp [List.count_cons]
        cases hRest : known? names rest with
        | none =>
            rw [hRest] at ih
            simp only [known?, hRest]
            refine iff_of_false nofun ?_
            rintro ⟨hReadable, hOnce⟩
            have hSome := ih.mpr ⟨hReadable, fun name hName => by
              have := hOnce name hName
              have := hCount name
              omega⟩
            cases hSome
        | some r =>
            rw [hRest] at ih
            rcases ih.mp rfl with ⟨hReadable, hOnce⟩
            rw [and_iff_right hReadable,
              known?_cons_isSome_iff hRest k t,
              ← List.count_eq_zero]
            constructor
            · intro hFresh name hName
              rw [hCount]
              split
              · rename_i hSame
                have := hFresh (hSame ▸ hName)
                rw [← hSame]
                omega
              · exact hOnce name hName
            · intro hAll hListed
              have := hAll k hListed
              rw [hCount, if_pos rfl] at this
              omega

/- A tree is read as a record exactly if it has the form. -/
theorem record?_isSome_iff
    {names : List String}
    {t : Tree} :
    (t.record? names).isSome = true ↔ t.IsShaped names := by
  cases t with
  | object members =>
      rw [record?, known?_isSome_iff]
      constructor
      · rintro ⟨hReadable, hOnce⟩
        exact .object hReadable hOnce
      · rintro (⟨hReadable, hOnce⟩ | _)
        exact ⟨hReadable, hOnce⟩
  | list items =>
      rw [record?]
      constructor
      · intro hSome
        refine .list ?_
        by_contra hOther
        rw [if_neg hOther] at hSome
        cases hSome
      · rintro (_ | hLength)
        rw [if_pos hLength]
        rfl
  | _ => exact iff_of_false nofun nofun

/- Its fields are those that the tree has. -/
theorem lookup_eq_some_iff_has
    {names : List String}
    {t u : Tree}
    {r : Record}
    {name : String}
    (hRecord : t.record? names = some r)
    (hNames : names.Nodup)
    (hName : name ∈ names) :
    r.lookup name = some u ↔ t.Has names name u := by
  have hShaped : t.IsShaped names :=
    record?_isSome_iff.mp (Option.isSome_of_eq_some hRecord)
  cases hShaped with
  | object hReadable hOnce =>
      rw [lookup_known? hRecord hName,
        lookup_eq_some_iff_mem (hOnce name hName)]
      constructor
      · exact .member
      · rintro (hMember | _)
        exact hMember
  | @list items hLength =>
      rw [record?, if_pos hLength] at hRecord
      cases hRecord
      have hOnce :
          ((names.zip items).map Prod.fst).count name ≤ 1 := by
        rw [List.map_fst_zip (Nat.le_of_eq hLength.symm)]
        exact List.nodup_iff_count_le_one.mp hNames name
      rw [lookup_eq_some_iff_mem hOnce]
      constructor
      · exact .item
      · rintro (_ | hItem)
        exact hItem

end Tree

namespace Record

------------------------------------------------------------
-- What Is Read of a Field
------------------------------------------------------------

/- A field is read of what is found under its name. -/
theorem optional?_congr
    {α : Type}
    {read? : Tree → Option α}
    {name : String}
    {r s : Record}
    (hFound : r.lookup name = s.lookup name) :
    r.optional? read? name = s.optional? read? name := by
  rw [optional?, optional?, hFound]

/- What is read of a field, by a reader that refuses null. -/
theorem optional?_eq_some_some_iff
    {α : Type}
    {r : Record}
    {read? : Tree → Option α}
    {name : String}
    {a : α}
    (hNull : read? .null = none) :
    r.optional? read? name = some (some a) ↔
      ∃ u, r.lookup name = some u ∧ read? u = some a := by
  rw [optional?]
  cases r.lookup name with
  | none => simp
  | some u =>
      cases u with
      | null => simp [Tree.isNull, hNull]
      | _ => simp [Tree.isNull]

end Record

------------------------------------------------------------
-- Kinds of Trees
------------------------------------------------------------

/- What a field may hold. -/
abbrev Kind := Tree → Prop

/- A truth value. -/
def Kind.flag : Kind :=
  fun u => ∃ b, u = .bool b

/- A text that can be read. -/
def Kind.text : Kind :=
  fun u => ∃ s, u = .text (some s)

/- A truth value is read, and nothing else as one. -/
theorem Tree.bool?_isSome_iff (u : Tree) :
    u.bool?.isSome = true ↔ Kind.flag u := by
  cases u <;> simp [bool?, Kind.flag]

/- A text is read if it can be. -/
theorem Tree.text?_isSome_iff (u : Tree) :
    u.text?.isSome = true ↔ Kind.text u := by
  cases u <;> simp [text?, Kind.text, Option.isSome_iff_exists]

/- A truth value is read as what it is. -/
theorem Tree.bool?_eq_some_iff
    {u : Tree}
    {b : Bool} :
    u.bool? = some b ↔ u = .bool b := by
  cases u <;> simp [bool?]

/- A text is read as what it is. -/
theorem Tree.text?_eq_some_iff
    {u : Tree}
    {s : String} :
    u.text? = some s ↔ u = .text (some s) := by
  cases u <;> simp [text?]

------------------------------------------------------------
-- Records of Fields
------------------------------------------------------------

/- Names, and what may stand under each of them. -/
abbrev Fields := List (String × Kind)

namespace Fields

/- The names of the fields. -/
def names (fields : Fields) : List String :=
  fields.map Prod.fst

/-
  A body of the fields: it has their form, and what it has in a
  field is null or of its kind.
-/
structure Admits
    (fields : Fields)
    (t : Tree) : Prop where
  shaped : t.IsShaped fields.names
  fits : ∀ f ∈ fields, ∀ u, t.Has fields.names f.1 u →
    u = .null ∨ f.2 u

/- What a body of the fields has in one of them. -/
structure Gives
    (fields : Fields)
    (t : Tree)
    (name : String)
    (u : Tree) : Prop where
  admits : fields.Admits t
  has : t.Has fields.names name u

/- What a body gives in a field and is not null is of its kind. -/
theorem Gives.kind
    {fields : Fields}
    {t : Tree}
    {name : String}
    {u : Tree}
    {K : Kind}
    (hGives : fields.Gives t name u)
    (hField : (name, K) ∈ fields)
    (hPresent : u ≠ .null) :
    K u :=
  (hGives.admits.fits _ hField u hGives.has).resolve_left hPresent

/- A body of these fields, as a kind of its own. -/
def record (fields : Fields) : Kind :=
  fields.Admits

/- No body is null. -/
theorem not_admits_null (fields : Fields) :
    ¬fields.Admits .null := by
  rintro ⟨hShaped, _⟩
  cases hShaped

------------------------------------------------------------
-- Readers of Fields
------------------------------------------------------------

/- A record in which each field is left out, null or fitting. -/
def Fits
    (fields : Fields)
    (r : Record) : Prop :=
  ∀ f ∈ fields, ∀ u, r.lookup f.1 = some u →
    u = .null ∨ f.2 u

/- Of no fields all fit. -/
theorem fits_nil (r : Record) : Fits [] r :=
  List.forall_mem_nil _

/- The fields of a record fit one by one. -/
theorem fits_cons_iff
    {name : String}
    {K : Kind}
    {fields : Fields}
    {r : Record} :
    Fits ((name, K) :: fields) r ↔
      (∀ u, r.lookup name = some u → u = .null ∨ K u) ∧
        fields.Fits r :=
  List.forall_mem_cons

/- A field is read exactly if it fits. -/
theorem optional?_isSome_iff
    {α : Type}
    {read? : Tree → Option α}
    {K : Kind}
    (hReads : ∀ u, (read? u).isSome = true ↔ K u)
    (name : String)
    (r : Record) :
    (r.optional? read? name).isSome = true ↔
      Fits [(name, K)] r := by
  rw [fits_cons_iff, and_iff_left (fits_nil r),
    Record.optional?]
  cases r.lookup name with
  | none => simp
  | some u =>
      cases u with
      | null => simp [Tree.isNull]
      | _ => simp [Tree.isNull, ← hReads]

/- A reader of a field and of others succeeds if all fit. -/
theorem optional?_bind_isSome_iff
    {α β : Type}
    {read? : Tree → Option α}
    {K : Kind}
    {name : String}
    {fields : Fields}
    {r : Record}
    {next : Option α → Option β}
    (hReads : ∀ u, (read? u).isSome = true ↔ K u)
    (hNext : ∀ o, (next o).isSome = true ↔ fields.Fits r) :
    ((r.optional? read? name).bind next).isSome = true ↔
      Fits ((name, K) :: fields) r := by
  have hFirst := optional?_isSome_iff hReads name r
  rw [fits_cons_iff, and_iff_left (fits_nil r)]
    at hFirst
  rw [fits_cons_iff, ← hFirst]
  cases r.optional? read? name with
  | none => simp
  | some o =>
      rw [Option.bind_some, hNext, Option.isSome_some,
        and_iff_right rfl]

/- A reader of no field succeeds. -/
theorem some_isSome_iff
    {α : Type}
    (a : α)
    (r : Record) :
    (some a).isSome = true ↔ Fits [] r :=
  iff_of_true rfl (fits_nil r)

/- What reads the fields of a record reads the bodies of them. -/
theorem record?_bind_isSome_iff
    {β : Type}
    {fields : Fields}
    {next : Record → Option β}
    (hNames : fields.names.Nodup)
    (hNext : ∀ r, (next r).isSome = true ↔ fields.Fits r)
    (t : Tree) :
    ((t.record? fields.names).bind next).isSome = true ↔
      fields.Admits t := by
  cases hRecord : t.record? fields.names with
  | none =>
      refine iff_of_false nofun fun hAdmits => ?_
      have hSome := Tree.record?_isSome_iff.mpr hAdmits.shaped
      rw [hRecord] at hSome
      cases hSome
  | some r =>
      have hShaped : t.IsShaped fields.names :=
        Tree.record?_isSome_iff.mp (Option.isSome_of_eq_some hRecord)
      have hHas {f : String × Kind} (hField : f ∈ fields)
          (u : Tree) :
          r.lookup f.1 = some u ↔ t.Has fields.names f.1 u :=
        Tree.lookup_eq_some_iff_has hRecord hNames
          (List.mem_map_of_mem hField)
      rw [Option.bind_some, hNext]
      constructor
      · intro hFits
        exact ⟨hShaped, fun f hField u hFound =>
          hFits f hField u ((hHas hField u).mpr hFound)⟩
      · rintro ⟨_, hFits⟩ f hField u hFound
        exact hFits f hField u ((hHas hField u).mp hFound)

section Reads

variable {fields : Fields}
variable {t : Tree}
variable {r : Record}
variable {name : String}
variable (hNames : fields.names.Nodup)
variable (hAdmits : fields.Admits t)
variable (hRecord : t.record? fields.names = some r)
variable (hName : name ∈ fields.names)

include hNames hAdmits hRecord hName

/- What is read of a field is read of what the body gives. -/
theorem eq_some_iff_gives
    {α : Type}
    {read? : Tree → Option α}
    {o : Option α}
    {a : α}
    (hNull : read? .null = none)
    (hRead : r.optional? read? name = some o) :
    o = some a ↔
      ∃ u, fields.Gives t name u ∧ read? u = some a := by
  rw [← Option.some_inj, ← hRead,
    Record.optional?_eq_some_some_iff hNull]
  refine exists_congr fun u => and_congr_left fun _ => ?_
  rw [Tree.lookup_eq_some_iff_has hRecord hNames hName]
  constructor
  · exact .mk hAdmits
  · exact Gives.has

/- A truth value is read if the body gives it. -/
theorem eq_some_iff_gives_flag
    {o : Option Bool}
    {b : Bool}
    (hRead : r.optional? Tree.bool? name = some o) :
    o = some b ↔ fields.Gives t name (.bool b) := by
  rw [eq_some_iff_gives hNames hAdmits hRecord hName rfl hRead]
  simp only [Tree.bool?_eq_some_iff, exists_eq_right]

/- A text is read if the body gives it. -/
theorem eq_some_iff_gives_text
    {o : Option String}
    {s : String}
    (hRead : r.optional? Tree.text? name = some o) :
    o = some s ↔ fields.Gives t name (.text (some s)) := by
  rw [eq_some_iff_gives hNames hAdmits hRecord hName rfl hRead]
  simp only [Tree.text?_eq_some_iff, exists_eq_right]

end Reads

/-
  What is read of the body in a field is read of the one that is
  given, as all that it says is said of what is read.
-/
theorem exists_gives_iff
    {α : Type}
    {fields inner : Fields}
    {t : Tree}
    {name : String}
    {read? : Tree → Option α}
    {o : Option α}
    {P : Tree → Prop}
    {Q : α → Prop}
    (hReads : ∀ u, (read? u).isSome = true ↔ inner.Admits u)
    (hGives : ∀ a,
      o = some a ↔ ∃ u, fields.Gives t name u ∧ read? u = some a)
    (hAdmits : ∀ u, P u → inner.Admits u)
    (hPart : ∀ u a, read? u = some a → (Q a ↔ P u)) :
    (∃ a, o = some a ∧ Q a) ↔ ∃ u, fields.Gives t name u ∧ P u := by
  simp only [hGives]
  constructor
  · rintro ⟨a, ⟨u, hField, hRead⟩, hSaid⟩
    exact ⟨u, hField, (hPart u a hRead).mp hSaid⟩
  · rintro ⟨u, hField, hSaid⟩
    rcases Option.isSome_iff_exists.mp
        ((hReads u).mpr (hAdmits u hSaid)) with ⟨a, hRead⟩
    exact ⟨a, ⟨u, hField, hRead⟩, (hPart u a hRead).mpr hSaid⟩

section Single

variable {α : Type}
variable {read? : Tree → Option α}
variable {K : Kind}
variable (hReads : ∀ u, (read? u).isSome = true ↔ K u)

include hReads

/- A reader of one field reads the bodies of that field. -/
theorem single_isSome_iff
    (name : String)
    (t : Tree) :
    ((t.record? [name]).bind fun r =>
        r.optional? read? name).isSome = true ↔
      Admits [(name, K)] t := by
  have hNames : (names [(name, K)]).Nodup :=
    List.nodup_singleton name
  exact record?_bind_isSome_iff hNames
    (optional?_isSome_iff hReads name) t

/- It finds what can be read of what the body gives. -/
theorem single_eq_some_some_iff
    {name : String}
    {t : Tree}
    {a : α}
    (hNull : read? .null = none) :
    ((t.record? [name]).bind fun r =>
        r.optional? read? name) = some (some a) ↔
      ∃ u, Gives [(name, K)] t name u ∧ read? u = some a := by
  have hNames : (names [(name, K)]).Nodup :=
    List.nodup_singleton name
  have hName : name ∈ names [(name, K)] :=
    List.mem_singleton.mpr rfl
  have hGives {o : Option α}
      (hRead : ((t.record? [name]).bind fun r =>
        r.optional? read? name) = some o) :
      o = some a ↔
        ∃ u, Gives [(name, K)] t name u ∧ read? u = some a := by
    have hAdmits := (single_isSome_iff hReads name t).mp
      (Option.isSome_of_eq_some hRead)
    rcases Option.bind_eq_some_iff.mp hRead with
      ⟨r, hRecord, hField⟩
    exact eq_some_iff_gives hNames hAdmits hRecord hName hNull
      hField
  constructor
  · intro hRead
    exact (hGives hRead).mp rfl
  · rintro ⟨u, hField, hValue⟩
    rcases Option.isSome_iff_exists.mp
        ((single_isSome_iff hReads name t).mpr hField.admits) with
      ⟨o, hRead⟩
    rw [hRead, (hGives hRead).mpr ⟨u, hField, hValue⟩]

end Single

/- A reader of one text finds the one that the body gives. -/
theorem single_text_iff
    {name : String}
    {t : Tree}
    {s : String} :
    ((t.record? [name]).bind fun r =>
        r.optional? Tree.text? name) = some (some s) ↔
      Gives [(name, Kind.text)] t name (.text (some s)) := by
  rw [single_eq_some_some_iff Tree.text?_isSome_iff rfl]
  simp only [Tree.text?_eq_some_iff, exists_eq_right]

end Fields

end LightningGateway.Json
