import LightningGateway.FileTree
import LightningGateway.Proofs.Run

/-
  What changes of a tree of files change.

  A tree is told by what there is under each path.  Making
  folders puts a folder under every path on the way, writing a
  file puts the file under its path, and both leave all else as
  it is.

  Key definitions include:
    * `FileTree.at?`
    * `FileTree.Item`
    * `FileTree.item?`

  Main results:
    * `FileTree.follow_enter_eq_ok_iff`
    * `FileTree.item?_makeFolders?`
    * `FileTree.item?_write?`
-/

namespace LightningGateway.FileTree

------------------------------------------------------------
-- What There Is
------------------------------------------------------------

/- What names lead to, from the root of a tree. -/
def at? : List String → FileTree → Option FileTree
  | [], t => some t
  | _ :: _, .file _ => none
  | name :: rest, .folder entries =>
      (entries.lookup name).bind (at? rest)

/- What there can be under a path. -/
inductive Item where
  | file (bytes : List UInt8)
  | folder
  deriving DecidableEq, Repr

/- What a tree is, apart from what it has inside. -/
def item : FileTree → Item
  | .file bytes => .file bytes
  | .folder _ => .folder

/- What there is under a path. -/
def item?
    (t : FileTree)
    (path : List String) : Option Item :=
  (t.at? path).map item

/- Names that are not too long to be entered. -/
def AreShort (names : List String) : Prop :=
  ∀ name ∈ names, name.utf8ByteSize ≤ nameLimit

instance (names : List String) : Decidable (AreShort names) :=
  inferInstanceAs (Decidable (∀ name ∈ names,
    name.utf8ByteSize ≤ nameLimit))

/- Entering names leads to what they lead to, if they are short. -/
theorem follow_enter_eq_ok_iff
    {around : List FileTree}
    {t u : FileTree}
    {names : List String} :
    t.follow around (names.map .enter) = .ok u ↔
      AreShort names ∧ t.at? names = some u := by
  induction names generalizing around t with
  | nil => simp [follow, at?, AreShort]
  | cons name rest ih =>
      cases t with
      | file bytes => simp [follow, at?]
      | folder entries =>
          by_cases hLong : name.utf8ByteSize > nameLimit
          · simp only [List.map_cons, follow, if_pos hLong,
              AreShort, List.forall_mem_cons, reduceCtorEq,
              false_iff]
            omega
          · simp only [List.map_cons, follow, if_neg hLong, at?,
              AreShort, List.forall_mem_cons,
              Nat.le_of_not_lt hLong, true_and]
            cases entries.lookup name with
            | none => simp
            | some v => exact ih

/- There is a file if it is what the names lead to. -/
theorem item?_eq_file_iff
    {t : FileTree}
    {path : List String}
    {bytes : List UInt8} :
    t.item? path = some (.file bytes) ↔
      t.at? path = some (.file bytes) := by
  rw [item?, Option.map_eq_some_iff]
  constructor
  · rintro ⟨u, hAt, hItem⟩
    cases u with
    | file own =>
        cases hItem
        exact hAt
    | folder entries => cases hItem
  · intro hAt
    exact ⟨_, hAt, rfl⟩

------------------------------------------------------------
-- Entries
------------------------------------------------------------

/- The entry with a name is the one that was put. -/
theorem lookup_put
    (name : String)
    (t : FileTree)
    (entries : List (String × FileTree))
    (k : String) :
    (put name t entries).lookup k =
      if k = name then some t else entries.lookup k := by
  induction entries with
  | nil =>
      by_cases hSame : k = name
      · simp [put, hSame]
      · simp [put, List.lookup_cons, hSame,
          beq_eq_false_iff_ne.mpr hSame]
  | cons e rest ih =>
      rcases e with ⟨l, u⟩
      by_cases hKnown : l = name
      · subst hKnown
        by_cases hSame : k = l
        · simp [put, hSame]
        · simp [put, List.lookup_cons, hSame,
            beq_eq_false_iff_ne.mpr hSame]
      · by_cases hFirst : k = l
        · subst hFirst
          simp [put, hKnown]
        · simp [put, List.lookup_cons, hKnown,
            beq_eq_false_iff_ne.mpr hFirst, ih]

/- Under a name that was put there is what was put. -/
theorem item?_put
    (name : String)
    (t : FileTree)
    (entries : List (String × FileTree))
    (k : String)
    (rest : List String) :
    (folder (put name t entries)).item? (k :: rest) =
      if k = name then t.item? rest
      else (folder entries).item? (k :: rest) := by
  rw [item?, at?, lookup_put]
  by_cases hSame : k = name
  · rw [if_pos hSame, if_pos hSame, Option.bind_some, item?]
  · rw [if_neg hSame, if_neg hSame, item?, at?]

/- Nothing is under a name that a folder does not have. -/
theorem item?_of_lookup_none
    {name : String}
    {entries : List (String × FileTree)}
    (hNone : entries.lookup name = none)
    (rest : List String) :
    (folder entries).item? (name :: rest) = none := by
  rw [item?, at?, hNone]
  rfl

/- Under a name that it has is what is there. -/
theorem item?_of_lookup_some
    {name : String}
    {t : FileTree}
    {entries : List (String × FileTree)}
    (hSome : entries.lookup name = some t)
    (rest : List String) :
    (folder entries).item? (name :: rest) = t.item? rest := by
  rw [item?, at?, hSome]
  rfl

/- Nothing is inside a file. -/
theorem item?_file
    (bytes : List UInt8)
    (path : List String) :
    (file bytes).item? path =
      if path = [] then some (.file bytes) else none := by
  cases path with
  | nil => rfl
  | cons k rest => rfl

------------------------------------------------------------
-- Making Folders
------------------------------------------------------------

/-
  Folders are made in a folder, which has the next one, or
  gets it.
-/
theorem makeFolders?_cons_eq_ok
    {name : String}
    {rest : List String}
    {t u : FileTree}
    (hMake : t.makeFolders? (name :: rest) = .ok u) :
    ∃ entries inner v, t = .folder entries ∧
      ((entries.lookup name = none ∧ inner = []) ∨
        entries.lookup name = some (.folder inner)) ∧
      (folder inner).makeFolders? rest = .ok v ∧
      u = .folder (put name v entries) := by
  cases t with
  | file bytes => cases hMake
  | folder entries =>
      rw [makeFolders?] at hMake
      cases hFound : entries.lookup name with
      | none =>
          rw [hFound] at hMake
          rcases exists_of_map_eq_ok hMake with ⟨v, hRest, rfl⟩
          exact ⟨entries, [], v, rfl, .inl ⟨hFound, rfl⟩, hRest,
            rfl⟩
      | some w =>
          rw [hFound] at hMake
          cases w with
          | file bytes =>
              dsimp only at hMake
              split at hMake <;> cases hMake
          | folder inner =>
              rcases exists_of_map_eq_ok hMake with
                ⟨v, hRest, rfl⟩
              exact ⟨entries, inner, v, rfl, .inr hFound, hRest,
                rfl⟩

/-
  Making folders puts folders on the way and leaves all else,
  and no file is on the way.
-/
theorem item?_makeFolders?
    {names : List String}
    {t u : FileTree}
    (hMake : t.makeFolders? names = .ok u)
    (path : List String) :
    u.item? path =
        (if path <+: names then some .folder else t.item? path) ∧
      (path <+: names →
        t.item? path = none ∨ t.item? path = some .folder) := by
  induction names generalizing t u path with
  | nil =>
      cases t with
      | file bytes => cases hMake
      | folder entries =>
          cases hMake
          simp only [List.prefix_nil]
          constructor
          · split
            · subst path
              rfl
            · rfl
          · rintro rfl
            exact .inr rfl
  | cons name rest ih =>
      rcases makeFolders?_cons_eq_ok hMake with
        ⟨entries, inner, v, rfl, hFound, hRest, rfl⟩
      cases path with
      | nil =>
          rw [if_pos List.nil_prefix]
          exact ⟨rfl, fun _ => .inr rfl⟩
      | cons k path =>
          simp only [item?_put, List.cons_prefix_cons]
          by_cases hSame : k = name
          · subst hSame
            rcases ih hRest path with ⟨hItem, hFree⟩
            simp only [if_true, true_and, hItem]
            rcases hFound with ⟨hNone, rfl⟩ | hSome
            · rw [item?_of_lookup_none hNone]
              refine ⟨?_, fun _ => .inl rfl⟩
              cases path with
              | nil => simp
              | cons l path => rw [item?_of_lookup_none rfl]
            · rw [item?_of_lookup_some hSome]
              exact ⟨rfl, hFree⟩
          · simp only [hSame, false_and, if_false, false_imp_iff,
              and_self]

------------------------------------------------------------
-- Writing Files
------------------------------------------------------------

/-
  A file is written in a folder, under a name that is no folder,
  or in what the folder has under the first name.
-/
theorem write?_cons_eq_ok
    {bytes : List UInt8}
    {name : String}
    {rest : List String}
    {t u : FileTree}
    (hWrite : t.write? bytes (name :: rest) = .ok u) :
    ∃ entries v, t = .folder entries ∧
      u = .folder (put name v entries) ∧
      ((rest = [] ∧ v = .file bytes ∧
          ∀ inner, entries.lookup name ≠ some (.folder inner)) ∨
        ∃ w, entries.lookup name = some w ∧
          w.write? bytes rest = .ok v) := by
  cases t with
  | file own => cases hWrite
  | folder entries =>
      cases rest with
      | nil =>
          rw [write?] at hWrite
          split at hWrite
          · cases hWrite
          · next hOther =>
              cases hWrite
              exact ⟨entries, _, rfl, rfl,
                .inl ⟨rfl, rfl, hOther⟩⟩
      | cons next rest =>
          rw [write?] at hWrite
          · cases hFound : entries.lookup name with
            | none =>
                rw [hFound] at hWrite
                cases hWrite
            | some w =>
                rw [hFound] at hWrite
                rcases exists_of_map_eq_ok hWrite with
                  ⟨v, hRest, rfl⟩
                exact ⟨entries, v, rfl, rfl,
                  .inr ⟨w, hFound, hRest⟩⟩
          · exact List.cons_ne_nil next rest

/- Writing a file puts it under its path and leaves all else. -/
theorem item?_write?
    {bytes : List UInt8}
    {names : List String}
    {t u : FileTree}
    (hWrite : t.write? bytes names = .ok u)
    (path : List String) :
    u.item? path =
      if path = names then some (.file bytes)
      else t.item? path := by
  induction names generalizing t u path with
  | nil => cases t <;> cases hWrite
  | cons name rest ih =>
      rcases write?_cons_eq_ok hWrite with
        ⟨entries, v, rfl, rfl, hWritten⟩
      have hInside (path : List String) :
          v.item? path =
            if path = rest then some (.file bytes)
            else (folder entries).item? (name :: path) := by
        rcases hWritten with ⟨rfl, rfl, hOther⟩ | ⟨w, hFound, hRest⟩
        · rw [item?_file]
          cases hFound : entries.lookup name with
          | none => rw [item?_of_lookup_none hFound]
          | some w =>
              rw [item?_of_lookup_some hFound]
              cases w with
              | file own =>
                  rw [item?_file]
                  split <;> rfl
              | folder inner => exact absurd hFound (hOther inner)
        · rw [item?_of_lookup_some hFound]
          exact ih hRest path
      cases path with
      | nil => rfl
      | cons k path =>
          rw [item?_put]
          by_cases hSame : k = name
          · subst hSame
            simp only [if_true, hInside, List.cons.injEq,
              true_and]
          · simp only [List.cons.injEq, hSame, false_and,
              if_false]

end LightningGateway.FileTree
