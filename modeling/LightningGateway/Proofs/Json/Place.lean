import LightningGateway.Proofs.Json.Record

/-
  Places in JSON trees.

  A place is a record in which one field is left open.  Whether
  the record can be read does not depend on what is put there,
  and no other field does.  The same holds for the value of the
  tree, if what is put there has a value.

  Key definitions include:
    * `Tree.IsPlace`

  Main results:
    * `Tree.IsPlace.record?_cases`
    * `Tree.IsPlace.valueWithin?_cases`
-/

namespace LightningGateway.Json.Tree

/-
  A record in which a field is left open: an object with a
  member under its name, or a list with an item in its place.
-/
inductive IsPlace
    (names : List String)
    (name : String) : (Tree → Tree) → Prop
  | member
      (before after : List (Option String × Tree)) :
      IsPlace names name fun t =>
        .object (before ++ (some name, t) :: after)
  | item
      (before after : List Tree)
      (hName : names[before.length]? = some name) :
      IsPlace names name fun t => .list (before ++ t :: after)

------------------------------------------------------------
-- Records
------------------------------------------------------------

/- Among the members that are known, a place stays a place. -/
theorem known?_cases
    {names : List String}
    {name : String}
    (hName : name ∈ names)
    (before after : List (Option String × Tree)) :
    (∀ t, known? names (before ++ (some name, t) :: after) =
      none) ∨
    ∃ first last : Record, (∀ p ∈ first, name ≠ p.1) ∧
      ∀ t, known? names (before ++ (some name, t) :: after) =
        some (first ++ (name, t) :: last) := by
  induction before with
  | nil =>
      cases hAfter : known? names after with
      | none =>
          left
          intro t
          simp only [List.nil_append, known?, hAfter]
      | some r =>
          by_cases hTwice : (r.any (·.1 == name)) = true
          · left
            intro t
            simp only [List.nil_append, known?, hAfter,
              List.contains_iff_mem.mpr hName, if_pos hTwice,
              if_true]
          · right
            refine ⟨[], r, List.forall_mem_nil _, fun t => ?_⟩
            simp only [List.nil_append, known?, hAfter,
              List.contains_iff_mem.mpr hName, if_neg hTwice,
              if_true]
  | cons m rest ih =>
      rcases m with ⟨_ | k, u⟩
      · left
        intro t
        simp only [List.cons_append, known?]
      · rcases ih with hNone | ⟨first, last, hFirst, hSome⟩
        · left
          intro t
          simp only [List.cons_append, known?, hNone]
        · -- What is put there does not change the names.
          have hNames (t : Tree) :
              ((first ++ (name, t) :: last).any (·.1 == k)) =
                (first.any (·.1 == k) || (name == k ||
                  last.any (·.1 == k))) := by
            rw [List.any_append, List.any_cons]
          by_cases hKnown : names.contains k = true
          · by_cases hTwice :
                (first.any (·.1 == k) || (name == k ||
                  last.any (·.1 == k))) = true
            · left
              intro t
              simp only [List.cons_append, known?, hSome,
                if_pos hKnown, hNames, if_pos hTwice]
            · right
              have hOther : name ≠ k := by
                rintro rfl
                simp at hTwice
              refine ⟨(k, u) :: first, last,
                List.forall_mem_cons.mpr ⟨hOther, hFirst⟩,
                fun t => ?_⟩
              simp only [List.cons_append, known?, hSome,
                if_pos hKnown, hNames, if_neg hTwice]
          · right
            refine ⟨first, last, hFirst, fun t => ?_⟩
            simp only [List.cons_append, known?, hSome,
              if_neg hKnown]

/-
  A record with a field left open is none whatever is put there,
  or it has the field and others.
-/
theorem IsPlace.record?_cases
    {names : List String}
    {name : String}
    {place : Tree → Tree}
    (hPlace : IsPlace names name place)
    (hName : name ∈ names)
    (hNames : names.Nodup) :
    (∀ t, (place t).record? names = none) ∨
    ∃ first last : Record, (∀ p ∈ first, name ≠ p.1) ∧
      ∀ t, (place t).record? names =
        some (first ++ (name, t) :: last) := by
  cases hPlace with
  | member before after => exact known?_cases hName before after
  | item before after hAt =>
      by_cases hLength :
          before.length + (after.length + 1) = names.length
      · right
        rcases List.getElem?_eq_some_iff.mp hAt with ⟨hLess, hGet⟩
        have hSplit :
            names =
              names.take before.length ++
                name :: names.drop (before.length + 1) := by
          rw [← hGet, List.getElem_cons_drop,
            List.take_append_drop]
        have hTake :
            (names.take before.length).length =
              before.length := by
          rw [List.length_take]
          omega
        refine ⟨(names.take before.length).zip before,
          (names.drop (before.length + 1)).zip after, ?_, ?_⟩
        · rintro ⟨k, u⟩ hMem rfl
          rw [hSplit] at hNames
          exact (List.nodup_append.mp hNames).2.2 _
            (List.of_mem_zip hMem).1 _ (.head _) rfl
        · intro t
          rw [record?, if_pos (by simpa using hLength)]
          conv_lhs => rw [hSplit]
          rw [List.zip_append hTake, List.zip_cons_cons]
      · left
        intro t
        rw [record?, if_neg (by simpa using hLength)]

/- What is put in a record is found under its name. -/
theorem lookup_put
    {name : String}
    {first : Record}
    (hFirst : ∀ p ∈ first, name ≠ p.1)
    (t : Tree)
    (last : Record) :
    (first ++ (name, t) :: last).lookup name = some t := by
  refine List.lookup_eq_some_iff.mpr ⟨first, last, rfl, ?_⟩
  intro p hMem
  exact bne_iff_ne.mpr (hFirst p hMem)

/- What is found under another name does not depend on it. -/
theorem lookup_put_of_ne
    {name other : String}
    (hOther : other ≠ name)
    (first last : Record)
    (t : Tree) :
    (first ++ (name, t) :: last).lookup other =
      (first ++ last).lookup other := by
  rw [List.lookup_append, List.lookup_append,
    Value.lookup_cons_eq_ite, if_neg hOther]

------------------------------------------------------------
-- Values
------------------------------------------------------------

/- A value of members has the value of what is put among them. -/
theorem membersWithin?_cases
    (depth : Nat)
    (name : String)
    (before after : List (Option String × Tree)) :
    (∀ t, membersWithin? depth
        (before ++ (some name, t) :: after) = none) ∨
    ∃ first last, ∀ t,
      membersWithin? depth (before ++ (some name, t) :: after) =
        (valueWithin? depth t).map fun v =>
          first ++ (name, v) :: last := by
  induction before with
  | nil =>
      cases hAfter : membersWithin? depth after with
      | none =>
          left
          intro t
          simp [membersWithin?, hAfter]
      | some last =>
          right
          refine ⟨[], last, fun t => ?_⟩
          cases hValue : valueWithin? depth t <;>
            simp [membersWithin?, hAfter, hValue]
  | cons m rest ih =>
      rcases m with ⟨k, u⟩
      rcases ih with hNone | ⟨first, last, hSome⟩
      · left
        intro t
        simp [membersWithin?, hNone]
      · rcases k with _ | k
        · left
          intro t
          simp [membersWithin?]
        · cases hOther : valueWithin? depth u with
          | none =>
              left
              intro t
              simp [membersWithin?, hOther]
          | some w =>
              right
              refine ⟨(k, w) :: first, last, fun t => ?_⟩
              cases hValue : valueWithin? depth t <;>
                simp [membersWithin?, hOther, hSome, hValue]

/- So with the value of the items of a list. -/
theorem valuesWithin?_cases
    (depth : Nat)
    (before after : List Tree) :
    (∀ t, valuesWithin? depth (before ++ t :: after) = none) ∨
    ∃ first last, ∀ t,
      valuesWithin? depth (before ++ t :: after) =
        (valueWithin? depth t).map fun v =>
          first ++ v :: last := by
  induction before with
  | nil =>
      cases hAfter : valuesWithin? depth after with
      | none =>
          left
          intro t
          simp [valuesWithin?, hAfter]
      | some last =>
          right
          refine ⟨[], last, fun t => ?_⟩
          cases hValue : valueWithin? depth t <;>
            simp [valuesWithin?, hAfter, hValue]
  | cons u rest ih =>
      rcases ih with hNone | ⟨first, last, hSome⟩
      · left
        intro t
        simp [valuesWithin?, hNone]
      · cases hOther : valueWithin? depth u with
        | none =>
            left
            intro t
            simp [valuesWithin?, hOther]
        | some w =>
            right
            refine ⟨w :: first, last, fun t => ?_⟩
            cases hValue : valueWithin? depth t <;>
              simp [valuesWithin?, hOther, hSome, hValue]

/-
  A tree with a place has no value whatever is put there, or the
  value of that in a place, and no other member depends on it.
-/
theorem IsPlace.valueWithin?_cases
    {names : List String}
    {name : String}
    {place : Tree → Tree}
    (hPlace : IsPlace names name place)
    (depth : Nat) :
    (∀ t, (place t).valueWithin? depth = none) ∨
    ∃ (inner : Nat) (around : Value → Value),
      (∀ t, (place t).valueWithin? depth =
        (t.valueWithin? inner).map around) ∧
      ∀ other ≠ name, ∀ v w,
        (around v).member? other = (around w).member? other := by
  cases depth with
  | zero =>
      left
      intro t
      cases hPlace <;> rfl
  | succ inner =>
      cases hPlace with
      | member before after =>
          rcases membersWithin?_cases inner name before after with
            hNone | ⟨first, last, hSome⟩
          · left
            intro t
            simp only [valueWithin?, hNone, Option.map_none]
          · right
            refine ⟨inner, fun v =>
              .object (Value.sortMembers
                (first ++ (name, v) :: last)), ?_, ?_⟩
            · intro t
              simp only [valueWithin?, hSome, Option.map_map]
              rfl
            · intro other hOther v w
              simp only [Value.member?,
                Value.lookup_sortMembers_reverse,
                List.reverse_append, List.reverse_cons,
                List.append_assoc, List.lookup_append,
                Value.lookup_cons_eq_ite, if_neg hOther,
                List.singleton_append]
      | item before after _ =>
          rcases valuesWithin?_cases inner before after with
            hNone | ⟨first, last, hSome⟩
          · left
            intro t
            simp only [valueWithin?, hNone, Option.map_none]
          · right
            refine ⟨inner, fun v => .list (first ++ v :: last),
              ?_, fun _ _ _ _ => rfl⟩
            intro t
            simp only [valueWithin?, hSome, Option.map_map]
            rfl

/- Whether there is a value depends on whether that has one. -/
theorem IsPlace.isSome_valueWithin?
    {names : List String}
    {name : String}
    {place : Tree → Tree}
    (hPlace : IsPlace names name place)
    {t u : Tree}
    (hValues :
      ∀ depth, (t.valueWithin? depth).isSome =
        (u.valueWithin? depth).isSome)
    (depth : Nat) :
    ((place t).valueWithin? depth).isSome =
      ((place u).valueWithin? depth).isSome := by
  rcases hPlace.valueWithin?_cases depth with
    hNone | ⟨inner, around, hSome, _⟩
  · rw [hNone, hNone]
  · rw [hSome, hSome, Option.isSome_map, Option.isSome_map,
      hValues inner]

/- A record is not null. -/
theorem IsPlace.isNull_eq_false
    {names : List String}
    {name : String}
    {place : Tree → Tree}
    (hPlace : IsPlace names name place)
    (t : Tree) :
    (place t).isNull = false := by
  cases hPlace <;> rfl

end LightningGateway.Json.Tree
