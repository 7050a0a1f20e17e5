import LightningGateway.Json.Record
import LightningGateway.Proofs.Json.RoundTrip
import Mathlib.Data.List.Induction

/-
  Records that were written, and what is read of them.

  The fields of a record are texts, truth values and integers of
  64 bits, or they are null.  Whoever reads such a record finds
  each field under its name, in an object whose members come in
  any order, and in a record that asks for just these names.

  Key definitions include:
    * `Value.IsRecord`
    * `Record.Holds`

  Main results:
    * `Value.IsRecord.exists_parse?`
    * `Tree.exists_parse?_record`
    * `Tree.exists_parse?_tagged`
-/

namespace LightningGateway.Json

namespace Value

------------------------------------------------------------
-- Members by Name
------------------------------------------------------------

/- The first member with a name is found under it. -/
theorem lookup_cons_eq_ite
    {α : Type}
    (name k : String)
    (a : α)
    (rest : List (String × α)) :
    ((name, a) :: rest).lookup k =
      if k = name then some a else rest.lookup k := by
  rw [List.lookup_cons]
  by_cases hSame : k = name
  · rw [if_pos hSame, beq_iff_eq.mpr hSame]
  · rw [if_neg hSame, beq_eq_false_iff_ne.mpr hSame]

/- A member that was put is found, and so are all others. -/
theorem lookup_putMember
    (name : String)
    (v : Value)
    (members : List (String × Value))
    (k : String) :
    (putMember name v members).lookup k =
      if k = name then some v else members.lookup k := by
  induction members with
  | nil => exact lookup_cons_eq_ite name k v []
  | cons m rest ih =>
      rcases m with ⟨l, w⟩
      unfold putMember
      by_cases hKnown : name = l
      · subst hKnown
        rw [if_pos rfl, lookup_cons_eq_ite, lookup_cons_eq_ite]
        split <;> rfl
      · rw [if_neg hKnown]
        split
        · exact lookup_cons_eq_ite name k v _
        · rw [lookup_cons_eq_ite, lookup_cons_eq_ite, ih]
          by_cases hFirst : k = l
          · rw [if_pos hFirst, if_pos hFirst,
              if_neg fun hSame => hKnown (hSame.symm.trans hFirst)]
          · rw [if_neg hFirst, if_neg hFirst]

/- Of several members with one name the last one is found. -/
theorem lookup_sortMembers_reverse
    (members : List (String × Value))
    (k : String) :
    (sortMembers members).lookup k = members.reverse.lookup k := by
  induction members using List.reverseRecOn with
  | nil => rfl
  | append_singleton rest m ih =>
      rw [sortMembers, List.foldl_append, ← sortMembers,
        List.foldl_cons, List.foldl_nil, lookup_putMember,
        List.reverse_append, List.reverse_singleton,
        List.singleton_append, lookup_cons_eq_ite, ih]

/- Members with different names are found in any order. -/
theorem lookup_sortMembers
    {members : List (String × Value)}
    (hNames : (members.map Prod.fst).Nodup)
    (k : String) :
    (sortMembers members).lookup k = members.lookup k := by
  have hAll :
      ∀ done : List (String × Value),
        (members.foldl
            (fun done m => putMember m.1 m.2 done) done).lookup
          k =
        (members.lookup k).or (done.lookup k) := by
    induction members with
    | nil => exact fun _ => rfl
    | cons m rest ih =>
        rcases m with ⟨l, w⟩
        rcases List.nodup_cons.mp hNames with ⟨hFresh, hRest⟩
        intro done
        rw [List.foldl_cons, ih hRest, lookup_putMember,
          lookup_cons_eq_ite]
        by_cases hFirst : k = l
        · have hNone : rest.lookup k = none := by
            apply List.lookup_eq_none_iff.mpr
            intro p hMem
            rw [bne_iff_ne]
            intro hSame
            exact hFresh (List.mem_map.mpr
              ⟨p, hMem, hSame.symm.trans hFirst⟩)
          rw [if_pos hFirst, if_pos hFirst, hNone]
          rfl
        · rw [if_neg hFirst, if_neg hFirst]
  rw [sortMembers, hAll, List.lookup_nil, Option.or_none]

------------------------------------------------------------
-- Scalars
------------------------------------------------------------

/- Whether a value is no list, no object and no real number. -/
def IsScalar : Value → Prop
  | .null => True
  | .bool _ => True
  | .int n => -(signedLimit : Int) ≤ n ∧ n < (wordLimit : Int)
  | .text _ => True
  | _ => False

/- The tree of a scalar has the scalar as its value. -/
theorem IsScalar.exists_tree
    {v : Value}
    (hScalar : v.IsScalar) :
    ∃ t, v.tree? = some t ∧
      ∀ depth, t.valueWithin? depth = some v := by
  cases v with
  | null => exact ⟨_, rfl, fun _ => rfl⟩
  | bool b => exact ⟨_, rfl, fun _ => rfl⟩
  | int n =>
      exact ⟨_, rfl, fun _ =>
        Numeral.value?_ofInt hScalar.1 hScalar.2⟩
  | text s => exact ⟨_, rfl, fun _ => rfl⟩
  | _ => cases hScalar

------------------------------------------------------------
-- Written Records
------------------------------------------------------------

/- Scalars under different names. -/
structure IsRecord (members : List (String × Value)) : Prop where
  scalar : ∀ m ∈ members, m.2.IsScalar
  nodup : (members.map Prod.fst).Nodup

/- A record without its first field is a record. -/
theorem IsRecord.tail
    {m : String × Value}
    {rest : List (String × Value)}
    (hRecord : IsRecord (m :: rest)) :
    IsRecord rest where
  scalar := fun n hMem => hRecord.scalar n (.tail m hMem)
  nodup := (List.nodup_cons.mp hRecord.nodup).2

/- The trees of the fields of a record have them as values. -/
theorem IsRecord.exists_trees
    {members : List (String × Value)}
    (hRecord : IsRecord members) :
    ∃ ts, memberTrees? members = some ts ∧
      ∀ depth, Tree.membersWithin? depth ts = some members := by
  induction members with
  | nil => exact ⟨[], rfl, fun _ => rfl⟩
  | cons m rest ih =>
      rcases m with ⟨k, v⟩
      rcases (hRecord.scalar _ (.head rest)).exists_tree with
        ⟨t, hTree, hValue⟩
      rcases ih hRecord.tail with ⟨ts, hTrees, hValues⟩
      refine ⟨(some k, t) :: ts, ?_, fun depth => ?_⟩
      · simp only [memberTrees?, hTree, hTrees]
      · simp only [Tree.membersWithin?, hValue, hValues]

/- The tree of an object is made of the trees of its members. -/
theorem tree?_object
    {members : List (String × Value)}
    {ts : List (Option String × Tree)}
    (hTrees : memberTrees? members = some ts) :
    (Value.object members).tree? = some (.object ts) := by
  rw [tree?, hTrees]
  rfl

/-
  A record that was written is read as an object with the same
  members, whatever order they are found in.
-/
theorem IsRecord.exists_parse?
    {members : List (String × Value)}
    (hRecord : IsRecord members) :
    ∃ v, Value.parse? (Value.object members).render = some v ∧
      ∀ name, v.member? name = members.lookup name := by
  rcases hRecord.exists_trees with ⟨ts, hTrees, hValues⟩
  refine ⟨.object (sortMembers members), ?_, ?_⟩
  · rw [Value.parse?, parse?_render (tree?_object hTrees),
      Option.bind_some, Tree.value?, Tree.deepest,
      Tree.valueWithin?, hValues]
    rfl
  · exact lookup_sortMembers hRecord.nodup

end Value

------------------------------------------------------------
-- Fields
------------------------------------------------------------

namespace Record

/- Whether the fields of a record are what was written. -/
def Holds
    (r : Record)
    (members : List (String × Value)) : Prop :=
  ∀ name, r.lookup name = (members.lookup name).bind Value.tree?

variable {r : Record} {members : List (String × Value)}
variable {name : String}

/- A text that was written is read. -/
theorem Holds.text
    {s : String}
    (hHolds : r.Holds members)
    (hField : members.lookup name = some (.text s)) :
    r.required? Tree.text? name = some s := by
  rw [required?, hHolds, hField]
  rfl

/- So is a text that may be absent. -/
theorem Holds.ofText?
    {s : Option String}
    (hHolds : r.Holds members)
    (hField : members.lookup name = some (.ofText? s)) :
    r.optional? Tree.text? name = some s := by
  rw [optional?, hHolds, hField]
  cases s <;> rfl

end Record

namespace Tree

open Value

/- Members with different names are known by these names. -/
theorem exists_known?
    {names : List String}
    {members : List (String × Value)}
    {ts : List (Option String × Tree)}
    (hTrees : memberTrees? members = some ts)
    (hNodup : (members.map Prod.fst).Nodup)
    (hKnown : members.map Prod.fst ⊆ names) :
    ∃ r, known? names ts = some r ∧
      r.map Prod.fst = members.map Prod.fst ∧
      r.Holds members := by
  induction members generalizing ts with
  | nil =>
      cases hTrees
      exact ⟨[], rfl, rfl, fun _ => rfl⟩
  | cons m rest ih =>
      rcases m with ⟨k, v⟩
      rcases exists_of_memberTrees?_cons hTrees with
        ⟨t, more, hTree, hMore, rfl⟩
      rcases List.nodup_cons.mp hNodup with ⟨hFresh, hRest⟩
      rcases ih hMore hRest
          (List.subset_of_cons_subset hKnown) with
        ⟨r, hRead, hNames, hHolds⟩
      have hNew : r.any (·.1 == k) = false := by
        rw [← hNames] at hFresh
        apply eq_false_of_ne_true
        intro hAny
        rcases List.any_eq_true.mp hAny with ⟨p, hMem, hSame⟩
        exact hFresh (List.mem_map.mpr
          ⟨p, hMem, beq_iff_eq.mp hSame⟩)
      have hName : names.contains k = true :=
        List.contains_iff_mem.mpr (hKnown (.head _))
      refine ⟨(k, t) :: r, ?_, ?_, fun name => ?_⟩
      · simp only [known?, hRead, hName, hNew, if_true,
          Bool.false_eq_true, if_false]
      · rw [List.map_cons, List.map_cons, hNames]
      · rw [lookup_cons_eq_ite, lookup_cons_eq_ite]
        split
        · rw [Option.bind_some, hTree]
        · exact hHolds name

/- A record that was written is read with its fields. -/
theorem exists_record?
    {members : List (String × Value)}
    (hRecord : IsRecord members) :
    ∃ ts r, memberTrees? members = some ts ∧
      record? (members.map Prod.fst) (.object ts) = some r ∧
      r.Holds members := by
  rcases hRecord.exists_trees with ⟨ts, hTrees, _⟩
  rcases exists_known? hTrees hRecord.nodup
      (List.Subset.refl _) with
    ⟨r, hRead, _, hHolds⟩
  exact ⟨ts, r, hTrees, hRead, hHolds⟩

/- A record that was written is found in its text. -/
theorem exists_parse?_record
    {members : List (String × Value)}
    (hRecord : IsRecord members) :
    ∃ t r, Tree.parse? (Value.object members).render = some t ∧
      t.record? (members.map Prod.fst) = some r ∧
      r.Holds members := by
  rcases exists_record? hRecord with
    ⟨ts, r, hTrees, hRead, hHolds⟩
  exact ⟨.object ts, r, parse?_render (tree?_object hTrees),
    hRead, hHolds⟩

/- A name that no member has is no name of their trees. -/
theorem ne_of_memberTrees?
    {tag : String}
    {members : List (String × Value)}
    {ts : List (Option String × Tree)}
    (hTrees : memberTrees? members = some ts)
    (hFresh : tag ∉ members.map Prod.fst) :
    ∀ m ∈ ts, (m.1 == some tag) = false := by
  induction members generalizing ts with
  | nil =>
      cases hTrees
      exact nofun
  | cons m rest ih =>
      rcases m with ⟨k, v⟩
      rcases exists_of_memberTrees?_cons hTrees with
        ⟨t, more, _, hMore, rfl⟩
      rcases not_or.mp (mt List.mem_cons.mpr hFresh) with
        ⟨hOther, hRest⟩
      intro n hMem
      rcases List.mem_cons.mp hMem with rfl | hMem
      · exact beq_eq_false_iff_ne.mpr fun hSame =>
          hOther (Option.some.inj hSame).symm
      · exact ih hMore hRest n hMem

/- The tag of a record that was written comes off its fields. -/
theorem tagged?_cons
    {tag kind : String}
    {members : List (String × Value)}
    {ts : List (Option String × Tree)}
    (hRecord : IsRecord ((tag, .text kind) :: members))
    (hTrees : memberTrees? members = some ts) :
    tagged? tag
        (.object ((some tag, .text (some kind)) :: ts)) =
      some (kind, .object ts) := by
  have hFresh :=
    ne_of_memberTrees? hTrees (List.nodup_cons.mp hRecord.nodup).1
  have hValue :
      (Tree.object
          ((some tag, .text (some kind)) :: ts)).value?.isNone =
        false := by
    rcases hRecord.exists_trees with ⟨us, hAll, hValues⟩
    have hSame :
        memberTrees? ((tag, .text kind) :: members) =
          some ((some tag, .text (some kind)) :: ts) := by
      simp only [memberTrees?, Value.tree?, hTrees]
    rw [hSame] at hAll
    cases hAll
    rw [value?, deepest, valueWithin?, hValues]
    rfl
  have hTagged :
      ((some tag, Tree.text (some kind)) :: ts).filter
          (·.1 == some tag) =
        [(some tag, .text (some kind))] := by
    rw [List.filter_cons_of_pos (by simp),
      List.filter_eq_nil_iff.mpr fun m hMem => by
        simp [hFresh m hMem]]
  have hOthers :
      ((some tag, Tree.text (some kind)) :: ts).filter
          (·.1 != some tag) =
        ts := by
    rw [List.filter_cons_of_neg (by simp),
      List.filter_eq_self.mpr fun m hMem => by
        simp [bne, hFresh m hMem]]
  unfold tagged?
  rw [hValue]
  simp only [Bool.false_eq_true, if_false, hTagged, hOthers]
  rfl

/- A tagged record that was written is found in its text. -/
theorem exists_parse?_tagged
    {tag kind : String}
    {members : List (String × Value)}
    (hRecord : IsRecord ((tag, .text kind) :: members)) :
    ∃ t ts r,
      Tree.parse?
          (Value.object ((tag, .text kind) :: members)).render =
        some t ∧
      t.tagged? tag = some (kind, .object ts) ∧
      record? (members.map Prod.fst) (.object ts) = some r ∧
      r.Holds members := by
  rcases exists_record? hRecord.tail with
    ⟨ts, r, hTrees, hRead, hHolds⟩
  refine ⟨.object ((some tag, .text (some kind)) :: ts), ts, r,
    parse?_render (tree?_object ?_), tagged?_cons hRecord hTrees,
    hRead, hHolds⟩
  simp only [memberTrees?, Value.tree?, hTrees]

end Tree

end LightningGateway.Json
