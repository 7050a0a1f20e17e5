import LightningGateway.Proofs.Json.Spelling

/-
  JSON text that was written is read back.

  A value is written token by token, and its tokens make up one
  tree.  So the text of a value has exactly one reading, which
  holds the same texts and the same integers in the same places,
  whatever characters the texts contain.  Real numbers are left
  out, as their digits are rounded.

  Key definitions include:
    * `Value.tree?`
    * `Tree.tokens`

  Main results:
    * `Tree.run_tokens`
    * `Value.spells_chars`
    * `Value.parse?_render`
-/

namespace LightningGateway.Json

------------------------------------------------------------
-- Trees of Values
------------------------------------------------------------

namespace Value

mutual

/- The tree of a value that holds no real number. -/
def tree? : Value → Option Tree
  | .null => some .null
  | .bool b => some (.bool b)
  | .int n => some (.number (.ofInt n))
  | .real _ => none
  | .text s => some (.text (some s))
  | .list items => (trees? items).map .list
  | .object members => (memberTrees? members).map .object

/- The trees of the items of a list. -/
def trees? : List Value → Option (List Tree)
  | [] => some []
  | v :: rest =>
      match tree? v, trees? rest with
      | some t, some ts => some (t :: ts)
      | _, _ => none

/- The trees of the members of an object, with their names. -/
def memberTrees? :
    List (String × Value) → Option (List (Option String × Tree))
  | [] => some []
  | (k, v) :: rest =>
      match tree? v, memberTrees? rest with
      | some t, some ts => some ((some k, t) :: ts)
      | _, _ => none

end

end Value

------------------------------------------------------------
-- Tokens of Trees
------------------------------------------------------------

namespace Tree

mutual

/- The tokens of a tree. -/
def tokens : Tree → List Token
  | .null => [.null]
  | .bool b => [.bool b]
  | .number n => [.number n]
  | .text t => [.text t]
  | .list items =>
      .openList :: (itemsTokens items ++ [.closeList])
  | .object members =>
      .openObject :: (membersTokens members ++ [.closeObject])

/- The tokens of the items of a list. -/
def itemsTokens : List Tree → List Token
  | [] => []
  | [t] => tokens t
  | t :: rest => tokens t ++ .comma :: itemsTokens rest

/- The tokens of the members of an object. -/
def membersTokens : List (Option String × Tree) → List Token
  | [] => []
  | [(k, t)] => .text k :: .colon :: tokens t
  | (k, t) :: rest =>
      .text k :: .colon ::
        (tokens t ++ .comma :: membersTokens rest)

end

/- A tree does not begin with the end of a list. -/
theorem exists_tokens_cons (t : Tree) :
    ∃ first rest, t.tokens = first :: rest ∧
      first ≠ .closeList := by
  cases t <;> simp [tokens]

/- Nor do items of a list. -/
theorem exists_itemsTokens_cons
    (t : Tree)
    (rest : List Tree) :
    ∃ first later, itemsTokens (t :: rest) = first :: later ∧
      first ≠ .closeList := by
  rcases exists_tokens_cons t with
    ⟨first, later, hTokens, hOther⟩
  cases rest with
  | nil => exact ⟨first, later, hTokens, hOther⟩
  | cons u rest =>
      refine ⟨first, later ++ .comma :: itemsTokens (u :: rest),
        ?_, hOther⟩
      rw [itemsTokens, hTokens, List.cons_append]
      exact nofun

/- Where a list was opened, its items are read like others. -/
theorem run_valueOrEnd
    (stack : List Frame)
    (t : Tree)
    (rest : List Tree)
    (later : List Token) :
    Reading.run (.valueOrEnd stack)
        (itemsTokens (t :: rest) ++ later) =
      Reading.run (.value (.list [] :: stack))
        (itemsTokens (t :: rest) ++ later) := by
  rcases exists_itemsTokens_cons t rest with
    ⟨first, more, hTokens, hOther⟩
  rw [hTokens, List.cons_append, Reading.run, Reading.run]
  have hStep :
      Reading.step (.valueOrEnd stack) first =
        Reading.step (.value (.list [] :: stack)) first := by
    cases first with
    | closeList => exact absurd rfl hOther
    | _ => rfl
  rw [hStep]

/- Where an object was opened, its members are read like others. -/
theorem run_nameOrEnd
    (stack : List Frame)
    (m : Option String × Tree)
    (rest : List (Option String × Tree))
    (later : List Token) :
    Reading.run (.nameOrEnd stack)
        (membersTokens (m :: rest) ++ later) =
      Reading.run (.name [] stack)
        (membersTokens (m :: rest) ++ later) := by
  cases rest <;> rfl

mutual

/- The tokens of a tree are read as the tree. -/
theorem run_tokens
    (t : Tree)
    (stack : List Frame)
    (later : List Token) :
    Reading.run (.value stack) (t.tokens ++ later) =
      Reading.run (.read t stack) later := by
  cases t with
  | list items =>
      cases items with
      | nil => rfl
      | cons t rest =>
          have hItems :=
            run_itemsTokens (t :: rest) (List.cons_ne_nil t rest)
              [] stack later
          rw [List.reverse_nil, List.nil_append] at hItems
          rw [← hItems, tokens, List.cons_append,
            List.append_assoc, Reading.run]
          exact run_valueOrEnd stack t rest _
  | object members =>
      cases members with
      | nil => rfl
      | cons m rest =>
          have hMembers :=
            run_membersTokens (m :: rest)
              (List.cons_ne_nil m rest) [] stack later
          rw [List.reverse_nil, List.nil_append] at hMembers
          rw [← hMembers, tokens, List.cons_append,
            List.append_assoc, Reading.run]
          exact run_nameOrEnd stack m rest _
  | _ => rfl

/- The items of a list are read up to its end. -/
theorem run_itemsTokens
    (items : List Tree)
    (hSome : items ≠ [])
    (done : List Tree)
    (stack : List Frame)
    (later : List Token) :
    Reading.run (.value (.list done :: stack))
        (itemsTokens items ++ .closeList :: later) =
      Reading.run (.read (.list (done.reverse ++ items)) stack)
        later := by
  match items with
  | [] => exact absurd rfl hSome
  | [t] =>
      rw [itemsTokens, run_tokens]
      simp [Reading.run, Reading.step]
  | t :: u :: rest =>
      have hRest :=
        run_itemsTokens (u :: rest) (List.cons_ne_nil u rest)
          (t :: done) stack later
      rw [itemsTokens, List.append_assoc, run_tokens,
        List.cons_append]
      · rw [List.reverse_cons, List.append_assoc] at hRest
        exact hRest
      · exact nofun

/- The members of an object are read up to its end. -/
theorem run_membersTokens
    (members : List (Option String × Tree))
    (hSome : members ≠ [])
    (done : List (Option String × Tree))
    (stack : List Frame)
    (later : List Token) :
    Reading.run (.name done stack)
        (membersTokens members ++ .closeObject :: later) =
      Reading.run
        (.read (.object (done.reverse ++ members)) stack)
        later := by
  match members with
  | [] => exact absurd rfl hSome
  | [(k, t)] =>
      have hValue :=
        run_tokens t (.object done k :: stack)
          (.closeObject :: later)
      simp only [membersTokens, List.cons_append, Reading.run,
        Reading.step] at hValue ⊢
      rw [hValue, List.reverse_cons]
  | (k, t) :: m :: rest =>
      have hValue :=
        run_tokens t (.object done k :: stack)
          (.comma :: (membersTokens (m :: rest) ++
            .closeObject :: later))
      have hRest :=
        run_membersTokens (m :: rest) (List.cons_ne_nil m rest)
          ((k, t) :: done) stack later
      rw [List.reverse_cons, List.append_assoc] at hRest
      simp only [membersTokens, List.cons_append,
        List.append_assoc, Reading.run, Reading.step]
          at hValue ⊢
      rw [hValue]
      exact hRest

end

/- The tokens of a tree make up that tree. -/
theorem ofTokens?_tokens (t : Tree) :
    ofTokens? t.tokens = some t := by
  have hRun := run_tokens t [] []
  rw [List.append_nil] at hRun
  rw [ofTokens?, hRun]
  rfl

end Tree

------------------------------------------------------------
-- Texts of Tokens
------------------------------------------------------------

/- A text that begins with a token is cut after it. -/
theorem tokens?_of_token?
    {cs rest : List Char}
    {t : Token}
    (hToken : token? cs = some (t, rest)) :
    tokens? cs = (tokens? rest).map (t :: ·) := by
  cases cs with
  | nil => cases hToken
  | cons c cs =>
      have hSolid : isSpace c = false := by
        apply eq_false_of_ne_true
        intro hSpace
        simp only [isSpace, Bool.or_eq_true, beq_iff_eq] at hSpace
        rcases hSpace with ((rfl | rfl) | rfl) | rfl <;>
          simp [token?, numeral?, unsigned?, whole?, digits]
            at hToken
      rw [tokens?, hSolid]
      simp only [Bool.false_eq_true, if_false]
      split
      · rename_i hNone
        rw [hToken] at hNone
        cases hNone
      · rename_i hSome
        rw [hToken] at hSome
        cases hSome
        rfl

/-
  A text spells tokens if they are what it is cut into, whatever
  text comes later, unless that goes on with a numeral.
-/
def Spells
    (cs : List Char)
    (ts : List Token) : Prop :=
  ∀ later, EndsNumeral later →
    tokens? (cs ++ later) = (tokens? later).map (ts ++ ·)

/- The character of a token that is one. -/
def Token.mark? : Token → Option Char
  | .openList => some '['
  | .closeList => some ']'
  | .openObject => some '\x7b'
  | .closeObject => some '\x7d'
  | .comma => some ','
  | .colon => some ':'
  | _ => none

/- A mark is read as its token, and ends a numeral before it. -/
theorem token?_mark
    {t : Token}
    {c : Char}
    (hMark : t.mark? = some c)
    (rest : List Char) :
    token? (c :: rest) = some (t, rest) ∧
      EndsNumeral (c :: rest) := by
  cases t <;> cases hMark <;>
    exact ⟨rfl, rfl, by decide, by decide, by decide⟩

namespace Spells

/- A text without characters spells nothing. -/
theorem nil : Spells [] [] := by
  intro later _
  cases h : tokens? later <;> simp [h]

/- A text that is read as one token spells it. -/
theorem single
    {cs : List Char}
    {t : Token}
    (hToken :
      ∀ {later}, EndsNumeral later →
        token? (cs ++ later) = some (t, later)) :
    Spells cs [t] :=
  fun _ hEnds => tokens?_of_token? (hToken hEnds)

/- A mark may come before the text of tokens. -/
theorem mark
    {c : Char}
    {t : Token}
    {cs : List Char}
    {ts : List Token}
    (hMark : t.mark? = some c)
    (hSpells : Spells cs ts) :
    Spells (c :: cs) (t :: ts) := by
  intro later hEnds
  rw [List.cons_append, tokens?_of_token? (token?_mark hMark _).1,
    hSpells later hEnds, Option.map_map]
  rfl

/- A mark may come between two texts of tokens. -/
theorem between
    {c : Char}
    {t : Token}
    {first rest : List Char}
    {ts us : List Token}
    (hMark : t.mark? = some c)
    (hFirst : Spells first ts)
    (hRest : Spells rest us) :
    Spells (first ++ c :: rest) (ts ++ t :: us) := by
  intro later hEnds
  rw [List.append_assoc,
    hFirst (c :: rest ++ later) (token?_mark hMark _).2,
    mark hMark hRest later hEnds, Option.map_map]
  simp only [Function.comp_def, List.append_assoc]

end Spells

------------------------------------------------------------
-- Written Values
------------------------------------------------------------

namespace Value

/- The trees of a list are those of its first item and the others. -/
theorem exists_of_trees?_cons
    {v : Value}
    {rest : List Value}
    {ts : List Tree}
    (hTrees : trees? (v :: rest) = some ts) :
    ∃ t more, v.tree? = some t ∧ trees? rest = some more ∧
      ts = t :: more := by
  rw [trees?] at hTrees
  split at hTrees
  · rename_i t more hTree hMore
    cases hTrees
    exact ⟨t, more, hTree, hMore, rfl⟩
  · cases hTrees

/- So are the trees of the members of an object. -/
theorem exists_of_memberTrees?_cons
    {k : String}
    {v : Value}
    {rest : List (String × Value)}
    {ts : List (Option String × Tree)}
    (hTrees : memberTrees? ((k, v) :: rest) = some ts) :
    ∃ t more, v.tree? = some t ∧
      memberTrees? rest = some more ∧ ts = (some k, t) :: more := by
  rw [memberTrees?] at hTrees
  split at hTrees
  · rename_i t more hTree hMore
    cases hTrees
    exact ⟨t, more, hTree, hMore, rfl⟩
  · cases hTrees

mutual

/- The text of a value spells the tokens of its tree. -/
theorem spells_chars
    (v : Value)
    {t : Tree}
    (hTree : v.tree? = some t) :
    Spells v.chars t.tokens := by
  cases v with
  | null =>
      cases hTree
      exact .single fun _ => rfl
  | bool b =>
      cases hTree
      cases b <;> exact .single fun _ => rfl
  | int n =>
      cases hTree
      exact .single (token?_intChars n)
  | real x => cases hTree
  | text s =>
      cases hTree
      exact .single fun _ => token?_quote s _
  | list items =>
      rcases Option.map_eq_some_iff.mp hTree with
        ⟨ts, hTrees, rfl⟩
      exact .mark rfl
        (.between rfl (spells_itemsChars items hTrees) .nil)
  | object members =>
      rcases Option.map_eq_some_iff.mp hTree with
        ⟨ts, hTrees, rfl⟩
      exact .mark rfl
        (.between rfl (spells_membersChars members hTrees) .nil)

/- The text of the items of a list spells their tokens. -/
theorem spells_itemsChars
    (items : List Value)
    {ts : List Tree}
    (hTrees : trees? items = some ts) :
    Spells (itemsChars items) (Tree.itemsTokens ts) := by
  match items with
  | [] =>
      cases hTrees
      exact .nil
  | [v] =>
      rcases exists_of_trees?_cons hTrees with
        ⟨t, more, hTree, hMore, rfl⟩
      cases hMore
      exact spells_chars v hTree
  | v :: w :: rest =>
      rcases exists_of_trees?_cons hTrees with
        ⟨t, more, hTree, hMore, rfl⟩
      have hFirst := spells_chars v hTree
      have hRest := spells_itemsChars (w :: rest) hMore
      rcases exists_of_trees?_cons hMore with
        ⟨u, others, _, _, rfl⟩
      exact .between rfl hFirst hRest

/- The text of the members of an object spells their tokens. -/
theorem spells_membersChars
    (members : List (String × Value))
    {ts : List (Option String × Tree)}
    (hTrees : memberTrees? members = some ts) :
    Spells (membersChars members) (Tree.membersTokens ts) := by
  match members with
  | [] =>
      cases hTrees
      exact .nil
  | [(k, v)] =>
      rcases exists_of_memberTrees?_cons hTrees with
        ⟨t, more, hTree, hMore, rfl⟩
      cases hMore
      exact .between rfl (.single fun _ => token?_quote k _)
        (spells_chars v hTree)
  | (k, v) :: m :: rest =>
      rcases exists_of_memberTrees?_cons hTrees with
        ⟨t, more, hTree, hMore, rfl⟩
      have hFirst := spells_chars v hTree
      have hRest := spells_membersChars (m :: rest) hMore
      rcases exists_of_memberTrees?_cons hMore with
        ⟨u, others, _, _, rfl⟩
      exact .between rfl (.single fun _ => token?_quote k _)
        (.between rfl hFirst hRest)

end

/- A value that was written is read as its tree. -/
theorem parse?_render
    {v : Value}
    {t : Tree}
    (hTree : v.tree? = some t) :
    Tree.parse? v.render = some t := by
  have hTokens := spells_chars v hTree [] trivial
  rw [List.append_nil] at hTokens
  rw [Tree.parse?, render, String.toList_ofList, hTokens,
    tokens?]
  simp only [Option.map_some, List.append_nil, Option.bind_some,
    Tree.ofTokens?_tokens]

end Value

end LightningGateway.Json
