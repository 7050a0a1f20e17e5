import LightningGateway.Proofs.Json.Record
import LightningGateway.Proofs.Provider.Exchange

/-
  Which requests reach a provider.

  A call of a client reaches the provider as one request, unless
  the client is closed, no request can be made for the address,
  or the provider is out of reach.  Nothing but a call is ever
  sent, and no call is sent twice.

  Key definitions include:
    * `Client.sent`
    * `Request.Posts`
    * `Terms`

  Main results:
    * `Terms.IsSound.sent_eq_nil_or`
    * `Client.exists_goes`
    * `Dialogue.requests_run_once`
-/

namespace LightningGateway.Provider

open Json

------------------------------------------------------------
-- Requests of Calls
------------------------------------------------------------

namespace Client

/- What reaches a provider of one call. -/
def sent
    (c : Client)
    (call : Call)
    (inReach : Bool) : List Request :=
  if c.closed then []
  else
    match c.request call with
    | .error _ => []
    | .ok (r, _) => if inReach then [r] else []

/- A call reaches the provider once or not at all. -/
theorem sent_eq_nil_or
    (c : Client)
    (call : Call)
    (inReach : Bool) :
    c.sent call inReach = [] ∨
      ∃ q url, c.sent call inReach = [q] ∧
        c.request call = .ok (q, url) := by
  unfold sent
  split
  · exact .inl rfl
  · cases hRequest : c.request call with
    | error f => exact .inl rfl
    | ok made =>
        cases inReach with
        | false => exact .inl rfl
        | true => exact .inr ⟨made.1, made.2, rfl, rfl⟩

/- An open client in reach sends a call that has a target. -/
theorem sent_ne_nil_of_target
    {c : Client}
    {call : Call}
    {u : Url}
    (hOpen : c.closed = false)
    (hTarget : c.target call.path = .ok u) :
    c.sent call true ≠ [] := by
  simp [sent, hOpen, request, hTarget]

/- The request of a call has the address of its target. -/
theorem request_eq_ok_iff
    {c : Client}
    {call : Call}
    {q : Request}
    {url : String} :
    c.request call = .ok (q, url) ↔
      ∃ u, c.target call.path = .ok u ∧
        q = ⟨call.action.method, u.withoutFragment.render,
          c.headers call.action call.path, call.action.body?⟩ ∧
        url = u.render := by
  unfold request
  cases c.target call.path with
  | error f => simp
  | ok u => simp [eq_comm]

end Client

------------------------------------------------------------
-- Posted Documents
------------------------------------------------------------

/- What a document is to say, by name; some of it may be absent. -/
abbrev Terms := List (String × Option Value)

namespace Terms

/- What is said under a name. -/
def value?
    (terms : Terms)
    (name : String) : Option Value :=
  (terms.lookup name).join

/- The members of a document with these terms. -/
def members (terms : Terms) : List (String × Value) :=
  terms.filterMap fun t => t.2.map (t.1, ·)

/- Terms that a record can hold. -/
structure IsSound (terms : Terms) : Prop where
  scalar : ∀ t ∈ terms, ∀ v ∈ t.2, v.IsScalar
  nodup : (terms.map Prod.fst).Nodup

/- A member is one of the terms that are there. -/
theorem mem_of_mem_members
    {terms : Terms}
    {m : String × Value}
    (hMem : m ∈ terms.members) :
    (m.1, some m.2) ∈ terms := by
  rcases List.mem_filterMap.mp hMem with
    ⟨⟨name, v⟩, hTerm, hSome⟩
  rcases Option.map_eq_some_iff.mp hSome with ⟨w, hValue, rfl⟩
  cases hValue
  exact hTerm

/- The members have some of the names, in their order. -/
theorem names_members (terms : Terms) :
    (terms.members.map Prod.fst).Sublist
      (terms.map Prod.fst) := by
  induction terms with
  | nil => exact .slnil
  | cons t rest ih =>
      rcases t with ⟨name, _ | v⟩
      · exact .cons name ih
      · exact .cons_cons name ih

/- Sound terms make a record. -/
theorem IsSound.isRecord
    {terms : Terms}
    (hSound : terms.IsSound) :
    Value.IsRecord terms.members where
  scalar := fun m hMem =>
    hSound.scalar _ (mem_of_mem_members hMem) m.2 rfl
  nodup := hSound.nodup.sublist (names_members terms)

/- The members of a document are found as its terms say. -/
theorem lookup_members
    {terms : Terms}
    (hNames : (terms.map Prod.fst).Nodup)
    (k : String) :
    terms.members.lookup k = terms.value? k := by
  induction terms with
  | nil => rfl
  | cons t rest ih =>
      rcases List.nodup_cons.mp hNames with ⟨hFresh, hRest⟩
      have hStep := ih hRest
      unfold value? at hStep ⊢
      rcases t with ⟨name, _ | v⟩
      · rw [Value.lookup_cons_eq_ite]
        by_cases hFirst : k = name
        · rw [if_pos hFirst]
          apply List.lookup_eq_none_iff.mpr
          intro m hMem
          rw [bne_iff_ne, hFirst]
          intro hSame
          exact hFresh ((names_members rest).subset
            (List.mem_map.mpr ⟨m, hMem, hSame.symm⟩))
        · rw [if_neg hFirst]
          exact hStep
      · rw [Value.lookup_cons_eq_ite]
        refine (Value.lookup_cons_eq_ite name k v
          (members rest)).trans ?_
        split
        · rfl
        · exact hStep

end Terms

/-
  A request posts terms if its body is a JSON document that has
  exactly the members that they say.
-/
structure Request.Posts
    (q : Request)
    (terms : Terms) : Prop where
  method_eq : q.method = "POST"
  exists_document :
    ∃ text v, q.body = some text ∧
      Value.parse? text = some v ∧
      ∀ name, v.member? name = terms.value? name

/- Sound terms that are posted reach the provider, if at all. -/
theorem Terms.IsSound.sent_eq_nil_or
    {terms : Terms}
    (hSound : terms.IsSound)
    (c : Client)
    (path : String)
    (limit : Option Nat)
    (inReach : Bool) :
    c.sent ⟨.post (.object terms.members), path, limit⟩ inReach =
        [] ∨
      ∃ q,
        c.sent ⟨.post (.object terms.members), path, limit⟩
            inReach =
          [q] ∧
        q.Posts terms := by
  rcases c.sent_eq_nil_or
      ⟨.post (.object terms.members), path, limit⟩ inReach with
    hNone | ⟨q, url, hOne, hRequest⟩
  · exact .inl hNone
  · rcases Client.request_eq_ok_iff.mp hRequest with
      ⟨u, _, rfl, _⟩
    rcases hSound.isRecord.exists_parse? with
      ⟨v, hParse, hFields⟩
    refine .inr ⟨_, hOne, rfl, _, v, rfl, hParse, ?_⟩
    intro name
    rw [hFields, Terms.lookup_members hSound.nodup]

/- Two posts of one body say the same under each name. -/
theorem Request.Posts.value?_eq
    {p q : Request}
    {terms others : Terms}
    (hFirst : p.Posts terms)
    (hSecond : q.Posts others)
    (hBody : p.body = q.body)
    (name : String) :
    terms.value? name = others.value? name := by
  rcases hFirst.exists_document with
    ⟨text, v, hText, hParse, hTerms⟩
  rcases hSecond.exists_document with
    ⟨other, w, hOther, hRead, hOthers⟩
  rw [hText, hOther] at hBody
  cases hBody
  rw [hParse] at hRead
  cases hRead
  rw [← hTerms, hOthers]

------------------------------------------------------------
-- Requests of Dialogues
------------------------------------------------------------

/- What is sent after a call, if the call comes to an end. -/
def Client.sentAfter
    {α : Type}
    (c : Client)
    (next : Outcome → Dialogue α)
    (outcome? : Option Outcome)
    (later : Script) : List Request :=
  match outcome? with
  | some o => ((next o).run c later).requests
  | none => []

/-
  How a call goes against a script: its outcome, unless the
  provider stays silent for good, and what is left of the
  script.
-/
structure Client.Goes
    (c : Client)
    (call : Call)
    (script : Script)
    (outcome? : Option Outcome)
    (later : Script) : Prop where
  inReach_eq : later.inReach = script.inReach
  of_reply :
    ∀ r, outcome? = some (.reply r) →
      script.behaviours.head? = some (.answers r) ∧
        c.sent call script.inReach ≠ []
  requests_eq :
    ∀ {α : Type} (next : Outcome → Dialogue α),
      ((Dialogue.ask call next).run c script).requests =
        c.sent call script.inReach ++
          c.sentAfter next outcome? later

/- What a call that was sent ends in, if it ends. -/
def Call.outcomeOf?
    (call : Call)
    (url : String) : Behaviour → Option Outcome
  | .staysSilent =>
      call.limit.map fun _ => .failed (.unanswered url)
  | b => Dialogue.outcomeOf? url b

/- Only an answer ends a call in a reply. -/
theorem Call.eq_answers_of_outcomeOf?
    {call : Call}
    {url : String}
    {b : Behaviour}
    {r : Reply}
    (hReply : call.outcomeOf? url b = some (.reply r)) :
    b = .answers r := by
  cases b with
  | answers reply =>
      cases hReply
      rfl
  | breaksOff => cases hReply
  | cutsShort => cases hReply
  | staysSilent =>
      rcases Option.map_eq_some_iff.mp hReply with ⟨_, _, hNot⟩
      cases hNot

/- A call that reaches the provider is sent, and then the rest. -/
theorem Client.requests_run_sent
    {α : Type}
    {c : Client}
    {call : Call}
    {q : Request}
    {url : String}
    (hOpen : ¬c.closed = true)
    (hRequest : c.request call = .ok (q, url))
    (behaviours : List Behaviour)
    (next : Outcome → Dialogue α) :
    ((Dialogue.ask call next).run c ⟨true, behaviours⟩).requests =
      q :: c.sentAfter next
        (call.outcomeOf? url (Script.next ⟨true, behaviours⟩).1)
        (Script.next ⟨true, behaviours⟩).2 := by
  simp only [Dialogue.run, if_neg hOpen, hRequest, if_true]
  rcases Script.next ⟨true, behaviours⟩ with
    ⟨reply | _ | _ | _, later⟩
  · rfl
  · rfl
  · rfl
  · cases hLimit : call.limit with
    | some secs =>
        simp only [Call.outcomeOf?, hLimit]
        rfl
    | none =>
        simp only [Call.outcomeOf?, hLimit]
        rfl

/- Every call goes one way or another. -/
theorem Client.exists_goes
    (c : Client)
    (call : Call)
    (script : Script) :
    ∃ outcome? later, c.Goes call script outcome? later := by
  by_cases hClosed : c.closed = true
  · refine ⟨some .closed, script, rfl,
      (fun _ hReply => by cases hReply), fun next => ?_⟩
    simp only [Dialogue.run, if_pos hClosed, sent,
      List.nil_append, sentAfter]
  · cases hRequest : c.request call with
    | error f =>
        refine ⟨some (.failed f), script, rfl,
          (fun _ hReply => by cases hReply), fun next => ?_⟩
        simp only [Dialogue.run, if_neg hClosed, hRequest, sent,
          List.nil_append, sentAfter]
    | ok made =>
        rcases made with ⟨q, url⟩
        rcases script with ⟨_ | _, behaviours⟩
        · refine ⟨some (.failed (.unanswered url)),
            ⟨false, behaviours⟩, rfl,
            (fun _ hReply => by cases hReply), fun next => ?_⟩
          simp only [Dialogue.run, if_neg hClosed, hRequest,
            sent, List.nil_append, Bool.false_eq_true, if_false,
            sentAfter]
        · have hSent : c.sent call true = [q] := by
            simp only [sent, if_neg hClosed, hRequest, if_true]
          refine ⟨call.outcomeOf? url
              (Script.next ⟨true, behaviours⟩).1,
            (Script.next ⟨true, behaviours⟩).2, ?_, ?_,
            fun next => ?_⟩
          · cases behaviours <;> rfl
          · intro r hReply
            refine ⟨?_, by simp [hSent]⟩
            have hAnswers := Call.eq_answers_of_outcomeOf? hReply
            cases behaviours with
            | nil => cases hAnswers
            | cons b later => exact congrArg some hAnswers
          · rw [hSent]
            exact requests_run_sent hClosed hRequest behaviours
              next

namespace Dialogue

/- A single call is all that is sent. -/
theorem requests_run_once
    {α : Type}
    (c : Client)
    (call : Call)
    (read : Outcome → α)
    (script : Script) :
    ((once call read).run c script).requests =
      c.sent call script.inReach := by
  rcases c.exists_goes call script with
    ⟨outcome?, later, hGoes⟩
  rw [once, hGoes.requests_eq]
  cases outcome? with
  | none => exact List.append_nil _
  | some o => exact List.append_nil _

end Dialogue

end LightningGateway.Provider
