import LightningGateway.Proofs.Json.Record
import LightningGateway.Proofs.Text.Excerpt
import LightningGateway.Provider.Reply

/-
  Bodies that are quoted.

  The message of a reply is what its body holds in the error
  field of the provider.  A body that holds nothing there is
  quoted instead: no value, a value other than an object, an
  object without the field, and one with null in it.

  Key definitions include:
    * `Reply.Holds`

  Main results:
    * `Reply.errorMessage_of_holds`
    * `Reply.errorMessage_eq_excerpt`
    * `Reply.bodies_quoted`
-/

namespace LightningGateway.Provider.Reply

open Text

variable {r : Reply}
variable {field : String}

------------------------------------------------------------
-- What a Body Holds
------------------------------------------------------------

/- The body is an object that holds a value in a field. -/
def Holds
    (r : Reply)
    (field : String)
    (v : Json.Value) : Prop :=
  ∃ members,
    Json.Value.parse? r.body = some (.object members) ∧
      members.lookup field = some v

/- What the body holds is a member of its value. -/
theorem holds_iff
    {v : Json.Value} :
    r.Holds field v ↔
      (Json.Value.parse? r.body).bind (·.member? field) =
        some v := by
  rw [Holds]
  cases Json.Value.parse? r.body with
  | none => simp
  | some w =>
      cases w with
      | object members => simp [Json.Value.member?]
      | _ => simp [Json.Value.member?]

/- A text or another value in the error field is told. -/
theorem errorMessage_of_holds
    {v : Json.Value}
    {text : String}
    (hHolds : r.Holds field v)
    (hText : plainText? v = some text) :
    r.errorMessage field = text := by
  rcases hHolds with ⟨members, hParse, hMember⟩
  simp only [errorMessage, hParse, Option.bind_some,
    Json.Value.member?, hMember, hText]

/- Only null is not told. -/
theorem plainText?_eq_none_iff
    {v : Json.Value} :
    plainText? v = none ↔ v = .null := by
  cases v with
  | null => simp [plainText?]
  | _ => simp [plainText?]

/- Without anything else in the error field, the body is quoted. -/
theorem errorMessage_eq_excerpt
    (hNothing : ¬∃ v, r.Holds field v ∧ v ≠ .null) :
    r.errorMessage field = r.excerpt := by
  have hMessage :
      ((Json.Value.parse? r.body).bind fun v =>
        (v.member? field).bind plainText?) = none := by
    rw [← Option.bind_assoc, Option.bind_eq_none_iff]
    intro v hMember
    rw [plainText?_eq_none_iff]
    by_contra hValue
    exact hNothing ⟨v, holds_iff.mpr hMember, hValue⟩
  simp only [errorMessage, hMessage]

------------------------------------------------------------
-- Quotations
------------------------------------------------------------

/-
  A text of at most as many characters as asked for is quoted
  as it is.  Of a longer one exactly so many are quoted, and a
  mark after them; in its bytes the quotation ends at the one
  offset where that many characters end.  Quoted again it stays
  the same.  A reply whose body holds nothing but null in the
  error field, if anything, tells a quotation of its body.
-/
theorem bodies_quoted :
    (∀ (s : String) (limit : Nat),
      (s.length ≤ limit → Text.excerpt s limit = s) ∧
      (limit < s.length →
        Text.excerpt s limit =
          String.ofList (s.toList.take limit) ++ "..." ∧
        (∃ offset, Utf8.EndsAt (Utf8.encode s) limit offset) ∧
        ∀ offset, Utf8.EndsAt (Utf8.encode s) limit offset →
          Utf8.encode (Text.excerpt s limit) =
            (Utf8.encode s).take offset ++ Utf8.encode "...") ∧
      Text.excerpt (Text.excerpt s limit) limit =
        Text.excerpt s limit) ∧
    ∀ (r : Reply) (field : String),
      (¬∃ v, r.Holds field v ∧ v ≠ .null) →
      r.errorMessage field = Text.excerpt r.body quotedChars ∧
      (r.errorMessage field).length ≤ quotedChars + 3 ∧
      r.body.toList.take (min r.body.length quotedChars) <+:
        (r.errorMessage field).toList := by
  refine ⟨fun s limit => ⟨?_, ?_, ?_⟩, ?_⟩
  · exact excerpt_of_length_le
  · intro hLong
    refine ⟨excerpt_of_lt_length hLong, ?_, ?_⟩
    · exact ⟨_, endsAt_encode (Nat.le_of_lt hLong)⟩
    · intro offset hEnds
      exact encode_excerpt hLong hEnds
  · exact excerpt_excerpt s limit
  · intro r field hNothing
    have hMessage :
        r.errorMessage field =
          Text.excerpt r.body quotedChars :=
      errorMessage_eq_excerpt hNothing
    refine ⟨hMessage, ?_, ?_⟩
    · rw [hMessage]
      exact length_excerpt_le r.body quotedChars
    · rw [hMessage]
      exact take_prefix_excerpt r.body quotedChars

/- A provider explains nothing, at any length. -/
def wordless (trace : String) : Reply :=
  ⟨502, (Json.Value.object
    [("detail", .null), ("trace", .text trace)]).render⟩

/- Its error field holds null. -/
theorem nothing_in_wordless (trace : String) :
    ¬∃ v, (wordless trace).Holds "detail" v ∧ v ≠ .null := by
  have hRecord :
      Json.Value.IsRecord
        [("detail", .null), ("trace", .text trace)] :=
    ⟨List.forall_mem_cons.mpr ⟨trivial,
      List.forall_mem_singleton.mpr trivial⟩, by simp⟩
  rcases hRecord.exists_parse? with ⟨w, hParse, hMembers⟩
  rintro ⟨v, hHolds, hValue⟩
  rw [holds_iff, wordless, hParse, Option.bind_some, hMembers]
    at hHolds
  cases hHolds
  exact hValue rfl

/- Its body may be longer than what is quoted. -/
theorem exists_lt_length_wordless :
    ∃ trace, quotedChars < (wordless trace).body.length := by
  refine ⟨String.ofList (List.replicate 300 '€'), ?_⟩
  simp only [wordless, Json.Value.render, String.length_ofList,
    Json.Value.chars, Json.Value.membersChars, Json.Value.quote,
    String.toList_ofList]
  decide +kernel

/-
  Of characters with one to four bytes the first three end at
  the sixth byte, and so does their quotation.  A long body with
  null in the error field is quoted up to its bound.
-/
theorem bodies_quoted_of_wordless :
    "aż€".length ≤ 3 ∧
    Text.excerpt "aż€" 3 = "aż€" ∧
    3 < "aż€𝄞!".length ∧
    Text.excerpt "aż€𝄞!" 3 = "aż€..." ∧
    Utf8.EndsAt (Utf8.encode "aż€𝄞!") 3 6 ∧
    Utf8.encode (Text.excerpt "aż€𝄞!" 3) =
      (Utf8.encode "aż€𝄞!").take 6 ++ Utf8.encode "..." ∧
    ∃ trace,
      (¬∃ v, (wordless trace).Holds "detail" v ∧ v ≠ .null) ∧
      quotedChars < (wordless trace).body.length ∧
      ((wordless trace).errorMessage "detail").length ≤ 203 ∧
      (wordless trace).body.toList.take 200 <+:
        ((wordless trace).errorMessage "detail").toList := by
  rcases bodies_quoted with ⟨hTexts, hReplies⟩
  have hFew : "aż€".length ≤ 3 := by decide
  have hMore : 3 < "aż€𝄞!".length := by decide
  have hEnds : Utf8.EndsAt (Utf8.encode "aż€𝄞!") 3 6 :=
    endsAt_encode (Nat.le_of_lt hMore)
  have hShort := (hTexts "aż€" 3).1 hFew
  rcases (hTexts "aż€𝄞!" 3).2.1 hMore with ⟨hCut, _, hBytes⟩
  rcases exists_lt_length_wordless with ⟨trace, hLength⟩
  have hNothing := nothing_in_wordless trace
  rcases hReplies _ _ hNothing with ⟨_, hBound, hStart⟩
  rw [Nat.min_eq_right (Nat.le_of_lt hLength)] at hStart
  exact ⟨hFew, hShort, hMore, hCut, hEnds, hBytes 6 hEnds, trace,
    hNothing, hLength, hBound, hStart⟩

end LightningGateway.Provider.Reply
