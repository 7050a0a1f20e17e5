import LightningGateway.Proofs.Backend.Submission
import LightningGateway.Proofs.Provider.Sending

/-
  What a provider is told of a new invoice.

  A wallet posts a request for an invoice once or not at all,
  and what it posts says the whole of the request: the amount,
  the memo, the time, and what the invoice commits to.  A
  provider that cannot take a commitment is not asked.

  Key definitions include:
    * `Wallet.invoiceTerms`
    * `Wallet.Takes`
    * `Wallet.Reaches`

  Main results:
    * `Lnbits.eq_of_invoiceTerms`
    * `Wallet.createInvoice_cases`
    * `Wallet.invoice_posted_whole`
-/

namespace LightningGateway

open Backend Payment Provider

/- Every word is a number that a record can hold. -/
theorem Json.Value.isScalar_word (n : UInt64) :
    IsScalar (.int n.toNat) := by
  have hNonneg : 0 ≤ (n.toNat : Int) := Int.natCast_nonneg _
  have hLimit : -(signedLimit : Int) ≤ 0 := by decide
  exact ⟨Int.le_trans hLimit hNonneg,
    Int.ofNat_lt.mpr n.toNat_lt⟩

namespace Backend

open Json

------------------------------------------------------------
-- Commitments
------------------------------------------------------------

/- The hash that a request commits to. -/
def hash? (r : InvoiceRequest) : Option (List UInt8) :=
  match r.commitment with
  | some (.hash d) => some d.bytes
  | _ => none

/- The bytes that a provider is to hash for a request. -/
def unhashed? (r : InvoiceRequest) : Option (List UInt8) :=
  match r.commitment with
  | some (.unhashed b) => some b
  | _ => none

/- Bytes as a text of hexadecimal digits. -/
def hex (bytes : List UInt8) : Value :=
  .text (Text.Hex.encode bytes)

/- A record can hold them, if there are any. -/
theorem isScalar_of_mem_map_hex
    {bytes : Option (List UInt8)}
    {v : Value}
    (hMem : v ∈ bytes.map hex) :
    v.IsScalar := by
  rcases Option.map_eq_some_iff.mp hMem with ⟨b, _, rfl⟩
  trivial

/- Hexadecimal digits stand for one list of bytes. -/
theorem hex_inj
    {a b : List UInt8}
    (hText : hex a = hex b) :
    a = b := by
  have hSame :=
    congrArg Text.Hex.decode? (Value.text.inj hText)
  rw [Text.Hex.decode?_encode, Text.Hex.decode?_encode] at hSame
  exact Option.some.inj hSame

/- A commitment is its hash or its bytes. -/
theorem commitment_eq
    {r s : InvoiceRequest}
    (hHash : hash? r = hash? s)
    (hBytes : unhashed? r = unhashed? s) :
    r.commitment = s.commitment := by
  rcases r with ⟨_, _, _ | ⟨d, _⟩ | b, _⟩ <;>
    rcases s with ⟨_, _, _ | ⟨e, _⟩ | c, _⟩ <;>
    simp_all [hash?, unhashed?]

------------------------------------------------------------
-- LNbits
------------------------------------------------------------

namespace Lnbits

variable (r : InvoiceRequest)

/- What LNbits is told of an invoice. -/
def invoiceTerms : Terms :=
  [("out", some (.bool false)),
   ("amount", some (.int r.amountSat.toNat)),
   ("memo", some (.text (r.memo.getD ""))),
   ("expiry", r.expirySecs.map fun secs => .int secs.toNat),
   ("description_hash", (hash? r).map hex),
   ("unhashed_description", (unhashed? r).map hex)]

/- LNbits is told it in a document. -/
theorem invoiceBody_eq :
    invoiceBody r = .object (invoiceTerms r).members := by
  rcases r with ⟨amount, memo, commitment, expiry⟩
  rcases commitment with _ | _ | _ <;> cases expiry <;> rfl

/- A record can hold it. -/
theorem isSound_invoiceTerms : (invoiceTerms r).IsSound where
  scalar := by
    simp only [invoiceTerms, List.forall_mem_cons,
      Option.mem_def, Option.some.injEq, forall_eq']
    refine ⟨trivial, Value.isScalar_word _, trivial, ?_,
      fun _ => isScalar_of_mem_map_hex,
      fun _ => isScalar_of_mem_map_hex, nofun⟩
    intro v hSome
    rcases Option.map_eq_some_iff.mp hSome with ⟨secs, _, rfl⟩
    exact Value.isScalar_word secs
  nodup := by
    change
      ["out", "amount", "memo", "expiry", "description_hash",
        "unhashed_description"].Nodup
    decide

variable {r} {s : InvoiceRequest}

/- Words are told apart. -/
theorem word_inj
    {a b : UInt64}
    (hNumber :
      Value.int (a.toNat : Int) = Value.int (b.toNat : Int)) :
    a = b :=
  UInt64.toNat.inj (Int.ofNat.inj (Value.int.inj hNumber))

/-
  Requests of which LNbits is told the same are the same, up to
  a memo that is missing or empty.
-/
theorem eq_of_invoiceTerms
    (hSame :
      ∀ name, (invoiceTerms r).value? name =
        (invoiceTerms s).value? name) :
    r.withMemo r.memoText = s.withMemo s.memoText := by
  have hAmount : r.amountSat = s.amountSat :=
    word_inj (Option.some.inj (hSame "amount"))
  have hMemo : r.memoText = s.memoText :=
    Value.text.inj (Option.some.inj (hSame "memo"))
  have hExpiry : r.expirySecs = s.expirySecs :=
    Option.map_injective (fun _ _ => word_inj) (hSame "expiry")
  have hHash : hash? r = hash? s :=
    Option.map_injective (fun _ _ => hex_inj)
      (hSame "description_hash")
  have hBytes : unhashed? r = unhashed? s :=
    Option.map_injective (fun _ _ => hex_inj)
      (hSame "unhashed_description")
  rw [InvoiceRequest.withMemo, InvoiceRequest.withMemo, hAmount,
    hMemo, hExpiry, commitment_eq hHash hBytes]

end Lnbits

------------------------------------------------------------
-- LNPay
------------------------------------------------------------

namespace Lnpay

variable (r : InvoiceRequest)

/- What LNPay is told of an invoice. -/
def invoiceTerms : Terms :=
  [("num_satoshis", some (.text (toString r.amountSat.toNat))),
   ("description_hash",
     ((hash? r).or ((unhashed? r).map Crypto.Sha256.hash)).map
       hex),
   ("memo",
     if r.commitment.isSome then none
     else some (.text (r.memo.getD "")))]

/- LNPay is told it in a document. -/
theorem invoiceBody_eq :
    invoiceBody r = .object (invoiceTerms r).members := by
  rcases r with ⟨amount, memo, _ | _ | _, expiry⟩ <;> rfl

/- A record can hold it. -/
theorem isSound_invoiceTerms : (invoiceTerms r).IsSound where
  scalar := by
    simp only [invoiceTerms, List.forall_mem_cons,
      Option.mem_def, Option.some.injEq, forall_eq']
    refine ⟨trivial, fun _ => isScalar_of_mem_map_hex, ?_,
      nofun⟩
    intro v hSome
    split at hSome
    · cases hSome
    · cases hSome
      trivial
  nodup := by
    change ["num_satoshis", "description_hash", "memo"].Nodup
    decide

end Lnpay

------------------------------------------------------------
-- ZBD
------------------------------------------------------------

namespace Zbd

variable (r : InvoiceRequest)

/- What ZBD is told of an invoice. -/
def invoiceTerms : Terms :=
  [("amount",
     some (.text (toString (r.amountSat.toNat * 1000)))),
   ("description", some (.text (r.memo.getD ""))),
   ("expiresIn",
     some (.int (r.expirySecs.getD defaultExpiry).toNat)),
   ("callbackUrl", some (.text "")),
   ("internalId", some (.text ""))]

/- ZBD is told it in a document, if the amount is in range. -/
theorem invoiceBody_eq
    {amount : Msat}
    (hAmount : r.amount = .ok amount) :
    invoiceBody r amount = .object (invoiceTerms r).members := by
  have hValue :
      amount.value = ((r.amountSat.toNat * 1000 : Nat) : Int) := by
    unfold InvoiceRequest.amount at hAmount
    cases hSat : Msat.ofSat? r.amountSat.toNat with
    | none =>
        rw [hSat] at hAmount
        cases hAmount
    | some a =>
        rw [hSat] at hAmount
        cases hAmount
        exact Msat.value_of_ofInt? hSat
  rw [invoiceBody, hValue]
  rfl

/- A record can hold it. -/
theorem isSound_invoiceTerms : (invoiceTerms r).IsSound where
  scalar := by
    simp only [invoiceTerms, List.forall_mem_cons,
      Option.mem_def, Option.some.injEq, forall_eq']
    exact ⟨trivial, trivial, Value.isScalar_word _, trivial,
      trivial, nofun⟩
  nodup := by
    change
      ["amount", "description", "expiresIn", "callbackUrl",
        "internalId"].Nodup
    decide

end Zbd

end Backend

namespace Wallet

------------------------------------------------------------
-- What is Posted
------------------------------------------------------------

/- What a provider is told of an invoice. -/
def invoiceTerms (w : Wallet) (r : InvoiceRequest) : Terms :=
  match w with
  | .lnbits _ => Lnbits.invoiceTerms r
  | .lnpay _ => Lnpay.invoiceTerms r
  | .zbd _ => Zbd.invoiceTerms r
  | .memory _ => []

/- Where a provider is asked for an invoice. -/
def invoicePath : Wallet → String
  | .lnbits _ => "api/v1/payments"
  | .lnpay v => "wallet/" ++ v.walletKey ++ "/invoice"
  | .zbd _ => "charges"
  | .memory _ => ""

/- The call by which a provider is asked for an invoice. -/
def invoiceCall (w : Wallet) (r : InvoiceRequest) : Call :=
  ⟨.post (.object (w.invoiceTerms r).members), w.invoicePath,
    some invoiceLimit⟩

/-
  Whether a wallet asks for an invoice at all: at ZBD it must
  commit to no description, and its amount has to be in range.
-/
def Takes (w : Wallet) (r : InvoiceRequest) : Prop :=
  match w with
  | .zbd _ =>
      r.commitment = none ∧
        (r.amountSat.toNat : Int) * 1000 < Msat.bound
  | _ => True

/-
  Whether what a wallet sends to a path gets to its provider:
  the wallet is open, there is an address to send it to, and
  the provider is in reach.
-/
structure Reaches
    (w : Wallet)
    (path : String)
    (script : Script) : Prop where
  exists_target :
    ∃ c u, w.client? = some c ∧ c.closed = false ∧
      c.target path = .ok u
  inReach_eq : script.inReach = true

/-
  A wallet asks its provider for an invoice in one call that
  says the terms, or it does not ask at all.
-/
theorem createInvoice_cases
    (w : Wallet)
    (random : List UInt8)
    (r : InvoiceRequest) :
    (∃ a, w.createInvoice random r = .done a ∧
      ∀ c, w.client? = some c → ¬w.Takes r) ∨
    ∃ c, w.client? = some c ∧ (w.invoiceTerms r).IsSound ∧
      ∃ read, w.createInvoice random r =
        .once (w.invoiceCall r) read := by
  cases w with
  | memory l => exact .inl ⟨_, rfl, nofun⟩
  | lnbits v =>
      refine .inr ⟨v.client, rfl,
        Lnbits.isSound_invoiceTerms r, ?_⟩
      rw [invoiceCall, invoiceTerms, ← Lnbits.invoiceBody_eq]
      exact ⟨_, rfl⟩
  | lnpay v =>
      refine .inr ⟨v.client, rfl,
        Lnpay.isSound_invoiceTerms r, ?_⟩
      rw [invoiceCall, invoiceTerms, ← Lnpay.invoiceBody_eq]
      exact ⟨_, rfl⟩
  | zbd v =>
      unfold createInvoice Zbd.createInvoice Takes
      cases hCommitment : r.commitment with
      | some commitment =>
          refine .inl ⟨_, rfl, fun _ _ hTakes => ?_⟩
          cases hTakes.1
      | none =>
          cases hAmount : r.amount with
          | error e =>
              refine .inl ⟨_, rfl, fun _ _ hTakes => ?_⟩
              rcases r.exists_amount_iff.mpr hTakes.2 with
                ⟨amount, hGood⟩
              rw [hAmount] at hGood
              cases hGood
          | ok amount =>
              refine .inr ⟨v.client, rfl,
                Zbd.isSound_invoiceTerms r, ?_⟩
              rw [invoiceCall, invoiceTerms,
                ← Zbd.invoiceBody_eq r hAmount]
              exact ⟨_, rfl⟩

/- What gets to the provider for a request. -/
def invoiceRequests
    (w : Wallet)
    (random : List UInt8)
    (r : InvoiceRequest)
    (script : Script) : List Request :=
  (w.run (w.createInvoice random r) script).requests

/- A request for an invoice is posted once or not at all. -/
theorem createInvoice_posts
    (w : Wallet)
    (random : List UInt8)
    (r : InvoiceRequest)
    (script : Script) :
    w.invoiceRequests random r script = [] ∨
      ∃ q, w.invoiceRequests random r script = [q] ∧
        q.Posts (w.invoiceTerms r) := by
  unfold invoiceRequests
  rcases w.createInvoice_cases random r with
    ⟨a, hDone, _⟩ | ⟨c, hClient, hSound, read, hOnce⟩
  · left
    rw [hDone, run]
    cases w.client? <;> rfl
  · rw [hOnce, run, hClient, Dialogue.requests_run_once]
    exact hSound.sent_eq_nil_or c _ _ _

/- It is posted if the wallet takes it and gets through. -/
theorem createInvoice_sends
    {w : Wallet}
    {r : InvoiceRequest}
    {script : Script}
    (random : List UInt8)
    (hTakes : w.Takes r)
    (hReaches : w.Reaches w.invoicePath script) :
    w.invoiceRequests random r script ≠ [] := by
  rcases hReaches.exists_target with
    ⟨c, u, hClient, hOpen, hTarget⟩
  rcases w.createInvoice_cases random r with
    ⟨a, _, hNever⟩ | ⟨d, hSame, _, read, hOnce⟩
  · exact absurd hTakes (hNever c hClient)
  · rw [hClient] at hSame
    cases hSame
    rw [invoiceRequests, hOnce, run, hClient,
      Dialogue.requests_run_once, hReaches.inReach_eq]
    exact Client.sent_ne_nil_of_target hOpen hTarget

/- Two requests that LNbits gets in one body are alike. -/
theorem eq_of_posted
    {v v' : Lnbits}
    {random random' : List UInt8}
    {r s : InvoiceRequest}
    {script script' : Script}
    {p q : Request}
    (hFirst :
      p ∈ (lnbits v).invoiceRequests random r script)
    (hSecond :
      q ∈ (lnbits v').invoiceRequests random' s script')
    (hBody : p.body = q.body) :
    r.withMemo r.memoText = s.withMemo s.memoText := by
  have hPosts :
      ∀ {w : Wallet} {random : List UInt8} {r : InvoiceRequest}
          {script : Script} {p : Request},
        p ∈ w.invoiceRequests random r script →
        p.Posts (w.invoiceTerms r) := by
    intro w random r script p hMem
    rcases w.createInvoice_posts random r script with
      hNone | ⟨q, hOne, hTerms⟩
    · rw [hNone] at hMem
      cases hMem
    · rw [hOne] at hMem
      cases List.mem_singleton.mp hMem
      exact hTerms
  exact Lnbits.eq_of_invoiceTerms
    ((hPosts hFirst).value?_eq (hPosts hSecond) hBody)

/- ZBD is not asked for an invoice that commits to something. -/
theorem run_createInvoice_of_commitment
    (v : Zbd)
    (random : List UInt8)
    {r : InvoiceRequest}
    (hCommits : r.commitment.isSome = true)
    (script : Script) :
    (zbd v).run ((zbd v).createInvoice random r) script =
      ⟨some (.failed "unsupported: description_hash", zbd v), [],
        0, script⟩ := by
  have hRefused :
      v.createInvoice r =
        .done (.failed "unsupported: description_hash") := by
    rw [Zbd.createInvoice, if_pos hCommits]
    rfl
  rw [createInvoice, hRefused]
  rfl

/-
  For every wallet, every request for an invoice and everything
  that the provider may do: nothing is sent, or one request is
  posted, whose body is a JSON document that says the terms of
  the request; and it is posted if the wallet takes the request
  and gets through to its provider.

  Requests that LNbits gets in equal bodies are the same, up to
  a memo that is missing or empty.  LNPay is told a hash or a
  memo, never both.  ZBD refuses what it is not told: a
  commitment is in what is posted, or nothing is.
-/
theorem invoice_posted_whole
    (w : Wallet)
    (random : List UInt8)
    (r : InvoiceRequest)
    (script : Script) :
    (w.invoiceRequests random r script = [] ∨
      ∃ q, w.invoiceRequests random r script = [q] ∧
        q.Posts (w.invoiceTerms r)) ∧
    (w.Takes r → w.Reaches w.invoicePath script →
      w.invoiceRequests random r script ≠ []) ∧
    (∀ v v' random' s script' p q, w = .lnbits v →
      p ∈ w.invoiceRequests random r script →
      q ∈ (lnbits v').invoiceRequests random' s script' →
      p.body = q.body →
      r.withMemo r.memoText = s.withMemo s.memoText) ∧
    (∀ v, w = .lnpay v →
      ((w.invoiceTerms r).value? "description_hash").isSome =
          r.commitment.isSome ∧
        ((w.invoiceTerms r).value? "memo").isSome =
          r.commitment.isNone) ∧
    (r.commitment.isSome = true →
      (∀ v, w = .zbd v →
        w.run (w.createInvoice random r) script =
          ⟨some (.failed "unsupported: description_hash", w), [],
            0, script⟩) ∧
      (w.invoiceRequests random r script = [] ∨
        ((w.invoiceTerms r).value? "description_hash").isSome =
            true ∨
          ((w.invoiceTerms r).value?
            "unhashed_description").isSome = true)) := by
  refine ⟨w.createInvoice_posts random r script,
    createInvoice_sends random, ?_, ?_, ?_⟩
  · rintro v v' random' s script' p q rfl hFirst hSecond hBody
    exact eq_of_posted hFirst hSecond hBody
  · rintro v rfl
    rcases r with ⟨amount, memo, _ | _ | _, expiry⟩ <;>
      exact ⟨rfl, rfl⟩
  · intro hCommits
    refine ⟨?_, ?_⟩
    · rintro v rfl
      exact run_createInvoice_of_commitment v random hCommits
        script
    · cases w with
      | lnbits v =>
          rcases r with ⟨amount, memo, _ | _ | _, expiry⟩
          · cases hCommits
          · exact .inr (.inl rfl)
          · exact .inr (.inr rfl)
      | lnpay v =>
          rcases r with ⟨amount, memo, _ | _ | _, expiry⟩
          · cases hCommits
          · exact .inr (.inl rfl)
          · exact .inr (.inl rfl)
      | zbd v =>
          rw [invoiceRequests,
            run_createInvoice_of_commitment v random hCommits
              script]
          exact .inl rfl
      | memory l => exact .inl rfl

/- A client of an LNbits instance. -/
def counter : Client :=
  ⟨"http://lnbits.test", "x-api-key", "key", "agent", false⟩

/- A wallet with this client. -/
def till : Wallet :=
  .lnbits ⟨counter, 5, 8⟩

/- It has an address to post to. -/
theorem till_reaches (behaviours : List Behaviour) :
    till.Reaches "api/v1/payments" ⟨true, behaviours⟩ := by
  have hTarget :
      (counter.target "api/v1/payments").toBool = true := by
    decide +kernel
  cases hUrl : counter.target "api/v1/payments" with
  | error f =>
      rw [hUrl] at hTarget
      cases hTarget
  | ok u => exact ⟨⟨counter, u, rfl, rfl, hUrl⟩, rfl⟩

/- A request for an invoice that commits to a description. -/
def described : InvoiceRequest :=
  ((InvoiceRequest.ofSat 21).withMemo "\"tea\"").withUnhashed
    [0x74, 0x65, 0x61]

/- It is posted with its commitment. -/
theorem invoice_posted_whole_of_described :
    till.Takes described ∧
      till.Reaches till.invoicePath ⟨true, []⟩ ∧
      ∃ q, till.invoiceRequests [] described ⟨true, []⟩ = [q] ∧
        q.Posts (till.invoiceTerms described) := by
  rcases invoice_posted_whole till [] described ⟨true, []⟩ with
    ⟨hPosts, hSends, _⟩
  exact ⟨trivial, till_reaches [],
    hPosts.resolve_left (hSends trivial (till_reaches []))⟩

end Wallet

end LightningGateway
