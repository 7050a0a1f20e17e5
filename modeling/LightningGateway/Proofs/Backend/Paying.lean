import LightningGateway.Proofs.Backend.Charging

/-
  How often a provider is told to pay.

  A wallet posts a payment once or not at all, whatever comes
  back, and what it posts has the text of the invoice in it.
  Nothing follows but one lookup of a payment that the provider
  has accepted.

  Key definitions include:
    * `Wallet.paymentTerms`
    * `Wallet.Pays`
    * `Lnbits.Accepts`
    * `Wallet.LooksUp`

  Main results:
    * `Wallet.payInvoice_cases`
    * `Wallet.payInvoice_posts`
    * `Wallet.payment_posted_once`
-/

namespace LightningGateway

open Backend Payment Provider

namespace Backend

/- A reply that accepts a payment under a hash. -/
structure Lnbits.Accepts (r : Reply) (hash : String) : Prop where
  usable : ¬(400 ≤ r.status ∧ r.status < 600)
  exists_tree :
    ∃ t, Json.Tree.parse? r.body = some t ∧
      sentHash? t = some (some hash)

end Backend

namespace Wallet

------------------------------------------------------------
-- Terms of Payments
------------------------------------------------------------

/- What a provider is told to pay. -/
def paymentTerms (w : Wallet) (paymentRequest : String) : Terms :=
  match w with
  | .lnbits _ =>
      [("out", some (.bool true)),
       ("bolt11", some (.text paymentRequest))]
  | .lnpay _ =>
      [("payment_request", some (.text paymentRequest))]
  | .zbd _ =>
      [("invoice", some (.text paymentRequest)),
       ("description", some (.text "")),
       ("amount", some (.text "")),
       ("internalId", some (.text "")),
       ("callbackUrl", some (.text ""))]
  | .memory _ => []

/- Where a provider is told to pay. -/
def paymentPath : Wallet → String
  | .lnbits _ => "api/v1/payments"
  | .lnpay v => "wallet/" ++ v.walletKey ++ "/withdraw"
  | .zbd _ => "payments"
  | .memory _ => ""

/-
  Whether a wallet pays an invoice at all: for ZBD it has to be
  one that can be read.
-/
def Pays (w : Wallet) (paymentRequest : String) : Prop :=
  match w with
  | .zbd _ => ∃ i, Bolt11.Invoice.parse paymentRequest = .ok i
  | _ => True

/- A record can hold what a provider is told. -/
theorem isSound_paymentTerms
    (w : Wallet)
    (paymentRequest : String) :
    (w.paymentTerms paymentRequest).IsSound where
  scalar := by
    cases w <;>
      simp only [paymentTerms, List.forall_mem_cons,
        Option.mem_def, Option.some.injEq, forall_eq']
    · exact ⟨trivial, trivial, nofun⟩
    · exact ⟨trivial, nofun⟩
    · exact ⟨trivial, trivial, trivial, trivial, trivial, nofun⟩
    · exact nofun
  nodup := by
    cases w with
    | lnbits v =>
        change ["out", "bolt11"].Nodup
        decide
    | lnpay v => exact List.pairwise_singleton _ _
    | zbd v =>
        change
          ["invoice", "description", "amount", "internalId",
            "callbackUrl"].Nodup
        decide
    | memory l => exact List.nodup_nil

/- The call by which a provider is told to pay. -/
def paymentCall (w : Wallet) (paymentRequest : String) : Call :=
  ⟨.post (.object (w.paymentTerms paymentRequest).members),
    w.paymentPath, none⟩

------------------------------------------------------------
-- Dialogues of Payments
------------------------------------------------------------

/-
  What may follow after a payment was posted: nothing, or LNbits
  is asked about a payment that it has accepted.
-/
inductive Follows
    (w : Wallet) :
    Outcome → Dialogue (PaymentAnswer × Wallet) → Prop
  | done
      (o : Outcome)
      (a : PaymentAnswer × Wallet) :
      Follows w o (.done a)
  | lookUp
      {v : Lnbits}
      {r : Reply}
      {hash : String}
      (read : Outcome → PaymentAnswer × Wallet)
      (hWallet : w = .lnbits v)
      (hAccepts : Lnbits.Accepts r hash) :
      Follows w (.reply r) (.once (Lnbits.lookupCall hash) read)

/- What follows after the reply of LNbits. -/
theorem follows_afterSent
    (v : Lnbits)
    (o : Outcome) :
    (lnbits v).Follows o
      ((v.afterSent
        ((v.client.receive o).bind Lnbits.readSent)).map
          fun a => (a, lnbits v)) := by
  cases hRead : (v.client.receive o).bind Lnbits.readSent with
  | error e => exact .done o _
  | ok sent =>
      cases sent with
      | refused message => exact .done o _
      | accepted hash =>
          rcases Client.receive_bind_eq_ok_iff.mp hRead with
            ⟨r, rfl, hReply⟩
          rcases Lnbits.readSent_eq_ok_iff.mp hReply with
            ⟨hUsable, hTree⟩
          exact .lookUp _ rfl ⟨hUsable, hTree⟩

/-
  A wallet tells its provider to pay in one call that has the
  text of the invoice in it, or it does not tell it at all.
-/
theorem payInvoice_cases
    (w : Wallet)
    (random : List UInt8)
    (paymentRequest : String) :
    (∃ a, w.payInvoice random paymentRequest = .done a ∧
      ∀ c, w.client? = some c → ¬w.Pays paymentRequest) ∨
    ∃ c, w.client? = some c ∧ w.Pays paymentRequest ∧
      ∃ next, w.payInvoice random paymentRequest =
        .ask (w.paymentCall paymentRequest) next ∧
        ∀ o, w.Follows o (next o) := by
  cases w with
  | memory l => exact .inl ⟨_, rfl, nofun⟩
  | lnbits v =>
      exact .inr ⟨v.client, rfl, trivial, _, rfl,
        follows_afterSent v⟩
  | lnpay v =>
      exact .inr ⟨v.client, rfl, trivial, _, rfl,
        fun o => .done o _⟩
  | zbd v =>
      unfold payInvoice Zbd.payInvoice Pays
        Bolt11.Invoice.paymentHashOf Bolt11.Invoice.read
      cases Bolt11.Invoice.parse paymentRequest with
      | error e =>
          refine .inl ⟨_, rfl, fun _ _ hPays => ?_⟩
          rcases hPays with ⟨i, hOk⟩
          cases hOk
      | ok i =>
          exact .inr ⟨v.client, rfl, ⟨i, rfl⟩, _, rfl,
            fun o => .done o _⟩

------------------------------------------------------------
-- Requests of Payments
------------------------------------------------------------

/- What gets to the provider for a payment. -/
def paymentRequests
    (w : Wallet)
    (random : List UInt8)
    (paymentRequest : String)
    (script : Script) : List Request :=
  (w.run (w.payInvoice random paymentRequest) script).requests

/-
  A lookup after a payment: LNbits has answered the payment with
  a reply that accepts it under a hash, and is asked about it.
-/
inductive LooksUp
    (w : Wallet)
    (script : Script) : Request → Prop
  | mk
      {v : Lnbits}
      {r : Reply}
      {hash : String}
      {u : Url}
      (hWallet : w = .lnbits v)
      (hReply : script.behaviours.head? = some (.answers r))
      (hAccepts : Lnbits.Accepts r hash)
      (hTarget :
        v.client.target ("api/v1/payments/" ++ hash) = .ok u) :
      LooksUp w script
        ⟨"GET", u.withoutFragment.render,
          v.client.headers .get ("api/v1/payments/" ++ hash),
          none⟩

/- After a payment that was sent there is one lookup, or none. -/
theorem sentAfter_cases
    {w : Wallet}
    {c : Client}
    {call : Call}
    {script later : Script}
    {outcome? : Option Outcome}
    {next : Outcome → Dialogue (PaymentAnswer × Wallet)}
    (hClient : w.client? = some c)
    (hGoes : c.Goes call script outcome? later)
    (hFollows : ∀ o, w.Follows o (next o)) :
    c.sentAfter next outcome? later = [] ∨
      c.sent call script.inReach ≠ [] ∧
        ∃ g, w.LooksUp script g ∧
          c.sentAfter next outcome? later = [g] := by
  cases outcome? with
  | none => exact .inl rfl
  | some o =>
      have hNext := hFollows o
      simp only [Client.sentAfter]
      generalize next o = d at hNext ⊢
      cases hNext with
      | done a => exact .inl rfl
      | lookUp read hWallet hAccepts =>
          subst hWallet
          cases hClient
          rcases hGoes.of_reply _ rfl with ⟨hReply, hSent⟩
          simp only [Dialogue.requests_run_once]
          rcases Client.sent_eq_nil_or _ (Lnbits.lookupCall _)
              later.inReach with
            hNone | ⟨g, url, hOne, hRequest⟩
          · exact .inl hNone
          · right
            rcases Client.request_eq_ok_iff.mp hRequest with
              ⟨u, hTarget, rfl, _⟩
            exact ⟨hSent, _, .mk rfl hReply hAccepts hTarget,
              hOne⟩

/- A payment is posted once or not at all. -/
theorem payInvoice_posts
    (w : Wallet)
    (random : List UInt8)
    (paymentRequest : String)
    (script : Script) :
    w.paymentRequests random paymentRequest script = [] ∨
      ∃ q, q.Posts (w.paymentTerms paymentRequest) ∧
        (w.paymentRequests random paymentRequest script = [q] ∨
          ∃ g, w.LooksUp script g ∧
            w.paymentRequests random paymentRequest script =
              [q, g]) := by
  unfold paymentRequests
  rcases w.payInvoice_cases random paymentRequest with
    ⟨a, hDone, _⟩ | ⟨c, hClient, _, next, hAsk, hFollows⟩
  · left
    rw [hDone, run]
    cases w.client? <;> rfl
  · rw [hAsk, run, hClient]
    rcases c.exists_goes (w.paymentCall paymentRequest) script
      with ⟨outcome?, later, hGoes⟩
    have hAfter := sentAfter_cases hClient hGoes hFollows
    have hSound := w.isSound_paymentTerms paymentRequest
    simp only [hGoes.requests_eq]
    rcases hSound.sent_eq_nil_or c w.paymentPath none
        script.inReach with
      hNone | ⟨q, hOne, hPosts⟩
    · rw [paymentCall, hNone] at hAfter ⊢
      rcases hAfter with hEnd | ⟨hSent, _⟩
      · exact .inl hEnd
      · exact absurd rfl hSent
    · rw [paymentCall, hOne]
      refine .inr ⟨q, hPosts, ?_⟩
      rcases hAfter with hEnd | ⟨_, g, hLooksUp, hGet⟩
      · rw [hEnd]
        exact .inl rfl
      · rw [hGet]
        exact .inr ⟨g, hLooksUp, rfl⟩

/- It is posted if the wallet pays it and gets through. -/
theorem payInvoice_sends
    {w : Wallet}
    {paymentRequest : String}
    {script : Script}
    (random : List UInt8)
    (hPays : w.Pays paymentRequest)
    (hReaches : w.Reaches w.paymentPath script) :
    w.paymentRequests random paymentRequest script ≠ [] := by
  rcases hReaches.exists_target with
    ⟨c, u, hClient, hOpen, hTarget⟩
  rcases w.payInvoice_cases random paymentRequest with
    ⟨a, _, hNever⟩ | ⟨d, hSame, _, next, hAsk, _⟩
  · exact absurd hPays (hNever c hClient)
  · rw [hClient] at hSame
    cases hSame
    rcases c.exists_goes (w.paymentCall paymentRequest) script
      with ⟨outcome?, later, hGoes⟩
    have hSent :
        c.sent (w.paymentCall paymentRequest) true ≠ [] :=
      Client.sent_ne_nil_of_target hOpen hTarget
    simp only [paymentRequests, hAsk, run, hClient,
      hGoes.requests_eq, hReaches.inReach_eq]
    exact List.append_ne_nil_of_left_ne_nil hSent _

/- An invoice that cannot be read does not get to the provider. -/
theorem paymentRequests_of_not_pays
    {w : Wallet}
    {paymentRequest : String}
    (random : List UInt8)
    (script : Script)
    (hNever : ¬w.Pays paymentRequest) :
    w.paymentRequests random paymentRequest script = [] := by
  unfold paymentRequests
  rcases w.payInvoice_cases random paymentRequest with
    ⟨a, hDone, _⟩ | ⟨c, _, hPays, _⟩
  · rw [hDone, run]
    cases w.client? <;> rfl
  · exact absurd hPays hNever

/-
  For every wallet, every text that it is to pay and everything
  that the provider may do: nothing is sent, or one request is
  posted, whose body is a JSON document that says the terms of
  the payment, with this text; and it is posted if the wallet
  pays the invoice and gets through to its provider.  Whatever
  comes back, no other request is posted.

  All that may follow is a lookup at LNbits, of the hash under
  which the payment was accepted.  At ZBD, an invoice that
  cannot be read is not sent.
-/
theorem payment_posted_once
    (w : Wallet)
    (random : List UInt8)
    (paymentRequest : String)
    (script : Script) :
    (w.paymentRequests random paymentRequest script = [] ∨
      ∃ q, q.Posts (w.paymentTerms paymentRequest) ∧
        (w.paymentRequests random paymentRequest script = [q] ∨
          ∃ g, w.LooksUp script g ∧
            w.paymentRequests random paymentRequest script =
              [q, g])) ∧
    (w.paymentRequests random paymentRequest script).countP
        (·.method = "POST") ≤ 1 ∧
    (w.Pays paymentRequest → w.Reaches w.paymentPath script →
      w.paymentRequests random paymentRequest script ≠ []) ∧
    (∀ v e, w = .zbd v →
      Bolt11.Invoice.parse paymentRequest = .error e →
      w.paymentRequests random paymentRequest script = []) := by
  have hPosts := w.payInvoice_posts random paymentRequest script
  refine ⟨hPosts, ?_, payInvoice_sends random, ?_⟩
  · rcases hPosts with
      hNone | ⟨q, hTerms, hOne | ⟨g, hGet, hTwo⟩⟩
    · rw [hNone]
      decide
    · rw [hOne]
      simp [hTerms.method_eq]
    · rw [hTwo]
      cases hGet
      simp [hTerms.method_eq]
  · rintro v e rfl hBad
    apply paymentRequests_of_not_pays
    rintro ⟨i, hGood⟩
    rw [hBad] at hGood
    cases hGood

/- An instance that accepts a payment, and then is silent. -/
def accepting : Script :=
  ⟨true, [.answers ⟨201, "\x7b\"payment_hash\":\"aa\"\x7d"⟩,
    .staysSilent]⟩

/- A wallet at ZBD. -/
def purse : Wallet :=
  .zbd ⟨⟨"https://zbd.test", "apikey", "key", "agent", false⟩,
    .ofCapacity 1⟩

/- One payment is posted; no invoice, and none is. -/
theorem payment_posted_once_of_accepting :
    till.Pays "lnbc\"1" ∧
      till.Reaches till.paymentPath accepting ∧
      (∃ q rest,
        till.paymentRequests [] "lnbc\"1" accepting =
            q :: rest ∧
          q.Posts (till.paymentTerms "lnbc\"1")) ∧
      (till.paymentRequests [] "lnbc\"1" accepting).countP
          (·.method = "POST") ≤ 1 ∧
      ∃ e, Bolt11.Invoice.parse "lnbc\"1" = .error e ∧
        purse.paymentRequests [] "lnbc\"1" accepting = [] := by
  rcases payment_posted_once till [] "lnbc\"1" accepting with
    ⟨hPosts, hCount, hSends, _⟩
  have hReaches := till_reaches accepting.behaviours
  refine ⟨trivial, hReaches, ?_, hCount, ?_⟩
  · rcases hPosts with hNone | ⟨q, hTerms, hOne | ⟨g, _, hTwo⟩⟩
    · exact absurd hNone (hSends trivial hReaches)
    · exact ⟨q, [], hOne, hTerms⟩
    · exact ⟨q, [g], hTwo, hTerms⟩
  · have hBad :
        (Bolt11.Invoice.parse "lnbc\"1").toBool = false := by
      decide +kernel
    cases hParse : Bolt11.Invoice.parse "lnbc\"1" with
    | ok i =>
        rw [hParse] at hBad
        cases hBad
    | error e =>
        exact ⟨e, rfl,
          (payment_posted_once purse [] "lnbc\"1"
            accepting).2.2.2 _ e rfl hParse⟩

end Wallet

end LightningGateway
