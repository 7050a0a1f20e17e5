import LightningGateway.Wallet
import LightningGateway.Proofs.Provider.Exchange
import LightningGateway.Proofs.Run
import Mathlib.Data.List.Forall2

/-
  What answers tell about credentials.

  Two wallets are compared whose settings differ in the values
  of credentials only, and whose providers behave alike.  What
  they answer differs only by the addresses that failures name,
  and those differ only at LNPay, where the key of the wallet
  stands in the address.

  Key definitions include:
    * `Settings.SameButKeys`
    * `Wallet.Alike`
    * `Outcome.SameKind`
    * `Wallet.Session`

  Main results:
    * `Wallet.alike_of_build`
    * `Wallet.Alike.answers_eq_iff`
-/

namespace LightningGateway

open Backend Payment Provider Settings

------------------------------------------------------------
-- Settings and Wallets
------------------------------------------------------------

namespace Settings

/- Settings without any credentials. -/
def withoutKeys (s : Settings) : Settings :=
  { s with
    lnbits :=
      { s.lnbits with
        key := none
        adminKey := none
        invoiceKey := none }
    lnpay :=
      { s.lnpay with
        apiKey := none
        walletKey := none
        adminKey := none }
    zbd := { s.zbd with apiKey := none } }

/- The credentials in settings. -/
def keys (s : Settings) : List (Option String) :=
  [s.lnbits.key, s.lnbits.adminKey, s.lnbits.invoiceKey,
   s.lnpay.apiKey, s.lnpay.walletKey, s.lnpay.adminKey,
   s.zbd.apiKey]

/-
  Settings that differ in the values of credentials only; each
  credential is there in both or in none.
-/
def SameButKeys (s t : Settings) : Prop :=
  s.withoutKeys = t.withoutKeys ∧
    s.keys.map Option.isSome = t.keys.map Option.isSome

/- Such settings choose one provider, at one address. -/
theorem SameButKeys.funding_eq
    {s t : Settings}
    (hSame : s.SameButKeys t) :
    s.funding = t.funding ∧
      s.lnbits.endpoint = t.lnbits.endpoint ∧
      s.lnpay.endpoint = t.lnpay.endpoint ∧
      s.zbd.endpoint = t.zbd.endpoint := by
  have hOpen := hSame.1
  simp only [withoutKeys, Settings.mk.injEq,
    LnbitsSettings.mk.injEq, LnpaySettings.mk.injEq,
    ZbdSettings.mk.injEq, and_true] at hOpen
  rcases hOpen with
    ⟨_, _, hFunding, hLnbits, hLnpay, hZbd, _⟩
  exact ⟨hFunding, hLnbits, hLnpay, hZbd⟩

end Settings

namespace Provider

/- A client with another key. -/
def Client.withKey
    (c : Client)
    (key : String) : Client :=
  { c with key := key }

/- A client that is built has the address that it was given. -/
theorem Client.build_eq_ok
    {wallet endpoint userAgent keyName key : String}
    {c : Client}
    (hBuilt :
      build wallet endpoint userAgent keyName key = .ok c) :
    c =
      ⟨Endpoint.normal endpoint, keyName, key, userAgent,
        false⟩ := by
  simp only [build] at hBuilt
  cases hParse : Url.parse (Endpoint.normal endpoint) with
  | error e =>
      simp only [hParse] at hBuilt
      exact nomatch hBuilt
  | ok u =>
      simp only [hParse] at hBuilt
      by_cases hKey : (!isHeaderValue key) = true
      · rw [if_pos hKey] at hBuilt
        exact nomatch hBuilt
      · rw [if_neg hKey] at hBuilt
        by_cases hAgent : (!isHeaderValue userAgent) = true
        · rw [if_pos hAgent] at hBuilt
          exact nomatch hBuilt
        · rw [if_neg hAgent] at hBuilt
          exact (Except.ok.inj hBuilt).symm

end Provider

namespace Wallet

/- Wallets that differ in their credentials only. -/
inductive Alike : Wallet → Wallet → Prop
  | lnbits
      (w : Lnbits)
      (key : String) :
      Alike (.lnbits w)
        (.lnbits { w with client := w.client.withKey key })
  | lnpay
      (w : Lnpay)
      (key walletKey : String) :
      Alike (.lnpay w)
        (.lnpay { w with
          client := w.client.withKey key
          walletKey := walletKey })
  | zbd
      (w : Zbd)
      (key : String) :
      Alike (.zbd w)
        (.zbd { w with client := w.client.withKey key })

/- Whether a key of a wallet stands in addresses of its calls. -/
def hasKeyInAddress : Wallet → Bool
  | .lnpay _ => true
  | _ => false

/- The wallet at LNbits that settings describe. -/
theorem lnbits_of_build
    {s : LnbitsSettings}
    {f : FundingSettings}
    {w : Lnbits}
    (hBuilt : Lnbits.build s f = .ok w) :
    ∃ endpoint key,
      required Lnbits.walletName "lnbits_endpoint" [s.endpoint] =
          .ok endpoint ∧
        w = ⟨⟨Endpoint.normal endpoint, "x-api-key", key,
          f.userAgent, false⟩, f.reconnectSecs.toNat,
          f.relayCapacity.toNat⟩ := by
  rcases exists_of_bind_eq_ok hBuilt with ⟨endpoint, hEndpoint, hKeyed⟩
  rcases exists_of_bind_eq_ok hKeyed with ⟨key, _, hConnected⟩
  rcases exists_of_bind_eq_ok hConnected with ⟨c, hClient, hDone⟩
  rw [Client.build_eq_ok hClient] at hDone
  exact ⟨endpoint, key, hEndpoint, (Except.ok.inj hDone).symm⟩

/- The wallet at LNPay that settings describe. -/
theorem lnpay_of_build
    {s : LnpaySettings}
    {f : FundingSettings}
    {w : Lnpay}
    (hBuilt : Lnpay.build s f = .ok w) :
    ∃ endpoint key walletKey,
      required Lnpay.walletName "lnpay_api_endpoint"
          [s.endpoint] = .ok endpoint ∧
        w = ⟨⟨Endpoint.normal endpoint, "x-api-key", key,
          f.userAgent, false⟩, walletKey,
          .ofCapacity f.relayCapacity.toNat⟩ := by
  rcases exists_of_bind_eq_ok hBuilt with
    ⟨endpoint, hEndpoint, hKeyed⟩
  rcases exists_of_bind_eq_ok hKeyed with ⟨key, _, hNamed⟩
  rcases exists_of_bind_eq_ok hNamed with
    ⟨walletKey, _, hConnected⟩
  rcases exists_of_bind_eq_ok hConnected with
    ⟨c, hClient, hDone⟩
  rw [Client.build_eq_ok hClient] at hDone
  exact ⟨endpoint, key, walletKey, hEndpoint,
    (Except.ok.inj hDone).symm⟩

/- The wallet at ZBD that settings describe. -/
theorem zbd_of_build
    {s : ZbdSettings}
    {f : FundingSettings}
    {w : Zbd}
    (hBuilt : Zbd.build s f = .ok w) :
    ∃ endpoint key,
      required Zbd.walletName "zbd_api_endpoint" [s.endpoint] =
          .ok endpoint ∧
        w = ⟨⟨Endpoint.normal endpoint, "apikey", key,
          f.userAgent, false⟩,
          .ofCapacity f.relayCapacity.toNat⟩ := by
  rcases exists_of_bind_eq_ok hBuilt with
    ⟨endpoint, hEndpoint, hKeyed⟩
  rcases exists_of_bind_eq_ok hKeyed with ⟨key, _, hConnected⟩
  rcases exists_of_bind_eq_ok hConnected with
    ⟨c, hClient, hDone⟩
  rw [Client.build_eq_ok hClient] at hDone
  exact ⟨endpoint, key, hEndpoint, (Except.ok.inj hDone).symm⟩

/- Settings that differ in credentials describe alike wallets. -/
theorem alike_of_build
    {s t : Settings}
    {w v : Wallet}
    (hSame : s.SameButKeys t)
    (hProvider : s.funding.source ≠ .fake)
    (hBuilt : Wallet.build s = .ok w)
    (hOther : Wallet.build t = .ok v) :
    Alike w v ∧
      (w.hasKeyInAddress = true → s.funding.source = .lnpay) := by
  rcases hSame.funding_eq with ⟨hFunding, hLnbits, hLnpay, hZbd⟩
  unfold Wallet.build at hBuilt hOther
  rw [← hFunding] at hOther
  cases hSource : s.funding.source with
  | lnbits =>
      rw [hSource] at hBuilt hOther
      rcases exists_of_map_eq_ok hBuilt with ⟨x, hFirst, rfl⟩
      rcases exists_of_map_eq_ok hOther with ⟨y, hSecond, rfl⟩
      rcases lnbits_of_build hFirst with ⟨a, key, ha, rfl⟩
      rcases lnbits_of_build hSecond with ⟨b, other, hb, rfl⟩
      rw [← hLnbits, ha] at hb
      cases hb
      exact ⟨.lnbits _ other, fun hKey => nomatch hKey⟩
  | lnpay =>
      rw [hSource] at hBuilt hOther
      rcases exists_of_map_eq_ok hBuilt with ⟨x, hFirst, rfl⟩
      rcases exists_of_map_eq_ok hOther with ⟨y, hSecond, rfl⟩
      rcases lnpay_of_build hFirst with ⟨a, key, path, ha, rfl⟩
      rcases lnpay_of_build hSecond with
        ⟨b, other, elsewhere, hb, rfl⟩
      rw [← hLnpay, ha] at hb
      cases hb
      exact ⟨.lnpay _ other elsewhere, fun _ => rfl⟩
  | zbd =>
      rw [hSource] at hBuilt hOther
      rcases exists_of_map_eq_ok hBuilt with ⟨x, hFirst, rfl⟩
      rcases exists_of_map_eq_ok hOther with ⟨y, hSecond, rfl⟩
      rcases zbd_of_build hFirst with ⟨a, key, ha, rfl⟩
      rcases zbd_of_build hSecond with ⟨b, other, hb, rfl⟩
      rw [← hZbd, ha] at hb
      cases hb
      exact ⟨.zbd _ other, fun hKey => nomatch hKey⟩
  | fake => exact absurd hSource hProvider

end Wallet

------------------------------------------------------------
-- Outcomes of One Kind
------------------------------------------------------------

namespace Provider

/- Two faults of one kind may name different addresses. -/
inductive Fault.SameKind : Fault → Fault → Prop
  | unbuildable
      (u v : Option String)
      (hNamed : u.isSome = v.isSome) :
      SameKind (.unbuildable u) (.unbuildable v)
  | unanswered (u v : String) :
      SameKind (.unanswered u) (.unanswered v)
  | cutShort : SameKind .cutShort .cutShort

/- Two outcomes are the same, or failures of one kind. -/
inductive Outcome.SameKind : Outcome → Outcome → Prop
  | reply (r : Reply) : SameKind (.reply r) (.reply r)
  | failed
      {f g : Fault}
      (hKind : f.SameKind g) :
      SameKind (.failed f) (.failed g)
  | closed : SameKind .closed .closed

/- A message that names an address tells which one. -/
theorem Fault.forUrl_inj
    {u v : String}
    (hSame : forUrl u = forUrl v) :
    u = v := by
  unfold forUrl at hSame
  have hOpen := (String.append_left_inj ")").mp hSame
  exact (String.append_right_inj " for url (").mp hOpen

/- Faults of one kind are worded by the addresses they name. -/
theorem Fault.SameKind.eq_of_message
    {f g : Fault}
    (hKind : f.SameKind g)
    (hSame : f.message = g.message) :
    f = g := by
  cases hKind with
  | cutShort => rfl
  | unanswered u v =>
      unfold message at hSame
      have hUrl := (String.append_right_inj _).mp hSame
      rw [forUrl_inj hUrl]
  | unbuildable u v hNamed =>
      cases u with
      | none =>
          cases v with
          | none => rfl
          | some b => exact nomatch hNamed
      | some a =>
          cases v with
          | none => exact nomatch hNamed
          | some b =>
              unfold message at hSame
              have hUrl := (String.append_right_inj _).mp hSame
              rw [forUrl_inj hUrl]

/- What a client makes of an outcome does not depend on its key. -/
theorem Client.receive_withKey
    (c : Client)
    (key : String) :
    (c.withKey key).receive = c.receive := by
  funext o
  cases o <;> rfl

/- The address of a request does not depend on the key. -/
theorem Client.address_withKey
    (c : Client)
    (key : String)
    (call : Call) :
    ((c.withKey key).request call).map Prod.snd =
      (c.request call).map Prod.snd := by
  have hTarget :
      (c.withKey key).target call.path = c.target call.path := rfl
  unfold request
  rw [hTarget]
  cases c.target call.path <;> rfl

/- A failure names the address of the request, if there is one. -/
theorem Client.Meets.address
    {c : Client}
    {call : Call}
    {f : Fault}
    (hMeets : c.Meets call (.failed f)) :
    (c.request call).map Prod.snd = .error f ∨
      ∃ url, (c.request call).map Prod.snd = .ok url ∧
        (f = .unanswered url ∨ f = .cutShort) := by
  cases hMeets with
  | unbuildable _ hOpen hRequest =>
      rw [hRequest]
      exact .inl rfl
  | unanswered hOpen hRequest =>
      rw [hRequest]
      exact .inr ⟨_, rfl, .inl rfl⟩
  | cutShort hOpen hRequest =>
      rw [hRequest]
      exact .inr ⟨_, rfl, .inr rfl⟩

/- Outcomes of one kind of one call are the same. -/
theorem Client.Meets.eq_of_sameKind
    {c : Client}
    {key : String}
    {call : Call}
    {o p : Outcome}
    (hMeets : c.Meets call o)
    (hOther : (c.withKey key).Meets call p)
    (hKind : o.SameKind p) :
    o = p := by
  cases hKind with
  | reply r => rfl
  | closed => rfl
  | @failed f g hFault =>
      have hSecond := hOther.address
      rw [address_withKey] at hSecond
      rcases hMeets.address with hNone | ⟨url, hUrl, hFirst⟩
      · rcases hSecond with hAlso | ⟨other, hUrl, _⟩
        · rw [hNone] at hAlso
          cases hAlso
          rfl
        · rw [hNone] at hUrl
          cases hUrl
      · rcases hSecond with hNone | ⟨other, hAlso, hSecond⟩
        · rw [hUrl] at hNone
          cases hNone
        · rw [hUrl] at hAlso
          cases hAlso
          rcases hFirst with rfl | rfl
          · rcases hSecond with rfl | rfl
            · rfl
            · cases hFault
          · rcases hSecond with rfl | rfl
            · cases hFault
            · rfl

/- A dialogue ends alike for a client with another key. -/
theorem Dialogue.Ends.eq_of_sameKind
    {α : Type}
    {c : Client}
    {key : String}
    {d : Dialogue α}
    {os ps : List Outcome}
    {a b : α}
    (hEnds : Ends c d os a)
    (hOther : Ends (c.withKey key) d ps b)
    (hKind : List.Forall₂ Outcome.SameKind os ps) :
    os = ps ∧ a = b := by
  induction hEnds generalizing ps with
  | done a =>
      cases hOther
      exact ⟨rfl, rfl⟩
  | ask hMeets hRest ih =>
      cases hOther with
      | ask hMeetsOther hRestOther =>
          cases hKind with
          | cons hFirst hMore =>
              cases hMeets.eq_of_sameKind hMeetsOther hFirst
              rcases ih hRestOther hMore with ⟨rfl, rfl⟩
              exact ⟨rfl, rfl⟩

end Provider

------------------------------------------------------------
-- Sessions
------------------------------------------------------------

namespace Wallet

/- What a host may ask of a wallet. -/
inductive Operation where
  | balance
  | createInvoice (random : List UInt8) (r : InvoiceRequest)
  | payInvoice (random : List UInt8) (paymentRequest : String)
  | invoiceStatus (id : String)
  | paymentStatus (id : String)
  | close
  deriving DecidableEq

/- What a wallet answers. -/
inductive Answer where
  | balance (a : BalanceAnswer)
  | invoice (a : InvoiceAnswer)
  | payment (a : PaymentAnswer)
  | status (s : SettlementStatus)
  | closed
  deriving DecidableEq

namespace Operation

/- The dialogue of an operation, with the wallet after it. -/
def dialogue
    (w : Wallet) : Operation → Dialogue (Answer × Wallet)
  | .balance => w.balance.map fun a => (.balance a, w)
  | .createInvoice random r =>
      (w.createInvoice random r).map fun (a, v) =>
        (.invoice a, v)
  | .payInvoice random request =>
      (w.payInvoice random request).map fun (a, v) =>
        (.payment a, v)
  | .invoiceStatus id =>
      (w.invoiceStatus id).map fun s => (.status s, w)
  | .paymentStatus id =>
      (w.paymentStatus id).map fun s => (.status s, w)
  | .close => .done (.closed, w.close)

/- The dialogue of an operation, to its answer. -/
def answers
    (w : Wallet)
    (o : Operation) : Dialogue Answer :=
  (o.dialogue w).map Prod.fst

/- The wallet with a provider after an operation. -/
def after
    (w : Wallet) : Operation → Wallet
  | .close => w.close
  | _ => w

/- Whether the answer tells why an operation has failed. -/
def reports : Operation → Bool
  | .balance => true
  | .createInvoice _ _ => true
  | .payInvoice _ _ => true
  | _ => false

end Operation

/- A wallet's answers to operations, by the outcomes of calls. -/
inductive Session :
    Wallet → List (Operation × List Outcome) → List Answer → Prop
  | nil (w : Wallet) : Session w [] []
  | cons
      {w next : Wallet}
      {c : Client}
      {o : Operation}
      {outcomes : List Outcome}
      {a : Answer}
      {rest : List (Operation × List Outcome)}
      {answers : List Answer}
      (hClient : w.client? = some c)
      (hEnds :
        Dialogue.Ends c (o.dialogue w) outcomes (a, next))
      (hRest : Session next rest answers) :
      Session w ((o, outcomes) :: rest) (a :: answers)

/- The same operations, whose calls have outcomes of one kind. -/
def SameSteps :
    List (Operation × List Outcome) →
    List (Operation × List Outcome) → Prop :=
  List.Forall₂ fun x y =>
    x.1 = y.1 ∧ List.Forall₂ Outcome.SameKind x.2 y.2

/- The steps whose answers tell why they have failed. -/
def reported
    (steps : List (Operation × List Outcome)) :
    List (Operation × List Outcome) :=
  steps.filter (·.1.reports)

------------------------------------------------------------
-- One Operation
------------------------------------------------------------

/- Alike wallets stay so. -/
theorem Alike.after
    {w v : Wallet}
    (hAlike : Alike w v)
    (o : Operation) :
    Alike (o.after w) (o.after v) := by
  cases o with
  | close =>
      cases hAlike with
      | lnbits w key => exact .lnbits w.close key
      | lnpay w key walletKey => exact .lnpay w.close key walletKey
      | zbd w key => exact .zbd w.close key
  | _ => exact hAlike

/- A wallet with a provider is only changed by being closed. -/
theorem dialogue_eq
    {w : Wallet}
    (hProvider : w.client?.isSome = true)
    (o : Operation) :
    o.dialogue w = (o.answers w).map (·, o.after w) := by
  cases w with
  | memory l => cases hProvider
  | _ =>
      cases o with
      | close => rfl
      | _ =>
          simp only [Operation.answers, Operation.dialogue,
            createInvoice, payInvoice, Dialogue.map_map]
          rfl

/- A wallet at LNbits talks as another one with another key. -/
theorem lnbits_answers
    (w : Lnbits)
    (key : String)
    (o : Operation) :
    o.answers
        (.lnbits { w with client := w.client.withKey key }) =
      o.answers (.lnbits w) := by
  cases o with
  | payInvoice random request =>
      have hPay :
          { w with client := w.client.withKey key }.payInvoice
            request = w.payInvoice request := by
        unfold Lnbits.payInvoice
        rw [Client.receive_withKey]
        rfl
      simp only [Operation.answers, Operation.dialogue,
        payInvoice, Dialogue.map_map, hPay]
      rfl
  | _ => rfl

/- A wallet at ZBD talks as another one with another key. -/
theorem zbd_answers
    (w : Zbd)
    (key : String)
    (o : Operation) :
    o.answers (.zbd { w with client := w.client.withKey key }) =
      o.answers (.zbd w) := by
  cases o with
  | createInvoice random r =>
      have hCreate :
          { w with client := w.client.withKey key }.createInvoice
            r = w.createInvoice r := by
        unfold Zbd.createInvoice
        rw [Client.receive_withKey]
      simp only [Operation.answers, Operation.dialogue,
        createInvoice, Dialogue.map_map, hCreate]
      rfl
  | payInvoice random request =>
      have hPay :
          { w with client := w.client.withKey key }.payInvoice
            request = w.payInvoice request := by
        unfold Zbd.payInvoice
        rw [Client.receive_withKey]
      simp only [Operation.answers, Operation.dialogue,
        payInvoice, Dialogue.map_map, hPay]
      rfl
  | _ => rfl

/-
  Where no key stands in addresses, alike wallets have the same
  dialogues, and their clients differ in the key.
-/
theorem Alike.exists_key
    {w v : Wallet}
    {c : Client}
    (hAlike : Alike w v)
    (hHidden : w.hasKeyInAddress = false)
    (hClient : w.client? = some c) :
    ∃ key, v.client? = some (c.withKey key) ∧
      ∀ o : Operation, o.answers v = o.answers w := by
  cases hAlike with
  | lnbits w key =>
      cases hClient
      exact ⟨key, rfl, lnbits_answers w key⟩
  | zbd w key =>
      cases hClient
      exact ⟨key, rfl, zbd_answers w key⟩
  | lnpay w key walletKey => cases hHidden

/-
  If failures are told in full, then two outcomes of one kind
  are told alike only if they are the same.
-/
theorem read_eq_iff
    (read : Outcome → Answer)
    (tell : String → Answer)
    (endpoint : String)
    (hTell : ∀ m n, tell m = tell n → m = n)
    (hRead :
      ∀ f, read (.failed f) =
        tell (GatewayError.transport endpoint f.message).message)
    {p q : Outcome}
    (hKind : p.SameKind q) :
    read p = read q ↔ p = q := by
  cases hKind with
  | reply r => exact iff_of_true rfl rfl
  | closed => exact iff_of_true rfl rfl
  | @failed f g hFault =>
      constructor
      · intro hSame
        rw [hRead, hRead] at hSame
        have hMessage := hTell _ _ hSame
        unfold GatewayError.message at hMessage
        have hCause := (String.append_right_inj _).mp hMessage
        rw [hFault.eq_of_message hCause]
      · intro hSame
        rw [hSame]

/-
  A wallet at LNPay makes one call, whose address depends on the
  key of the wallet; it tells failures in full, except those of
  lookups.
-/
theorem lnpay_answers
    (w : Lnpay)
    (key walletKey : String)
    {o : Operation}
    (hOpen : o ≠ .close) :
    ∃ call other read,
      o.answers (.lnpay w) = .once call read ∧
      o.answers
          (.lnpay { w with
            client := w.client.withKey key
            walletKey := walletKey }) =
        .once other read ∧
      ∀ p q, p.SameKind q →
        (read p = read q ↔ (o.reports = true → p = q)) := by
  have hFull :
      ∀ {same full : Prop}, (same ↔ full) →
        (same ↔ (true = true → full)) :=
    fun hIff => hIff.trans ⟨fun hFull _ => hFull, fun h => h rfl⟩
  cases o with
  | balance =>
      let read : Outcome → Answer := fun o =>
        .balance (.ofExcept
          ((w.client.receive o).bind Lnpay.readBalance))
      refine ⟨_, _, read, rfl, rfl, ?_⟩
      intro p q hKind
      refine hFull (read_eq_iff read (fun m => .balance (.failed m))
        w.client.endpoint ?_ (fun f => rfl) hKind)
      simp [BalanceAnswer.failed]
  | createInvoice random r =>
      let read : Outcome → Answer := fun o =>
        .invoice (.ofExcept
          ((w.client.receive o).bind Lnpay.readInvoice))
      refine ⟨_, _, read, rfl, rfl, ?_⟩
      intro p q hKind
      refine hFull (read_eq_iff read (fun m => .invoice (.failed m))
        w.client.endpoint ?_ (fun f => rfl) hKind)
      simp
  | payInvoice random request =>
      let read : Outcome → Answer := fun o =>
        .payment (.ofExcept
          ((w.client.receive o).bind Lnpay.readPayment))
      refine ⟨_, _, read, rfl, rfl, ?_⟩
      intro p q hKind
      refine hFull (read_eq_iff read (fun m => .payment (.failed m))
        w.client.endpoint ?_ (fun f => rfl) hKind)
      simp
  | invoiceStatus id =>
      refine ⟨_, _, _, rfl, rfl, ?_⟩
      intro p q hKind
      refine iff_of_true ?_ (fun hNot => nomatch hNot)
      cases hKind <;> rfl
  | paymentStatus id =>
      refine ⟨_, _, _, rfl, rfl, ?_⟩
      intro p q hKind
      refine iff_of_true ?_ (fun hNot => nomatch hNot)
      cases hKind <;> rfl
  | close => exact absurd rfl hOpen

/- An operation ends with its answer and the wallet after it. -/
theorem ends_dialogue
    {w next : Wallet}
    {c : Client}
    {o : Operation}
    {outcomes : List Outcome}
    {a : Answer}
    (hClient : w.client? = some c)
    (hEnds :
      Dialogue.Ends c (o.dialogue w) outcomes (a, next)) :
    Dialogue.Ends c (o.answers w) outcomes a ∧
      next = o.after w := by
  have hProvider : w.client?.isSome = true := by rw [hClient]; rfl
  rw [dialogue_eq hProvider] at hEnds
  rcases Dialogue.ends_map_iff.mp hEnds with ⟨b, hAnswer, hPair⟩
  cases hPair
  exact ⟨hAnswer, rfl⟩

/-
  Outcomes of one kind have alike wallets answer the same, unless
  a failure that is told names another address; that happens only
  where a key stands in the address.
-/
theorem Alike.answer_eq_iff
    {w v : Wallet}
    {c other : Client}
    {o : Operation}
    {os ps : List Outcome}
    {a b : Answer}
    (hAlike : Alike w v)
    (hClient : w.client? = some c)
    (hOther : v.client? = some other)
    (hEnds : Dialogue.Ends c (o.answers w) os a)
    (hEndsOther : Dialogue.Ends other (o.answers v) ps b)
    (hKind : List.Forall₂ Outcome.SameKind os ps) :
    (a = b ↔ (o.reports = true → os = ps)) ∧
      (w.hasKeyInAddress = false → os = ps) := by
  cases hHidden : w.hasKeyInAddress with
  | false =>
      rcases hAlike.exists_key hHidden hClient with
        ⟨key, hKeyed, hSame⟩
      rw [hKeyed] at hOther
      cases hOther
      rw [hSame] at hEndsOther
      rcases hEnds.eq_of_sameKind hEndsOther hKind with
        ⟨hOutcomes, hAnswers⟩
      exact ⟨iff_of_true hAnswers fun _ => hOutcomes,
        fun _ => hOutcomes⟩
  | true =>
      refine ⟨?_, fun hNone => nomatch hNone⟩
      cases hAlike with
      | lnbits w key => cases hHidden
      | zbd w key => cases hHidden
      | lnpay w key walletKey =>
          by_cases hClose : o = .close
          · subst hClose
            cases hEnds
            cases hEndsOther
            exact iff_of_true rfl fun _ => rfl
          · rcases lnpay_answers w key walletKey hClose with
              ⟨call, elsewhere, read, hCall, hElsewhere, hRead⟩
            rw [hCall] at hEnds
            rw [hElsewhere] at hEndsOther
            cases hEnds with
            | @ask _ _ p _ _ hMeets hDone =>
                cases hEndsOther with
                | @ask _ _ q _ _ hMeetsOther hDoneOther =>
                    cases hDone
                    cases hDoneOther
                    cases hKind with
                    | cons hFirst hRest =>
                        rw [hRead p q hFirst]
                        simp only [List.cons.injEq, and_true]

/-
  Sessions of alike wallets whose calls have outcomes of one kind
  answer the same, unless a failure that is told names another
  address.
-/
theorem Alike.answers_eq_iff
    {w v : Wallet}
    {xs ys : List (Operation × List Outcome)}
    {as bs : List Answer}
    (hAlike : Alike w v)
    (hSession : Session w xs as)
    (hOther : Session v ys bs)
    (hSteps : SameSteps xs ys) :
    (as = bs ↔ reported xs = reported ys) ∧
      (w.hasKeyInAddress = false → as = bs) := by
  induction hSession generalizing v ys bs with
  | nil w =>
      cases hSteps
      cases hOther
      exact ⟨iff_of_true rfl rfl, fun _ => rfl⟩
  | @cons w next c o os a xs as hClient hEnds hRest ih =>
      cases hSteps with
      | @cons _ step _ ys hStep hMore =>
          rcases step with ⟨o', ps⟩
          rcases hStep with ⟨hSame, hKind⟩
          cases hSame
          cases hOther with
          | @cons _ _ other _ _ b _ bs hClientOther hEndsOther
              hRestOther =>
              rcases ends_dialogue hClient hEnds with
                ⟨hAnswer, rfl⟩
              rcases ends_dialogue hClientOther hEndsOther with
                ⟨hAnswerOther, rfl⟩
              rcases hAlike.answer_eq_iff hClient hClientOther
                hAnswer hAnswerOther hKind with ⟨hHead, hHidden⟩
              rcases ih (hAlike.after o) hRestOther hMore with
                ⟨hTail, hHiddenRest⟩
              constructor
              · rw [List.cons.injEq, hHead, hTail]
                cases hReports : o.reports <;>
                  simp [reported, hReports]
              · intro hNone
                have hNext :
                    (o.after w).hasKeyInAddress = false := by
                  rw [← hNone]
                  cases o with
                  | close => cases w <;> rfl
                  | _ => rfl
                rw [hHead.mpr fun _ => hHidden hNone,
                  hHiddenRest hNext]

/-
  The balance that alike wallets tell after outcomes of one kind:
  the outcomes are the same, or both tell of a failure.
-/
theorem Alike.balance_eq_or_failed
    {w v : Wallet}
    {c other : Client}
    {os ps : List Outcome}
    {a b : BalanceAnswer}
    (hAlike : Alike w v)
    (hClient : w.client? = some c)
    (hOther : v.client? = some other)
    (hEnds : Dialogue.Ends c w.balance os a)
    (hEndsOther : Dialogue.Ends other v.balance ps b)
    (hKind : List.Forall₂ Outcome.SameKind os ps) :
    os = ps ∨ ∃ m n, a = .failed m ∧ b = .failed n := by
  cases hAlike with
  | lnbits w key =>
      cases hClient
      cases hOther
      exact .inl (hEnds.eq_of_sameKind hEndsOther hKind).1
  | zbd w key =>
      cases hClient
      cases hOther
      exact .inl (hEnds.eq_of_sameKind hEndsOther hKind).1
  | lnpay w key walletKey =>
      cases hEnds with
      | ask hMeets hDone =>
          cases hEndsOther with
          | ask hMeetsOther hDoneOther =>
              cases hDone
              cases hDoneOther
              cases hKind with
              | cons hFirst hRest =>
                  cases hRest
                  cases hFirst with
                  | reply r => exact .inl rfl
                  | closed => exact .inl rfl
                  | failed hFault =>
                      exact .inr ⟨_, _, rfl, rfl⟩

/- Alike wallets have one name. -/
theorem Alike.name_eq
    {w v : Wallet}
    (hAlike : Alike w v) :
    w.name = v.name := by
  cases hAlike <;> rfl

end Wallet

end LightningGateway
