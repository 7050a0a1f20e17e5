import LightningGateway.Host.Opening
import LightningGateway.Proofs.Backend.Secrecy

/-
  What the log of the start tells about credentials.

  Two hosts are compared whose settings differ in the values of
  credentials only, and whose providers behave alike.  All lines
  of their logs are the same but those that name an address: the
  lines about the balance query, whatever its outcome, and the
  line about a wallet that is not ready.

  Key definitions include:
    * `Host.Starts`
    * `Wallet.balanceAddress?`

  Main results:
    * `Host.log_eq_iff`
    * `Host.opening_eq_iff`
    * `Wallet.credentials_hidden_iff`
-/

namespace LightningGateway

open Backend Payment Provider Settings

------------------------------------------------------------
-- Records about Requests
------------------------------------------------------------

namespace Provider

/- A record of a request that is made names its address. -/
theorem startRecord_inj
    {method u v : String}
    (hSame : startRecord method u = startRecord method v) :
    u = v := by
  have hText := congrArg LogRecord.message hSame
  exact (String.append_right_inj _).mp hText

/- The records about a call name the address that it goes to. -/
theorem Client.loggedAddress?_eq_of_records
    {c k : Client}
    {W : Wording}
    {call other : Call}
    {o p : Option Outcome}
    (hMethod : call.action.method = other.action.method)
    (hSame : c.records W call o = k.records W other p) :
    c.loggedAddress? call.path = k.loggedAddress? other.path := by
  unfold records at hSame
  cases hFirst : c.loggedAddress? call.path with
  | none =>
      cases hSecond : k.loggedAddress? other.path with
      | none => rfl
      | some v =>
          rw [hFirst, hSecond] at hSame
          cases hSame
  | some u =>
      cases hSecond : k.loggedAddress? other.path with
      | none =>
          rw [hFirst, hSecond] at hSame
          cases hSame
      | some v =>
          rw [hFirst, hSecond, hMethod] at hSame
          rw [startRecord_inj (List.cons.inj hSame).1]

/- What is logged about a call depends on its address otherwise. -/
theorem Client.records_congr
    {c k : Client}
    {W : Wording}
    {call other : Call}
    (hMethod : call.action.method = other.action.method)
    (hAddress :
      c.loggedAddress? call.path = k.loggedAddress? other.path)
    (o : Option Outcome) :
    c.records W call o = k.records W other o := by
  unfold records
  rw [hAddress, hMethod]

/- All records about a call are those of the client. -/
theorem Client.target_of_mem_records
    {c : Client}
    {W : Wording}
    {call : Call}
    {o : Option Outcome}
    {r : LogRecord}
    (hMem : r ∈ c.records W call o) :
    r.target = "funding::wallets::client" := by
  unfold records at hMem
  split at hMem
  · cases hMem
  · rcases List.mem_cons.mp hMem with rfl | hEnd
    · rfl
    · rcases Option.bind_eq_some_iff.mp
          (Option.mem_toList.mp hEnd) with
        ⟨outcome, -, hRecord⟩
      unfold endRecord? at hRecord
      split at hRecord <;> cases hRecord <;> rfl

/- So are all records about a dialogue. -/
theorem Dialogue.target_of_mem_records
    {α : Type}
    {c : Client}
    {W : Wording}
    {d : Dialogue α}
    {os : List Outcome}
    {r : LogRecord}
    (hMem : r ∈ d.records c W os) :
    r.target = "funding::wallets::client" := by
  induction d generalizing os with
  | done a => cases hMem
  | ask call next ih =>
      cases os with
      | nil => exact Client.target_of_mem_records hMem
      | cons o rest =>
          rcases List.mem_append.mp hMem with hFirst | hLater
          · exact Client.target_of_mem_records hFirst
          · exact ih o hLater

end Provider

namespace Wallet

/- The address that is logged for the balance query of a wallet. -/
def balanceAddress? (w : Wallet) : Option String :=
  match w.client?, w.balance with
  | some c, .ask call _ => c.loggedAddress? call.path
  | _, _ => none

/- A wallet with a provider asks for its balance with one call. -/
theorem exists_balance_eq
    {w : Wallet}
    {c : Client}
    (hClient : w.client? = some c) :
    ∃ call read, w.balance = .once call read ∧
      call.action.method = "GET" ∧
      w.balanceAddress? = c.loggedAddress? call.path := by
  cases w with
  | memory l => cases hClient
  | _ =>
      cases hClient
      exact ⟨_, _, rfl, rfl, rfl⟩

/- Alike wallets are at one address. -/
theorem Alike.readyRecord?_eq
    {w v : Wallet}
    (hAlike : Alike w v) :
    v.readyRecord? = w.readyRecord? := by
  cases hAlike <;> rfl

/- Where no key stands in addresses, they have one query. -/
theorem Alike.balanceAddress?_eq
    {w v : Wallet}
    (hAlike : Alike w v)
    (hHidden : w.hasKeyInAddress = false) :
    w.balanceAddress? = v.balanceAddress? := by
  cases hAlike with
  | lnbits w key => rfl
  | zbd w key => rfl
  | lnpay w key walletKey => cases hHidden

/-
  The records about balance queries that have one outcome are the
  same exactly if the queries go to one address.
-/
theorem balanceRecords_eq_iff
    {w v : Wallet}
    {c k : Client}
    {os : List Outcome}
    {a b : BalanceAnswer}
    (W : Wording)
    (hClient : w.client? = some c)
    (hOther : v.client? = some k)
    (hEnds : Dialogue.Ends c w.balance os a)
    (hEndsOther : Dialogue.Ends k v.balance os b) :
    w.balanceRecords W os = v.balanceRecords W os ↔
      w.balanceAddress? = v.balanceAddress? := by
  rcases exists_balance_eq hClient with
    ⟨call, read, hCall, hGet, hAddress⟩
  rcases exists_balance_eq hOther with
    ⟨other, readOther, hCallOther, hGetOther, hAddressOther⟩
  have hMethod := hGet.trans hGetOther.symm
  unfold balanceRecords
  rw [hClient, hOther, hCall, hCallOther, hAddress, hAddressOther]
  rw [hCall] at hEnds
  cases hEnds with
  | ask hMeets hDone =>
      cases hDone
      simp only [Dialogue.once, Dialogue.records, List.append_nil]
      exact ⟨Client.loggedAddress?_eq_of_records hMethod,
        fun hSame => Client.records_congr hMethod hSame _⟩

end Wallet

------------------------------------------------------------
-- The Host's Own Lines
------------------------------------------------------------

namespace Host

open Wallet

/- How a host starts: its wallet is asked for the balance. -/
def Starts
    (s : Settings)
    (outcomes : List Outcome)
    (h : Host) : Prop :=
  ∃ w c d, Wallet.build s = .ok w ∧ w.client? = some c ∧
    build s = .ok d ∧ Dialogue.Ends c d outcomes h

/- A host starts with the balance that its wallet tells. -/
theorem starts_iff
    {s : Settings}
    {outcomes : List Outcome}
    {h : Host} :
    Starts s outcomes h ↔
      ∃ w c a, Wallet.build s = .ok w ∧ w.client? = some c ∧
        Dialogue.Ends c w.balance outcomes a ∧
        h = ofWallet s w a := by
  constructor
  · rintro ⟨w, c, d, hWallet, hClient, hHost, hEnds⟩
    rw [build, hWallet] at hHost
    rw [← Except.ok.inj hHost] at hEnds
    rcases Dialogue.ends_map_iff.mp hEnds with ⟨a, hBalance, rfl⟩
    exact ⟨w, c, a, hWallet, hClient, hBalance, rfl⟩
  · rintro ⟨w, c, a, hWallet, hClient, hBalance, rfl⟩
    refine ⟨w, c, w.balance.map (ofWallet s w), hWallet, hClient,
      ?_, Dialogue.ends_map_iff.mpr ⟨a, hBalance, rfl⟩⟩
    rw [build, hWallet]
    rfl

/- The line about a wallet that is not ready tells why. -/
theorem balanceLine_failed_inj
    {w : Wallet}
    {m n : String}
    (hSame :
      balanceLine w (.failed m) = balanceLine w (.failed n)) :
    m = n := by
  unfold balanceLine BalanceAnswer.failed at hSame
  have hText := congrArg LogLine.text hSame
  exact (String.append_right_inj _).mp hText

/- The source of wallets is no credential. -/
theorem sourceLine_eq
    {s t : Settings}
    (hSame : s.SameButKeys t) :
    sourceLine t = sourceLine s := by
  rw [sourceLine, sourceLine, hSame.funding_eq.1]

/- Logs that a host starts with differ in the last line only. -/
theorem ofWallet_log_eq_iff
    {s t : Settings}
    {w v : Wallet}
    {a b : BalanceAnswer}
    (hSame : s.SameButKeys t) :
    (ofWallet s w a).log = (ofWallet t v b).log ↔
      balanceLine w a = balanceLine v b := by
  simp only [ofWallet, sourceLine_eq hSame, List.cons.injEq,
    true_and, and_true]

/-
  Hosts whose settings differ in credentials only, and whose
  calls have outcomes of one kind, write the same log, unless the
  failure that is logged names another address.
-/
theorem log_eq_iff
    {s t : Settings}
    {os ps : List Outcome}
    {g h : Host}
    (hSame : s.SameButKeys t)
    (hProvider : s.funding.source ≠ .fake)
    (hStarts : Starts s os g)
    (hOther : Starts t ps h)
    (hKind : List.Forall₂ Outcome.SameKind os ps) :
    (g.log = h.log ↔ os = ps) ∧
      (s.funding.source ≠ .lnpay → g.log = h.log) := by
  rcases starts_iff.mp hStarts with
    ⟨w, c, a, hWallet, hClient, hEnds, rfl⟩
  rcases starts_iff.mp hOther with
    ⟨v, k, b, hWalletOther, hClientOther, hEndsOther, rfl⟩
  rcases alike_of_build hSame hProvider hWallet hWalletOther with
    ⟨hAlike, hKeyed⟩
  have hLine : balanceLine v b = balanceLine w b := by
    rw [balanceLine, balanceLine, hAlike.name_eq]
  have hLogs := ofWallet_log_eq_iff (w := w) (v := v) (a := a)
    (b := b) hSame
  have hAnswer :
      Dialogue.Ends c (Operation.balance.answers w) os
        (.balance a) :=
    Dialogue.ends_map_iff.mpr
      ⟨_, Dialogue.ends_map_iff.mpr ⟨a, hEnds, rfl⟩, rfl⟩
  have hAnswerOther :
      Dialogue.Ends k (Operation.balance.answers v) ps
        (.balance b) :=
    Dialogue.ends_map_iff.mpr
      ⟨_, Dialogue.ends_map_iff.mpr ⟨b, hEndsOther, rfl⟩, rfl⟩
  rcases hAlike.answer_eq_iff hClient hClientOther hAnswer
    hAnswerOther hKind with ⟨hAnswers, hHidden⟩
  have hSameLog (hOutcomes : os = ps) :
      (ofWallet s w a).log = (ofWallet t v b).log := by
    cases hAnswers.mpr fun _ => hOutcomes
    exact hLogs.mpr hLine.symm
  refine ⟨⟨?_, hSameLog⟩, ?_⟩
  · intro hEqual
    rcases hAlike.balance_eq_or_failed hClient hClientOther hEnds
      hEndsOther hKind with hOutcomes | ⟨m, n, rfl, rfl⟩
    · exact hOutcomes
    · cases balanceLine_failed_inj
        ((hLogs.mp hEqual).trans hLine)
      exact hAnswers.mp rfl rfl
  · intro hNot
    exact hSameLog (hHidden (eq_false_of_ne_true
      fun hKey => hNot (hKeyed hKey)))

------------------------------------------------------------
-- The Whole Log
------------------------------------------------------------

/- All that a host that starts has logged. -/
theorem opening_eq
    {s : Settings}
    {w : Wallet}
    {c : Client}
    {os : List Outcome}
    {a : BalanceAnswer}
    (W : Wording)
    (hWallet : Wallet.build s = .ok w)
    (hEnds : Dialogue.Ends c w.balance os a) :
    opening W s os =
      ownRecord (sourceLine s) ::
        (w.readyRecord?.toList ++ w.balanceRecords W os ++
          [ownRecord (balanceLine w a)]) := by
  unfold opening
  simp only [hWallet, hEnds.resultOf?_eq, Option.map_some,
    Option.toList_some]

/- The log of a host is what is logged in its own name. -/
theorem own_of_opening
    {s : Settings}
    {os : List Outcome}
    {h : Host}
    (W : Wording)
    (hStarts : Starts s os h) :
    (opening W s os).filter (·.target == "funding::startup") =
      h.log.map ownRecord := by
  rcases starts_iff.mp hStarts with
    ⟨w, c, a, hWallet, hClient, hEnds, rfl⟩
  have hReady :
      w.readyRecord?.toList.filter
        (·.target == "funding::startup") = [] := by
    rw [readyRecord?, hClient]
    cases w <;> rfl
  have hQuery :
      (w.balanceRecords W os).filter
        (·.target == "funding::startup") = [] := by
    rw [balanceRecords, hClient, List.filter_eq_nil_iff]
    intro r hMem
    rw [Dialogue.target_of_mem_records hMem]
    decide
  rw [opening_eq W hWallet hEnds, List.filter_cons_of_pos (by rfl),
    List.filter_append, List.filter_append, hReady, hQuery,
    List.filter_cons_of_pos (by rfl)]
  rfl

/- A host whose wallet at ZBD is told its balance. -/
example :
    (opening ⟨fun _ => "200 OK", "", fun _ => ""⟩
        { Settings.default with
          funding :=
            { FundingSettings.default with source := .zbd }
          zbd := ⟨some "http://zbd.test/v0/", some "key"⟩ }
        [.reply ⟨200,
          "\x7b\"data\": \x7b\"balance\": \"5\"\x7d\x7d"⟩]).map
        LogRecord.message =
      ["Using zbd funding source",
       "ZBDWallet ready at http://zbd.test/v0",
       "Making GET request to: http://zbd.test/v0/wallet",
       "GET http://zbd.test/v0/wallet -> Status: 200 OK",
       "ZBDWallet balance: 5 msat"] := by
  decide +kernel

/- Lines of the host are told apart in the log. -/
theorem ownRecord_inj
    {l m : LogLine}
    (hSame : ownRecord l = ownRecord m) :
    l = m := by
  cases l
  cases m
  cases hSame
  rfl

/-
  Hosts whose settings differ in credentials only, and whose
  calls have outcomes of one kind, start with the same log,
  unless the failure that is logged names another address, or
  the balance query goes to another address.
-/
theorem opening_eq_iff
    {s t : Settings}
    {os ps : List Outcome}
    {g h : Host}
    (hSame : s.SameButKeys t)
    (hProvider : s.funding.source ≠ .fake)
    (hStarts : Starts s os g)
    (hOther : Starts t ps h)
    (hKind : List.Forall₂ Outcome.SameKind os ps)
    (W : Wording) :
    (opening W s os = opening W t ps ↔
      os = ps ∧
        g.wallet.balanceAddress? = h.wallet.balanceAddress?) ∧
      (s.funding.source ≠ .lnpay →
        opening W s os = opening W t ps) := by
  have hOwn := log_eq_iff hSame hProvider hStarts hOther hKind
  rcases starts_iff.mp hStarts with
    ⟨w, c, a, hWallet, hClient, hEnds, rfl⟩
  rcases starts_iff.mp hOther with
    ⟨v, k, b, hWalletOther, hClientOther, hEndsOther, rfl⟩
  rcases alike_of_build hSame hProvider hWallet hWalletOther with
    ⟨hAlike, hKeyed⟩
  have hLog := ofWallet_log_eq_iff (w := w) (v := v) (a := a)
    (b := b) hSame
  have hOpening :
      opening W s os = opening W t ps ↔
        os = ps ∧ w.balanceAddress? = v.balanceAddress? := by
    rw [opening_eq W hWallet hEnds,
      opening_eq W hWalletOther hEndsOther, sourceLine_eq hSame,
      hAlike.readyRecord?_eq, List.append_assoc, List.append_assoc,
      List.cons.injEq, List.append_cancel_left_eq]
    constructor
    · rintro ⟨-, hRecords⟩
      rcases List.append_inj' hRecords rfl with
        ⟨hQuery, hBalance⟩
      have hLine := ownRecord_inj (List.cons.inj hBalance).1
      have hOutcomes := hOwn.1.mp (hLog.mpr hLine)
      subst hOutcomes
      exact ⟨rfl, (balanceRecords_eq_iff W hClient hClientOther
        hEnds hEndsOther).mp hQuery⟩
    · rintro ⟨rfl, hAddress⟩
      have hLine := hLog.mp (hOwn.1.mpr rfl)
      have hQuery := (balanceRecords_eq_iff W hClient hClientOther
        hEnds hEndsOther).mpr hAddress
      rw [hLine, hQuery]
      exact ⟨rfl, rfl⟩
  refine ⟨hOpening, ?_⟩
  intro hNot
  refine hOpening.mpr ⟨hOwn.1.mp (hOwn.2 hNot), ?_⟩
  exact hAlike.balanceAddress?_eq (eq_false_of_ne_true
    fun hKey => hNot (hKeyed hKey))

end Host

namespace Wallet

/-
  For settings that differ in the values of credentials only, and
  a provider that behaves alike: the operations of the wallets
  answer the same exactly if all the failures that they tell of
  name the same addresses.  The logs at the start are the same
  exactly if in addition the queries for the balance go to the
  same address, as every request is logged with its address,
  however it ends and however its end is worded.  At LNbits and
  at ZBD all is always the same; at LNPay the address has the key
  of the wallet.
-/
theorem credentials_hidden_iff
    {s t : Settings}
    (hSame : s.SameButKeys t)
    (hProvider : s.funding.source ≠ .fake) :
    (∀ w v xs ys as bs,
      Wallet.build s = .ok w → Wallet.build t = .ok v →
      Session w xs as → Session v ys bs → SameSteps xs ys →
      (as = bs ↔ reported xs = reported ys) ∧
        (s.funding.source ≠ .lnpay → as = bs)) ∧
    ∀ os ps g h,
      Host.Starts s os g → Host.Starts t ps h →
      List.Forall₂ Outcome.SameKind os ps →
      ∀ W,
        (Host.opening W s os = Host.opening W t ps ↔
          os = ps ∧
            g.wallet.balanceAddress? =
              h.wallet.balanceAddress?) ∧
        (s.funding.source ≠ .lnpay →
          Host.opening W s os = Host.opening W t ps) := by
  constructor
  · intro w v xs ys as bs hBuilt hOther hSession hSecond hSteps
    rcases alike_of_build hSame hProvider hBuilt hOther with
      ⟨hAlike, hKeyed⟩
    rcases hAlike.answers_eq_iff hSession hSecond hSteps with
      ⟨hAnswers, hHidden⟩
    exact ⟨hAnswers, fun hNot => hHidden (eq_false_of_ne_true
      fun hKey => hNot (hKeyed hKey))⟩
  · intro os ps g h hStarts hOther hKind W
    exact Host.opening_eq_iff hSame hProvider hStarts hOther hKind
      W

/- Settings of a wallet at LNPay, with its key. -/
def withWalletKey (walletKey : String) : Settings :=
  { Settings.default with
    funding := { FundingSettings.default with source := .lnpay }
    lnpay :=
      ⟨some "http://lnpay.test", some "sak", some walletKey,
        none⟩ }

/- The client of such a wallet. -/
def tipClient : Client :=
  ⟨"http://lnpay.test", "x-api-key", "sak", "funding/0.1.0",
    false⟩

/- A wallet at LNPay with its key. -/
def ofWalletKey (walletKey : String) : Wallet :=
  .lnpay ⟨tipClient, walletKey, .ofCapacity 1024⟩

/- Where such a wallet asks for its balance. -/
def balanceAddress (walletKey : String) : String :=
  "http://lnpay.test/wallet/" ++ walletKey

/- What such a wallet tells if nobody answers. -/
def unansweredFor (walletKey : String) : BalanceAnswer :=
  .failed (GatewayError.transport tipClient.endpoint
    (Fault.unanswered (balanceAddress walletKey)).message).message

/- A balance of five satoshis, as LNPay tells it. -/
def tellsBalance : Reply :=
  ⟨200,
    "\x7b\"statusType\": \x7b\"name\": \"active\"\x7d, " ++
      "\"balance\": 5\x7d"⟩

/-
  Whether settings with a key describe the wallet with the key,
  which asks for its balance at the address with the key.
-/
def AsksByKey (walletKey : String) : Prop :=
  Wallet.build (withWalletKey walletKey) =
      .ok (ofWalletKey walletKey) ∧
    (tipClient.request
        ⟨.get, "wallet/" ++ walletKey, some readLimit⟩).map
      Prod.snd = .ok (balanceAddress walletKey)

instance (walletKey : String) : Decidable (AsksByKey walletKey) :=
  inferInstanceAs (Decidable (_ ∧ _))

/- The wallet with the key is built, and asks by its key. -/
theorem AsksByKey.exists_request
    {walletKey : String}
    (hAsks : AsksByKey walletKey) :
    Wallet.build (withWalletKey walletKey) =
        .ok (ofWalletKey walletKey) ∧
      ∃ request,
        tipClient.request
            ⟨.get, "wallet/" ++ walletKey, some readLimit⟩ =
          .ok (request, balanceAddress walletKey) := by
  rcases exists_of_map_eq_ok hAsks.2 with
    ⟨⟨request, url⟩, hRequest, rfl⟩
  exact ⟨hAsks.1, request, hRequest⟩

/- A balance query to which there is no answer. -/
theorem AsksByKey.ends_unanswered
    {walletKey : String}
    (hAsks : AsksByKey walletKey) :
    Dialogue.Ends tipClient (ofWalletKey walletKey).balance
      [.failed (.unanswered (balanceAddress walletKey))]
      (unansweredFor walletKey) := by
  rcases hAsks.exists_request with ⟨-, request, hRequest⟩
  exact .ask (.unanswered rfl hRequest) (.done _)

/- A host that starts with the balance that it is told. -/
theorem AsksByKey.exists_starts
    {walletKey : String}
    (hAsks : AsksByKey walletKey) :
    ∃ h, Host.Starts (withWalletKey walletKey)
        [.reply tellsBalance] h ∧
      h.wallet = ofWalletKey walletKey := by
  rcases hAsks.exists_request with ⟨hBuilt, request, hRequest⟩
  have hEnds :
      Dialogue.Ends tipClient (ofWalletKey walletKey).balance
        [.reply tellsBalance] _ :=
    .ask (.reply _ rfl hRequest) (.done _)
  exact ⟨_, Host.starts_iff.mpr
    ⟨_, tipClient, _, hBuilt, rfl, hEnds, rfl⟩, rfl⟩

/-
  Two hosts that are told the balance of their wallets at LNPay
  themselves log the same, but the logs tell the keys, however
  the end of the query is worded.
-/
theorem credentials_hidden_iff_of_withWalletKey :
    (withWalletKey "waka").SameButKeys (withWalletKey "ours") ∧
      (withWalletKey "waka").funding.source ≠ .fake ∧
      (ofWalletKey "waka").balance.resultOf?
        [.reply tellsBalance] =
          some (.known ⟨5000, by decide, by decide⟩) ∧
      ∃ g h,
        Host.Starts (withWalletKey "waka") [.reply tellsBalance]
          g ∧
        Host.Starts (withWalletKey "ours") [.reply tellsBalance]
          h ∧
        g.log = h.log ∧
        ∀ W,
          Host.opening W (withWalletKey "waka")
              [.reply tellsBalance] ≠
            Host.opening W (withWalletKey "ours")
              [.reply tellsBalance] := by
  have hSame :
      (withWalletKey "waka").SameButKeys
        (withWalletKey "ours") := ⟨rfl, rfl⟩
  have hProvider :
      (withWalletKey "waka").funding.source ≠ .fake := nofun
  have hWaka : AsksByKey "waka" := by decide +kernel
  have hOurs : AsksByKey "ours" := by decide +kernel
  have hAddresses :
      (ofWalletKey "waka").balanceAddress? ≠
        (ofWalletKey "ours").balanceAddress? := by
    decide +kernel
  rcases hWaka.exists_starts with ⟨g, hFirst, hWallet⟩
  rcases hOurs.exists_starts with ⟨h, hSecond, hOther⟩
  have hKind :
      List.Forall₂ Outcome.SameKind [.reply tellsBalance]
        [.reply tellsBalance] :=
    .cons (.reply _) .nil
  have hLogs :=
    (credentials_hidden_iff hSame hProvider).2 _ _ g h hFirst
      hSecond hKind
  refine ⟨hSame, hProvider, by decide +kernel, g, h, hFirst,
    hSecond, ?_, ?_⟩
  · exact (Host.log_eq_iff hSame hProvider hFirst hSecond
      hKind).1.mpr rfl
  · intro W hEqual
    rcases (hLogs W).1.mp hEqual with ⟨-, hAddress⟩
    rw [hWallet, hOther] at hAddress
    exact hAddresses hAddress

/- Answers are not always the same for other credentials. -/
theorem not_all_credentials_hidden :
    ¬∀ (s t : Settings) (w v : Wallet)
        (xs ys : List (Operation × List Outcome))
        (as bs : List Answer),
        s.SameButKeys t → s.funding.source ≠ .fake →
        Wallet.build s = .ok w → Wallet.build t = .ok v →
        Session w xs as → Session v ys bs → SameSteps xs ys →
        as = bs := by
  intro hHidden
  have hSession {walletKey : String}
      (hAsks : AsksByKey walletKey) :
      Session (ofWalletKey walletKey)
        [(.balance,
          [.failed (.unanswered (balanceAddress walletKey))])]
        [.balance (unansweredFor walletKey)] :=
    .cons rfl
      (Dialogue.ends_map_iff.mpr
        ⟨_, hAsks.ends_unanswered, rfl⟩) (.nil _)
  have hWaka : AsksByKey "waka" := by decide +kernel
  have hOurs : AsksByKey "ours" := by decide +kernel
  have hSame :=
    hHidden (withWalletKey "waka") (withWalletKey "ours") _ _ _ _
      _ _ ⟨rfl, rfl⟩ nofun hWaka.exists_request.1
      hOurs.exists_request.1 (hSession hWaka) (hSession hOurs)
      (.cons ⟨rfl, .cons (.failed (.unanswered _ _)) .nil⟩ .nil)
  exact absurd hSame (by decide +kernel)

end Wallet

end LightningGateway
