import LightningGateway.Proofs.Backend.Lookup
import LightningGateway.Proofs.Backend.Paying

/-
  Payments that LNbits has accepted.

  A payment that LNbits has accepted has been sent.  The lookup
  that follows can add a fee and a preimage to what the wallet
  reports; nothing that becomes of it makes the payment a
  failure.

  Key definitions include:
    * `Wallet.KnownOn`

  Main results:
    * `Wallet.payInvoice_of_accepts`
    * `Wallet.accepted_payment_kept`
-/

namespace LightningGateway

open Backend Payment Provider

namespace Wallet

------------------------------------------------------------
-- Terms of Accepted Payments
------------------------------------------------------------

/-
  The terms on which an accepted payment is known after the
  outcome of its lookup: those of a lookup that says that it is
  paid and has details, and none after all others.
-/
inductive KnownOn
    (w : Wallet)
    (o : Outcome) : Option Msat → Option String → Prop
  | shown
      {fee : Option Msat}
      {preimage : Option String}
      (hShows : w.Shows .payment o (.success fee preimage)) :
      KnownOn w o fee preimage
  | unknown
      (hSilent : ∀ s, ¬w.Shows .payment o s) :
      KnownOn w o none none

/- LNbits shows no payment to have failed. -/
theorem eq_success_of_shows
    {v : Lnbits}
    {o : Outcome}
    {s : SettlementStatus}
    (hShows : (lnbits v).Shows .payment o s) :
    ∃ fee preimage, s = .success fee preimage := by
  rcases hShows with ⟨r, t, _, _, _, hTells⟩
  cases hTells with
  | success _ => exact ⟨_, _, rfl⟩
  | failed hSays => cases hSays

/- What a lookup gives that shows how a payment has ended. -/
theorem resultOf?_of_shows
    {v : Lnbits}
    {o : Outcome}
    {s : SettlementStatus}
    (hShows : (lnbits v).Shows .payment o s)
    (id : String) :
    ((lnbits v).lookUp .payment id).resultOf? [o] = some s := by
  rw [resultOf?_lookUp rfl, (shows_iff.mp hShows).1,
    Option.getD_some]

/- A lookup knows a payment on the terms of what it gives. -/
theorem knownOn_of_resultOf?
    {v : Lnbits}
    {o : Outcome}
    {id : String}
    {s : SettlementStatus}
    (hResult :
      ((lnbits v).lookUp .payment id).resultOf? [o] = some s) :
    (lnbits v).KnownOn o s.fee? s.preimage? := by
  rw [resultOf?_lookUp rfl, Option.some_inj] at hResult
  rcases getD_pending_iff.mp hResult with
    hReport | ⟨rfl, hSilent⟩
  · have hShows := shows_iff.mpr hReport
    rcases eq_success_of_shows hShows with ⟨fee, preimage, rfl⟩
    exact .shown hShows
  · exact .unknown fun t => mt shows_iff.mp (hSilent t)

------------------------------------------------------------
-- Accepted Payments
------------------------------------------------------------

/-
  After LNbits has accepted a payment, all that is left to do is
  to look it up.
-/
theorem payInvoice_of_accepts
    {r : Reply}
    {hash : String}
    (v : Lnbits)
    (random : List UInt8)
    (paymentRequest : String)
    (hAccepts : Lnbits.Accepts r hash) :
    ∃ next,
      (lnbits v).payInvoice random paymentRequest =
          .ask ((lnbits v).paymentCall paymentRequest) next ∧
        next (.reply r) =
          ((lnbits v).lookUp .payment hash).map fun s =>
            (Lnbits.sentOn hash s, lnbits v) := by
  have hSent : Lnbits.readSent r = .ok (.accepted hash) :=
    Lnbits.readSent_eq_ok_iff.mpr
      ⟨hAccepts.usable, hAccepts.exists_tree⟩
  refine ⟨_, rfl, ?_⟩
  simp only [Client.receive, Except.bind, hSent,
    Lnbits.afterSent, Dialogue.map_map]
  rfl

/- What is reported of an accepted payment after its lookup. -/
theorem resultOf?_of_accepts
    {r : Reply}
    {hash : String}
    (v : Lnbits)
    (random : List UInt8)
    (paymentRequest : String)
    (hAccepts : Lnbits.Accepts r hash)
    (o : Outcome) :
    ((lnbits v).payInvoice random paymentRequest).resultOf?
        [.reply r, o] =
      (((lnbits v).lookUp .payment hash).resultOf? [o]).map
        fun s => (Lnbits.sentOn hash s, lnbits v) := by
  rcases payInvoice_of_accepts v random paymentRequest hAccepts
    with ⟨next, hAsk, hNext⟩
  rw [hAsk, Dialogue.resultOf?, hNext, Dialogue.resultOf?_map]

/-
  A payment that was accepted is reported, even by an instance
  that is silent about it ever after.
-/
theorem exists_outcome_of_accepts
    {v : Lnbits}
    {r : Reply}
    {hash paymentRequest : String}
    {later : List Behaviour}
    (random : List UInt8)
    (hAccepts : Lnbits.Accepts r hash)
    (hReaches :
      (lnbits v).Reaches (lnbits v).paymentPath
        ⟨true, .answers r :: later⟩) :
    ∃ o,
      ((lnbits v).run
          ((lnbits v).payInvoice random paymentRequest)
          ⟨true, .answers r :: later⟩).result =
        ((lnbits v).payInvoice random paymentRequest).resultOf?
          [.reply r, o] := by
  rcases hReaches.exists_target with
    ⟨c, u, hClient, hOpen, hTarget⟩
  cases hClient
  rcases payInvoice_of_accepts v random paymentRequest hAccepts
    with ⟨next, hAsk, hNext⟩
  have hRequest :
      ∃ q, v.client.request
        ((lnbits v).paymentCall paymentRequest) = .ok q :=
    ⟨_, by rw [Client.request, paymentCall, hTarget]⟩
  rcases hRequest with ⟨⟨q, url⟩, hRequest⟩
  rcases Dialogue.exists_outcome v.client
      (Lnbits.lookupCall hash)
      (fun o =>
        (Lnbits.sentOn hash
          (v.statusOf Lnbits.Lookup.paymentStatus o), lnbits v))
      rfl ⟨true, later⟩ with
    ⟨o, hEnd⟩
  refine ⟨o, ?_⟩
  change (Dialogue.run v.client _ _).result = _
  rw [hAsk, Dialogue.result_run_ask hOpen hRequest rfl,
    Dialogue.resultOf?, hNext]
  exact hEnd

/-
  For every payment that LNbits has accepted under a hash, by a
  reply that is no error: one lookup of that hash is all that
  follows, and however it ends, the payment is reported as sent
  under the hash, on the terms on which it is known then, with
  no fee for a fee that is not known.

  Where the lookup has shown the payment, every later lookup
  that ends alike reports the same fee and preimage; and a run
  that has got to the acceptance always goes on to a report.
-/
theorem accepted_payment_kept
    (v : Lnbits)
    (random : List UInt8)
    (paymentRequest : String)
    (r : Reply)
    (hash : String)
    (hAccepts : Lnbits.Accepts r hash) :
    (∀ o,
      ((lnbits v).payInvoice random paymentRequest).callsOf
          [.reply r, o] =
        [(lnbits v).paymentCall paymentRequest,
          Lnbits.lookupCall hash]) ∧
    (∀ o, ∃ fee preimage,
      (lnbits v).KnownOn o fee preimage ∧
        ((lnbits v).payInvoice random paymentRequest).resultOf?
            [.reply r, o] =
          some (.success hash (fee.getD .zero) preimage,
            lnbits v)) ∧
    (∀ o fee preimage,
      (lnbits v).Shows .payment o (.success fee preimage) →
      ((lnbits v).payInvoice random paymentRequest).resultOf?
            [.reply r, o] =
          some (.success hash (fee.getD .zero) preimage,
            lnbits v) ∧
        ((lnbits v).lookUp .payment hash).resultOf? [o] =
          some (.success fee preimage)) ∧
    (∀ later,
      (lnbits v).Reaches (lnbits v).paymentPath
        ⟨true, .answers r :: later⟩ →
      ∃ o fee preimage,
        (lnbits v).KnownOn o fee preimage ∧
          ((lnbits v).run
              ((lnbits v).payInvoice random paymentRequest)
              ⟨true, .answers r :: later⟩).result =
            some (.success hash (fee.getD .zero) preimage,
              lnbits v)) := by
  have hKept :
      ∀ o, ∃ fee preimage,
        (lnbits v).KnownOn o fee preimage ∧
          ((lnbits v).payInvoice random
              paymentRequest).resultOf? [.reply r, o] =
            some (.success hash (fee.getD .zero) preimage,
              lnbits v) := by
    intro o
    have hLookUp :=
      resultOf?_lookUp (w := lnbits v) rfl .payment hash o []
    refine ⟨_, _, knownOn_of_resultOf? hLookUp, ?_⟩
    rw [resultOf?_of_accepts v random paymentRequest hAccepts,
      hLookUp]
    rfl
  refine ⟨?_, hKept, ?_, ?_⟩
  · intro o
    rcases payInvoice_of_accepts v random paymentRequest hAccepts
      with ⟨next, hAsk, hNext⟩
    rw [hAsk, Dialogue.callsOf, hNext]
    rfl
  · intro o fee preimage hShows
    have hLookUp := resultOf?_of_shows hShows hash
    rw [resultOf?_of_accepts v random paymentRequest hAccepts,
      hLookUp]
    exact ⟨rfl, rfl⟩
  · intro later hReaches
    rcases exists_outcome_of_accepts random hAccepts hReaches
      with ⟨o, hRun⟩
    rcases hKept o with ⟨fee, preimage, hKnown, hResult⟩
    exact ⟨o, fee, preimage, hKnown, hRun.trans hResult⟩

/- A reply that accepts a payment. -/
def acceptance : Reply :=
  ⟨201, "\x7b\"payment_hash\":\"aa\"\x7d"⟩

/- A lookup that says what an accepted payment has cost. -/
def feeShown : Outcome :=
  .reply ⟨200, "\x7b\"paid\":true,\"preimage\":\"bb\"," ++
    "\"details\":\x7b\"fee\":-21\x7d\x7d"⟩

/- The fee that it says. -/
def shownFee : Msat :=
  ⟨-21, by decide, by decide⟩

/- A wallet that is closed meanwhile reports the payment too. -/
theorem accepted_payment_kept_of_closed :
    Lnbits.Accepts acceptance "aa" ∧
      (till.payInvoice [] "lnbc").resultOf?
          [.reply acceptance, .closed] =
        some (.success "aa" .zero none, till) ∧
      (till.payInvoice [] "lnbc").resultOf?
          [.reply acceptance, feeShown] =
        some (.success "aa" shownFee (some "bb"), till) ∧
      (till.lookUp .payment "aa").resultOf? [feeShown] =
        some (.success (some shownFee) (some "bb")) := by
  have hHash :
      (Json.Tree.parse? acceptance.body).bind Lnbits.sentHash? =
        some (some "aa") := by
    decide +kernel
  have hAccepts : Lnbits.Accepts acceptance "aa" :=
    ⟨by decide, Option.bind_eq_some_iff.mp hHash⟩
  have hShows :
      till.Shows .payment feeShown
        (.success (some shownFee) (some "bb")) := by
    refine shows_iff.mpr ⟨?_, nofun⟩
    decide +kernel
  rcases accepted_payment_kept ⟨counter, 5, 8⟩ [] "lnbc"
      acceptance "aa" hAccepts with
    ⟨_, hKept, hShown, _⟩
  rcases hKept .closed with ⟨fee, preimage, hKnown, hResult⟩
  refine ⟨hAccepts, ?_, hShown feeShown _ _ hShows⟩
  cases hKnown with
  | shown hClosed => cases (shows_iff.mp hClosed).1
  | unknown hSilent => exact hResult

end Wallet

end LightningGateway
