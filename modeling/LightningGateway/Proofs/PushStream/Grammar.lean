import LightningGateway.Proofs.PushStream.Lines

/-
  Which lines of a push stream name a payment.

  A reader carries from line to line whether the last one
  announced a payment.  What it emits is still a matter of two
  lines that follow each other, wherever they are: the first
  announces a payment, and the second has its data.

  Key definitions include:
    * `Announces`
    * `AnnouncesAt`
    * `paymentAt?`

  Main results:
    * `EventReader.snd_pushLines`
    * `EventReader.emits_announced_payments`
-/

namespace LightningGateway.PushStream

------------------------------------------------------------
-- Pairs of Lines
------------------------------------------------------------

/- A line announces a payment, and the next has its hash. -/
structure Announces
    (line next : List Char)
    (hash : String) : Prop where
  announced :
    ∃ name, line = eventMark ++ name ∧
      Text.trimBlank name = paymentReceived
  named :
    ∃ data, next = dataMark ++ data ∧
      paymentHash? data = some hash

/- A payment is announced by a line and the one after it. -/
def AnnouncesAt
    (lines : List (List Char))
    (i : Nat)
    (hash : String) : Prop :=
  ∃ line next,
    lines[i]? = some line ∧ lines[i + 1]? = some next ∧
      Announces line next hash

/- The payment that a line and the one after it announce. -/
def paymentAt?
    (lines : List (List Char))
    (i : Nat) : Option String := do
  let line ← lines[i]?
  let next ← lines[i + 1]?
  if announces? line = some true then hashOfLine? next else none

/- A line that announces a payment names its event. -/
theorem announces?_eq_true_iff (line : List Char) :
    announces? line = some true ↔
      ∃ name, line = eventMark ++ name ∧
        Text.trimBlank name = paymentReceived := by
  simp only [announces?, Option.map_eq_some_iff,
    Text.after?_eq_some_iff, beq_iff_eq]

/- The hash of a line is the one that its data names. -/
theorem hashOfLine?_eq_some_iff
    (line : List Char)
    (hash : String) :
    hashOfLine? line = some hash ↔
      ∃ data, line = dataMark ++ data ∧
        paymentHash? data = some hash := by
  simp only [hashOfLine?, Option.bind_eq_some_iff,
    Text.after?_eq_some_iff]

/- The payment at a line is the one announced there. -/
theorem paymentAt?_eq_some_iff
    (lines : List (List Char))
    (i : Nat)
    (hash : String) :
    paymentAt? lines i = some hash ↔
      AnnouncesAt lines i hash := by
  simp only [paymentAt?, Option.bind_eq_bind,
    Option.bind_eq_some_iff, Option.ite_none_right_eq_some,
    announces?_eq_true_iff, hashOfLine?_eq_some_iff]
  constructor
  · rintro ⟨line, hLine, next, hNext, hName, hData⟩
    exact ⟨line, next, hLine, hNext, hName, hData⟩
  · rintro ⟨line, next, hLine, hNext, hName, hData⟩
    exact ⟨line, hLine, next, hNext, hName, hData⟩

/- A line that names an event has no data. -/
theorem hashOfLine?_of_announces?
    {line : List Char}
    {b : Bool}
    (hEvent : announces? line = some b) :
    hashOfLine? line = none := by
  rw [announces?, Option.map_eq_some_iff] at hEvent
  rcases hEvent with ⟨name, hAfter, -⟩
  rw [Text.after?_eq_some_iff] at hAfter
  rw [hAfter]
  rfl

namespace EventReader

------------------------------------------------------------
-- Reading Pairs
------------------------------------------------------------

/-
  A line decides anew whether a payment is announced, and is
  asked for a hash if the line before announced one.
-/
theorem pushLine_eq
    (r : EventReader)
    (line : List Char) :
    r.pushLine line =
      ({ r with triggered := announces? line == some true },
        if r.triggered then hashOfLine? line else none) := by
  cases hEvent : announces? line with
  | none =>
      rw [pushLine, hEvent]
      rfl
  | some b =>
      rw [pushLine, hEvent, hashOfLine?_of_announces? hEvent,
        ite_self]
      cases b <;> rfl

/-
  What lines emit: the hash in the first one, if a payment has
  been announced, and the payments that they announce.
-/
theorem snd_pushLines
    (r : EventReader)
    (lines : List (List Char)) :
    (r.pushLines lines).2 =
      (if r.triggered then lines.head?.bind hashOfLine?
        else none).toList ++
        (List.range lines.length).filterMap
          (paymentAt? lines) := by
  induction lines generalizing r with
  | nil => simp [pushLines]
  | cons line rest ih =>
      -- The flag that the line leaves, with the line after it,
      -- is the payment at the line.
      have hFirst :
          (if announces? line == some true then
            rest.head?.bind hashOfLine? else none) =
            paymentAt? (line :: rest) 0 := by
        cases rest with
        | nil => simp [paymentAt?]
        | cons next more => simp [paymentAt?]
      have hRange :
          (List.range (line :: rest).length).filterMap
              (paymentAt? (line :: rest)) =
            (paymentAt? (line :: rest) 0).toList ++
              (List.range rest.length).filterMap
                (paymentAt? rest) := by
        rw [List.length_cons, List.range_succ_eq_map,
          List.filterMap_cons, List.filterMap_map]
        cases paymentAt? (line :: rest) 0 <;> rfl
      simp only [pushLines, pushLine_eq]
      rw [ih, hFirst, hRange]
      rfl

/-
  For all bytes: they are lines, and an open line after them.
  A fresh reader emits one hash for each line that announces a
  payment whose hash is in the line after it, in the order of
  the lines, and nothing else.
-/
theorem emits_announced_payments (bytes : List UInt8) :
    (∃ segments openLine, Lines bytes segments openLine) ∧
      ∀ segments openLine, Lines bytes segments openLine →
        (fresh.feed bytes).2 =
            (List.range segments.length).filterMap
              (paymentAt? (segments.map lineOfSegment)) ∧
          ∀ i hash,
            paymentAt? (segments.map lineOfSegment) i =
                some hash ↔
              AnnouncesAt (segments.map lineOfSegment) i
                hash := by
  refine ⟨exists_lines bytes, ?_⟩
  intro segments openLine hLines
  refine ⟨?_, paymentAt?_eq_some_iff _⟩
  rw [feed_lines (r := fresh) hLines]
  simp only
  rw [snd_pushLines, List.length_map]
  rfl

/-
  A broken payload, an announced payment with carriage returns,
  and data that nothing announces.
-/
def noisySegments : List (List UInt8) :=
  ["event: payment-received", "data: \x7b\"payment_hash\":1\x7d",
    "", "event:payment-received \r",
    "data:\x7b\"payment_hash\":\"h1\"\x7d\r\r",
    "data: \x7b\"payment_hash\":\"h2\"\x7d",
    "event: payment-received"].map Text.Utf8.encode

/- Data that no line feed ends. -/
def unfinishedLine : List UInt8 :=
  Text.Utf8.encode "data: \x7b\"payment_hash\":\"h3\"\x7d"

/- Of these lines only the fourth announces a payment. -/
theorem emits_announced_payments_of_noisySegments :
    Lines (noisySegments.flatMap (· ++ [lineFeed]) ++
        unfinishedLine) noisySegments unfinishedLine ∧
      AnnouncesAt (noisySegments.map lineOfSegment) 3 "h1" ∧
      (fresh.feed (noisySegments.flatMap (· ++ [lineFeed]) ++
        unfinishedLine)).2 = ["h1"] := by
  have hLines :
      Lines (noisySegments.flatMap (· ++ [lineFeed]) ++
        unfinishedLine) noisySegments unfinishedLine :=
    ⟨rfl, by decide +kernel, by decide +kernel⟩
  have hEmits :=
    (emits_announced_payments _).2 _ _ hLines
  refine ⟨hLines, (hEmits.2 3 "h1").mp (by decide +kernel), ?_⟩
  exact hEmits.1.trans (by decide +kernel)

end EventReader

end LightningGateway.PushStream
