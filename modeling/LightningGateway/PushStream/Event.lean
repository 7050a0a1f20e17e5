import LightningGateway.Json.Record
import LightningGateway.Text.Blank
import LightningGateway.Text.Utf8

/-
  The events of a push stream.

  The stream is a text of lines.  A line that announces a
  payment has to be followed directly by a line with its data,
  which names the payment hash.  Every other line is skipped,
  and takes an announcement back.

  The text arrives in chunks that may end anywhere, so a reader
  keeps the bytes of the unfinished line.

  Key definitions include:
    * `EventReader`
    * `EventReader.pushLine`
    * `EventReader.drain`
    * `EventReader.feed`
-/

namespace LightningGateway.PushStream

------------------------------------------------------------
-- Lines
------------------------------------------------------------

/- What stands before the name of an event. -/
def eventMark : List Char := "event:".toList

/- What stands before the data of an event. -/
def dataMark : List Char := "data:".toList

/- The name of the event that announces a payment. -/
def paymentReceived : List Char := "payment-received".toList

/- The payment hash that the data of an event names. -/
def paymentHash? (data : List Char) : Option String := do
  let t ← Json.Tree.parse? (String.ofList (Text.trimBlank data))
  let r ← t.record? ["payment_hash"]
  (← r.optional? Json.Tree.text? "payment_hash")

/- Whether a line names an event, and if so whether a payment. -/
def announces? (line : List Char) : Option Bool :=
  (Text.after? eventMark line).map fun name =>
    Text.trimBlank name == paymentReceived

/- The payment hash of a line with data. -/
def hashOfLine? (line : List Char) : Option String :=
  (Text.after? dataMark line).bind paymentHash?

/- Whether a character ends a line. -/
def isLineEnd (c : Char) : Bool :=
  c == '\n' || c == '\r'

/- The byte that ends a line. -/
def lineFeed : UInt8 := 10

/- The text of the bytes of a line, without its end. -/
def lineOfBytes (bytes : List UInt8) : List Char :=
  Text.trimEndWhile isLineEnd (Text.Utf8.decodeFrom none bytes)

------------------------------------------------------------
-- Readers
------------------------------------------------------------

/- What a reader keeps between chunks. -/
structure EventReader where
  -- The bytes of the unfinished line, the latest one first.
  held : List UInt8
  -- Whether the line before announced a payment.
  triggered : Bool
  deriving DecidableEq, Repr

namespace EventReader

/- A reader of a stream that has just been opened. -/
def fresh : EventReader :=
  ⟨[], false⟩

/- Read a line, which may complete a payment hash. -/
def pushLine
    (r : EventReader)
    (line : List Char) : EventReader × Option String :=
  match announces? line with
  | some b => ({ r with triggered := b }, none)
  | none =>
      ({ r with triggered := false },
        if r.triggered then hashOfLine? line else none)

/-
  Take the lines from the front of a buffer, as long as a line
  feed ends one, and keep what is left.
-/
def drain
    (triggered : Bool)
    (buffer : List UInt8) : EventReader × List String :=
  match _hFound : buffer.findIdx? (· == lineFeed) with
  | none => (⟨buffer.reverse, triggered⟩, [])
  | some pos =>
      let (r, h) :=
        (⟨[], triggered⟩ : EventReader).pushLine
          (lineOfBytes (buffer.take (pos + 1)))
      let (r, hs) := drain r.triggered (buffer.drop (pos + 1))
      (r, h.toList ++ hs)
termination_by buffer.length
decreasing_by
  have hBound : pos < buffer.length :=
    (List.findIdx?_eq_some_iff_findIdx_eq.mp _hFound).1
  rw [List.length_drop]
  omega

/-
  Read a chunk: it extends what is held, and the lines that are
  complete then are read.
-/
def feed
    (r : EventReader)
    (chunk : List UInt8) : EventReader × List String :=
  drain r.triggered (r.held.reverse ++ chunk)

/- Read chunks one after the other. -/
def feedAll
    (r : EventReader) :
    List (List UInt8) → EventReader × List String
  | [] => (r, [])
  | chunk :: rest =>
      let (r, hs) := r.feed chunk
      let (r, more) := r.feedAll rest
      (r, hs ++ more)

end EventReader

end LightningGateway.PushStream
