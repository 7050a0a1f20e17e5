import LightningGateway.Proofs.Text.Trimming
import LightningGateway.Proofs.Text.Utf8
import LightningGateway.PushStream.Event

/-
  The lines of a push stream.

  The bytes of a stream are lines that end in line feeds, and an
  open line after them.  A reader takes the lines one by one
  and holds the open line, wherever the bytes are cut into
  chunks.

  Lines that are written in UTF-8, with any number of carriage
  returns before each line feed, are read as they were written.

  Key definitions include:
    * `Lines`
    * `EventReader.pushLines`
    * `EventReader.feedBytes`
    * `EventReader.IsReached`
    * `WrittenLine`

  Main results:
    * `EventReader.feed_lines`
    * `EventReader.feed_append`
    * `EventReader.feed_eq_feedBytes`
    * `EventReader.feedAll_eq`
    * `EventReader.feed_written`
    * `EventReader.chunks_read_as_one`
-/

namespace LightningGateway.PushStream

------------------------------------------------------------
-- Lines of Bytes
------------------------------------------------------------

/-
  Bytes are segments, with a line feed after each, and an open
  line at the end.
-/
structure Lines
    (bytes : List UInt8)
    (segments : List (List UInt8))
    (openLine : List UInt8) : Prop where
  bytes_eq :
    bytes = segments.flatMap (· ++ [lineFeed]) ++ openLine
  not_mem_segment : ∀ s ∈ segments, lineFeed ∉ s
  not_mem_openLine : lineFeed ∉ openLine

/- All bytes are lines. -/
theorem exists_lines (bytes : List UInt8) :
    ∃ segments openLine, Lines bytes segments openLine := by
  induction bytes with
  | nil => exact ⟨[], [], rfl, by simp, by simp⟩
  | cons b rest ih =>
      rcases ih with ⟨segments, openLine, hRest, hSegments, hOpen⟩
      by_cases hFeed : b = lineFeed
      · refine ⟨[] :: segments, openLine, ?_, ?_, hOpen⟩
        · rw [hFeed, hRest]
          rfl
        · intro s hMem
          rcases List.mem_cons.mp hMem with rfl | hMore
          · exact List.not_mem_nil
          · exact hSegments s hMore
      · cases segments with
        | nil =>
            refine ⟨[], b :: openLine, ?_, by simp, ?_⟩
            · rw [hRest]
              rfl
            · rw [List.mem_cons, not_or]
              exact ⟨Ne.symm hFeed, hOpen⟩
        | cons s more =>
            refine ⟨(b :: s) :: more, openLine, ?_, ?_, hOpen⟩
            · rw [hRest]
              rfl
            · intro t hMem
              rcases List.mem_cons.mp hMem with rfl | hMore
              · rw [List.mem_cons, not_or]
                exact ⟨Ne.symm hFeed, hSegments s (.head more)⟩
              · exact hSegments t (.tail s hMore)

/- The line of a segment: its text, without the end of the line. -/
def lineOfSegment (segment : List UInt8) : List Char :=
  lineOfBytes (segment ++ [lineFeed])

namespace EventReader

------------------------------------------------------------
-- Reading Lines
------------------------------------------------------------

/- Read lines, and collect the payment hashes they complete. -/
def pushLines
    (r : EventReader) :
    List (List Char) → EventReader × List String
  | [] => (r, [])
  | line :: rest =>
      let (r, h) := r.pushLine line
      let (r, hs) := r.pushLines rest
      (r, h.toList ++ hs)

/- A line is read without regard to what the reader holds. -/
theorem pushLine_held
    (r : EventReader)
    (held : List UInt8)
    (line : List Char) :
    ({ r with held := held } : EventReader).pushLine line =
      ({ (r.pushLine line).1 with held := held },
        (r.pushLine line).2) := by
  unfold pushLine
  cases announces? line <;> rfl

/- A line does not change what the reader holds. -/
theorem held_pushLine
    (r : EventReader)
    (line : List Char) :
    (r.pushLine line).1.held = r.held := by
  unfold pushLine
  cases announces? line <;> rfl

/- A reader that holds nothing does not after a line either. -/
theorem pushLine_holdsNothing
    (triggered : Bool)
    (line : List Char) :
    (⟨[], ((⟨[], triggered⟩ : EventReader).pushLine
        line).1.triggered⟩ : EventReader) =
      ((⟨[], triggered⟩ : EventReader).pushLine line).1 := by
  unfold pushLine
  cases announces? line <;> rfl

/- Lines do not change what the reader holds. -/
theorem held_pushLines
    (r : EventReader)
    (lines : List (List Char)) :
    (r.pushLines lines).1.held = r.held := by
  induction lines generalizing r with
  | nil => rfl
  | cons line rest ih =>
      exact (ih (r.pushLine line).1).trans (r.held_pushLine line)

/- Lines in two lists are read as if they were in one. -/
theorem pushLines_append
    (r : EventReader)
    (first second : List (List Char)) :
    r.pushLines (first ++ second) =
      (((r.pushLines first).1.pushLines second).1,
        (r.pushLines first).2 ++
          ((r.pushLines first).1.pushLines second).2) := by
  induction first generalizing r with
  | nil => rfl
  | cons line rest ih =>
      simp only [List.cons_append, pushLines]
      rw [ih, List.append_assoc]

/- Lines are read without regard to what the reader holds. -/
theorem pushLines_held
    (r : EventReader)
    (held : List UInt8)
    (lines : List (List Char)) :
    ({ r with held := held } : EventReader).pushLines lines =
      ({ (r.pushLines lines).1 with held := held },
        (r.pushLines lines).2) := by
  induction lines generalizing r with
  | nil => rfl
  | cons line rest ih =>
      simp only [pushLines, pushLine_held]
      rw [ih]

------------------------------------------------------------
-- Cutting Lines
------------------------------------------------------------

/- No line feed is found where there is none. -/
theorem findIdx?_lineFeed_eq_none
    {bytes : List UInt8}
    (hOpen : lineFeed ∉ bytes) :
    bytes.findIdx? (· == lineFeed) = none := by
  rw [List.findIdx?_eq_none_iff]
  intro b hMem
  rw [beq_eq_false_iff_ne]
  rintro rfl
  exact hOpen hMem

/- A buffer without a line feed is kept. -/
theorem drain_open
    (triggered : Bool)
    {buffer : List UInt8}
    (hOpen : lineFeed ∉ buffer) :
    drain triggered buffer =
      (⟨buffer.reverse, triggered⟩, []) := by
  rw [drain]
  split
  case h_1 => rfl
  case h_2 pos hFound =>
    rw [findIdx?_lineFeed_eq_none hOpen] at hFound
    cases hFound

/- A line feed completes the line of the bytes before it. -/
theorem drain_segment
    (triggered : Bool)
    {segment : List UInt8}
    (hSegment : lineFeed ∉ segment)
    (rest : List UInt8) :
    drain triggered (segment ++ lineFeed :: rest) =
      let next :=
        (⟨[], triggered⟩ : EventReader).pushLine
          (lineOfSegment segment)
      ((drain next.1.triggered rest).1,
        next.2.toList ++ (drain next.1.triggered rest).2) := by
  have hFirst :
      (segment ++ lineFeed :: rest).findIdx? (· == lineFeed) =
        some segment.length := by
    rw [List.findIdx?_append, findIdx?_lineFeed_eq_none hSegment]
    simp [List.findIdx?_cons]
  have hSplit :
      segment ++ lineFeed :: rest =
        (segment ++ [lineFeed]) ++ rest := by
    rw [List.append_assoc, List.singleton_append]
  have hLength :
      (segment ++ [lineFeed]).length = segment.length + 1 := by
    rw [List.length_append, List.length_singleton]
  rw [drain]
  split
  case h_1 hNone =>
    rw [hFirst] at hNone
    cases hNone
  case h_2 pos hFound =>
    rw [hFirst] at hFound
    cases hFound
    rw [hSplit, List.take_left' hLength, List.drop_left' hLength]
    rfl

/- The lines of a buffer are read, and the open line is kept. -/
theorem drain_lines
    {triggered : Bool}
    {buffer openLine : List UInt8}
    {segments : List (List UInt8)}
    (hLines : Lines buffer segments openLine) :
    drain triggered buffer =
      let next :=
        (⟨[], triggered⟩ : EventReader).pushLines
          (segments.map lineOfSegment)
      ({ next.1 with held := openLine.reverse }, next.2) := by
  rcases hLines with ⟨rfl, hSegments, hOpen⟩
  induction segments generalizing triggered with
  | nil =>
      rw [List.flatMap_nil, List.nil_append, drain_open _ hOpen]
      rfl
  | cons s more ih =>
      rw [List.flatMap_cons, List.append_assoc, List.append_assoc,
        List.singleton_append,
        drain_segment _ (hSegments s (.head more))]
      simp only [ih fun t hMem => hSegments t (.tail s hMem)]
      simp only [List.map_cons, pushLines, pushLine_holdsNothing]

------------------------------------------------------------
-- Feeding Lines
------------------------------------------------------------

/-
  Bytes are read line by line, together with those that are
  held, and the open line is held after them.
-/
theorem feed_lines
    {r : EventReader}
    {bytes openLine : List UInt8}
    {segments : List (List UInt8)}
    (hLines :
      Lines (r.held.reverse ++ bytes) segments openLine) :
    r.feed bytes =
      ({ (r.pushLines (segments.map lineOfSegment)).1 with
          held := openLine.reverse },
        (r.pushLines (segments.map lineOfSegment)).2) := by
  have hKept :=
    r.pushLines_held [] (segments.map lineOfSegment)
  rw [feed, drain_lines hLines]
  simp only [hKept]

/- A reader that has been fed holds no line feed. -/
theorem not_mem_held_feed
    (r : EventReader)
    (bytes : List UInt8) :
    lineFeed ∉ (r.feed bytes).1.held := by
  rcases exists_lines (r.held.reverse ++ bytes) with
    ⟨segments, openLine, hLines⟩
  rw [feed_lines hLines, List.mem_reverse]
  exact hLines.not_mem_openLine

/- No bytes change nothing. -/
theorem feed_nil
    {r : EventReader}
    (hHeld : lineFeed ∉ r.held) :
    r.feed [] = (r, []) := by
  have hOpen : lineFeed ∉ r.held.reverse := by
    rw [List.mem_reverse]
    exact hHeld
  rw [feed, List.append_nil, drain_open _ hOpen,
    List.reverse_reverse]

/- Bytes in two pieces are read as if they came in one. -/
theorem feed_append
    (r : EventReader)
    (first second : List UInt8) :
    r.feed (first ++ second) =
      (((r.feed first).1.feed second).1,
        (r.feed first).2 ++ ((r.feed first).1.feed second).2) := by
  rcases exists_lines (r.held.reverse ++ first) with
    ⟨segments, openLine, hFirst⟩
  rcases exists_lines (openLine ++ second) with
    ⟨more, last, hSecond⟩
  have hBoth :
      Lines (r.held.reverse ++ (first ++ second))
        (segments ++ more) last := by
    refine ⟨?_, ?_, hSecond.not_mem_openLine⟩
    · rw [← List.append_assoc, hFirst.bytes_eq, List.append_assoc,
        hSecond.bytes_eq, List.flatMap_append, List.append_assoc]
    · intro s hMem
      rcases List.mem_append.mp hMem with hEarly | hLate
      · exact hFirst.not_mem_segment s hEarly
      · exact hSecond.not_mem_segment s hLate
  have hHeld :
      Lines ((r.feed first).1.held.reverse ++ second) more
        last := by
    rw [feed_lines hFirst, List.reverse_reverse]
    exact hSecond
  rw [feed_lines hBoth, feed_lines hHeld, feed_lines hFirst,
    List.map_append, pushLines_append]
  simp only [pushLines_held]

------------------------------------------------------------
-- Feeding Bytes
------------------------------------------------------------

/- Read a byte, which may end a line. -/
def feedByte
    (r : EventReader)
    (b : UInt8) : EventReader × Option String :=
  let held := b :: r.held
  if b = lineFeed then
    ({ r with held := [] }).pushLine (lineOfBytes held.reverse)
  else ({ r with held := held }, none)

/- Read bytes one by one. -/
def feedBytes
    (r : EventReader) :
    List UInt8 → EventReader × List String
  | [] => (r, [])
  | b :: rest =>
      let (r, h) := r.feedByte b
      let (r, hs) := r.feedBytes rest
      (r, h.toList ++ hs)

/- A chunk of one byte is read as that byte is. -/
theorem feed_singleton
    {r : EventReader}
    (hHeld : lineFeed ∉ r.held)
    (b : UInt8) :
    r.feed [b] =
      ((r.feedByte b).1, (r.feedByte b).2.toList) := by
  have hOpen : lineFeed ∉ r.held.reverse := by
    rw [List.mem_reverse]
    exact hHeld
  rw [feed, feedByte]
  by_cases hFeed : b = lineFeed
  · rw [if_pos hFeed, hFeed, drain_segment _ hOpen]
    simp only [drain_open _ List.not_mem_nil, List.reverse_nil,
      List.append_nil, List.reverse_cons, pushLine_holdsNothing]
    rfl
  · have hMore : lineFeed ∉ r.held.reverse ++ [b] := by
      rw [List.mem_append, not_or, List.mem_singleton]
      exact ⟨hOpen, Ne.symm hFeed⟩
    rw [if_neg hFeed, drain_open _ hMore]
    simp

/- To read a chunk is to read its bytes. -/
theorem feed_eq_feedBytes
    {r : EventReader}
    (hHeld : lineFeed ∉ r.held)
    (bytes : List UInt8) :
    r.feed bytes = r.feedBytes bytes := by
  induction bytes generalizing r with
  | nil => exact feed_nil hHeld
  | cons b rest ih =>
      have hFirst := feed_singleton hHeld b
      have hNext : lineFeed ∉ (r.feedByte b).1.held := by
        have hKept := r.not_mem_held_feed [b]
        rw [hFirst] at hKept
        exact hKept
      have hSplit : b :: rest = [b] ++ rest := rfl
      rw [hSplit, feed_append, hFirst, ih hNext]
      rfl

------------------------------------------------------------
-- Chunks
------------------------------------------------------------

/- Chunks are read as if all their bytes came in one. -/
theorem feedAll_eq
    {r : EventReader}
    (hHeld : lineFeed ∉ r.held)
    (chunks : List (List UInt8)) :
    r.feedAll chunks = r.feed chunks.flatten := by
  induction chunks generalizing r with
  | nil => exact (feed_nil hHeld).symm
  | cons chunk rest ih =>
      rw [List.flatten_cons, feed_append, feedAll]
      simp only
      rw [ih (r.not_mem_held_feed chunk)]

/- A reader that has been fed chunks from the start. -/
def IsReached (r : EventReader) : Prop :=
  ∃ chunks, (fresh.feedAll chunks).1 = r

/- No reader holds a line feed. -/
theorem IsReached.not_mem_held
    {r : EventReader}
    (hReached : r.IsReached) :
    lineFeed ∉ r.held := by
  rcases hReached with ⟨chunks, rfl⟩
  rw [feedAll_eq List.not_mem_nil]
  exact not_mem_held_feed fresh _

end EventReader

------------------------------------------------------------
-- Written Lines
------------------------------------------------------------

/- The byte of a carriage return. -/
def carriageReturn : UInt8 := 13

/- A line of text, with the carriage returns that end it. -/
structure WrittenLine where
  text : List Char
  returns : Nat
  deriving DecidableEq, Repr

namespace WrittenLine

/- Whether a text is a whole line, but for its end. -/
def IsWhole (l : WrittenLine) : Prop :=
  '\n' ∉ l.text ∧ l.text.getLast? ≠ some '\r'

instance (l : WrittenLine) : Decidable l.IsWhole :=
  inferInstanceAs (Decidable (_ ∧ _))

/- The bytes of a line before its line feed. -/
def segment (l : WrittenLine) : List UInt8 :=
  Text.Utf8.encodeChars l.text ++
    List.replicate l.returns carriageReturn

/- The bytes of a line. -/
def bytes (l : WrittenLine) : List UInt8 :=
  l.segment ++ [lineFeed]

/- The bytes before a line feed are a text with its end. -/
theorem segment_eq (l : WrittenLine) :
    l.segment =
      Text.Utf8.encodeChars
        (l.text ++ List.replicate l.returns '\r') := by
  have hReturns (n : Nat) :
      Text.Utf8.encodeChars (List.replicate n '\r') =
        List.replicate n carriageReturn := by
    induction n with
    | zero => rfl
    | succ n ih =>
        rw [List.replicate_succ, List.replicate_succ, ← ih]
        rfl
  rw [segment, ← hReturns, Text.Utf8.encodeChars_append]

/- The bytes of a whole line hold one line feed only. -/
theorem IsWhole.not_mem_segment
    {l : WrittenLine}
    (hWhole : l.IsWhole) :
    lineFeed ∉ l.segment := by
  intro hMem
  rw [segment_eq] at hMem
  have hText :=
    Text.Utf8.mem_of_mem_encodeChars hMem (by decide)
  rcases List.mem_append.mp hText with hLine | hReturn
  · exact hWhole.1 hLine
  · exact absurd (List.eq_of_mem_replicate hReturn) (by decide)

/- A whole line is read as it was written. -/
theorem IsWhole.lineOfSegment_eq
    {l : WrittenLine}
    (hWhole : l.IsWhole) :
    lineOfSegment l.segment = l.text := by
  have hBytes :
      l.segment ++ [lineFeed] =
        Text.Utf8.encodeChars
          (l.text ++
            (List.replicate l.returns '\r' ++ ['\n'])) ++ [] := by
    rw [segment_eq, List.append_nil, ← List.append_assoc]
    simp only [Text.Utf8.encodeChars_append]
    rfl
  rw [lineOfSegment, lineOfBytes, hBytes,
    Text.Utf8.decodeFrom_encodeChars, Text.Utf8.decodeFrom,
    List.append_nil]
  apply Text.trimEndWhile_append
  · intro c hLast
    have hReturn : c ≠ '\r' := by
      rintro rfl
      exact hWhole.2 hLast
    have hFeed : c ≠ '\n' := by
      rintro rfl
      exact hWhole.1 (List.mem_of_getLast? hLast)
    simp [isLineEnd, hReturn, hFeed]
  · intro d hMem
    rcases List.mem_append.mp hMem with hReturn | hFeed
    · rw [List.eq_of_mem_replicate hReturn]
      rfl
    · rw [List.mem_singleton.mp hFeed]
      rfl

/- Whole lines are the lines of their bytes. -/
theorem lines_bytes
    {lines : List WrittenLine}
    (hWhole : ∀ l ∈ lines, l.IsWhole) :
    Lines (lines.flatMap bytes) (lines.map segment) [] := by
  refine ⟨?_, ?_, List.not_mem_nil⟩
  · rw [List.append_nil, List.flatMap_map]
    rfl
  · intro s hMem
    rcases List.mem_map.mp hMem with ⟨l, hLine, rfl⟩
    exact (hWhole l hLine).not_mem_segment

end WrittenLine

namespace EventReader

/- Whole lines are read as they were written. -/
theorem feed_written
    {r : EventReader}
    {lines : List WrittenLine}
    (hHeld : r.held = [])
    (hWhole : ∀ l ∈ lines, l.IsWhole) :
    r.feed (lines.flatMap WrittenLine.bytes) =
      r.pushLines (lines.map WrittenLine.text) := by
  have hLines :
      Lines (r.held.reverse ++ lines.flatMap WrittenLine.bytes)
        (lines.map WrittenLine.segment) [] := by
    rw [hHeld]
    exact WrittenLine.lines_bytes hWhole
  have hTexts :
      (lines.map WrittenLine.segment).map lineOfSegment =
        lines.map WrittenLine.text := by
    rw [List.map_map]
    exact List.map_congr_left fun l hMem =>
      (hWhole l hMem).lineOfSegment_eq
  have hKept :=
    (r.held_pushLines (lines.map WrittenLine.text)).trans hHeld
  rw [feed_lines hLines, hTexts, List.reverse_nil, ← hKept]

/-
  For a reader that has been fed anything, and for all chunks: it
  reads them as if their bytes came in one, that is, line by line
  after the bytes that it holds, and holds the open line after
  them.  From a reader that holds nothing, lines that are written
  in UTF-8, with any number of carriage returns before each line
  feed, are read as they were written.
-/
theorem chunks_read_as_one
    {r : EventReader}
    (hReached : r.IsReached)
    (chunks : List (List UInt8)) :
    lineFeed ∉ r.held ∧
      r.feedAll chunks = r.feed chunks.flatten ∧
      (∀ segments openLine,
        Lines (r.held.reverse ++ chunks.flatten) segments
            openLine →
          r.feedAll chunks =
            ({ (r.pushLines (segments.map lineOfSegment)).1 with
                held := openLine.reverse },
              (r.pushLines (segments.map lineOfSegment)).2)) ∧
      ∀ lines : List WrittenLine,
        r.held = [] → (∀ l ∈ lines, l.IsWhole) →
        chunks.flatten = lines.flatMap WrittenLine.bytes →
          r.feedAll chunks =
            r.pushLines (lines.map WrittenLine.text) := by
  have hNone := hReached.not_mem_held
  have hAll := feedAll_eq hNone chunks
  refine ⟨hNone, hAll, ?_, ?_⟩
  · intro segments openLine hLines
    rw [hAll]
    exact feed_lines hLines
  · intro lines hHeld hWhole hBytes
    rw [hAll, hBytes]
    exact feed_written hHeld hWhole

/- The data of a payment and the next event. -/
def paidLines : List WrittenLine :=
  [⟨"data: \x7b\"payment_hash\":\"\u00e9\"\x7d".toList, 2⟩,
   ⟨"event: payment-received".toList, 0⟩]

/- Their bytes, cut inside a character and inside a line's end. -/
def paidChunks : List (List UInt8) :=
  [Text.Utf8.encode "data: \x7b\"payment_hash\":\"" ++ [0xC3],
   0xA9 :: Text.Utf8.encode "\"\x7d\r", [],
   Text.Utf8.encode "\r",
   Text.Utf8.encode "\nevent: payment-rec",
   Text.Utf8.encode "eived\n"]

/- A reader that waits for data reads them from the chunks. -/
theorem chunks_read_as_one_of_paidChunks :
    ∃ r : EventReader, r.IsReached ∧ r.held = [] ∧
      (∀ l ∈ paidLines, l.IsWhole) ∧
      paidChunks.flatten = paidLines.flatMap WrittenLine.bytes ∧
      r.feedAll paidChunks =
        r.pushLines (paidLines.map WrittenLine.text) ∧
      r.feedAll paidChunks = (⟨[], true⟩, ["\u00e9"]) := by
  have hReached : (⟨[], true⟩ : EventReader).IsReached :=
    ⟨[Text.Utf8.encode "event: payment-",
      Text.Utf8.encode "received\r\n"], by decide +kernel⟩
  have hWhole : ∀ l ∈ paidLines, l.IsWhole := by decide +kernel
  have hBytes :
      paidChunks.flatten =
        paidLines.flatMap WrittenLine.bytes := by
    decide +kernel
  have hRead :=
    (chunks_read_as_one hReached paidChunks).2.2.2 paidLines rfl
      hWhole hBytes
  have hLines :
      (⟨[], true⟩ : EventReader).pushLines
          (paidLines.map WrittenLine.text) =
        (⟨[], true⟩, ["\u00e9"]) := by
    decide +kernel
  exact ⟨_, hReached, rfl, hWhole, hBytes, hRead,
    hRead.trans hLines⟩

end EventReader

end LightningGateway.PushStream
