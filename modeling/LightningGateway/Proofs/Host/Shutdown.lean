import LightningGateway.Proofs.Host.Course
import LightningGateway.Proofs.Host.Return
import LightningGateway.Proofs.Host.Stream

/-
  How a host shuts down.

  A host goes on to agree with what was marked of it: its log
  tells the marks, and before them each settled invoice that it
  took; and what it took is a beginning of what its listener
  forwarded.

  Key definitions include:
    * `Host.Accords`

  Main results:
    * `Host.Accords.snoc`
    * `Host.accords_of_run`
    * `Host.returns_in_order`
-/

namespace LightningGateway

open Payment Relay Settings

namespace Host

variable {h next : Host} {t : Turn}

------------------------------------------------------------
-- Invoices and Log
------------------------------------------------------------

/- What is logged when a host begins to listen. -/
def Stage.greeting : Stage → List LogLine
  | .built => []
  | _ => [.info "Listening for settled invoices..."]

/-
  How a host agrees with what was marked, logged and forwarded
  so far, and with what was in its log before.
-/
structure Accords
    (opening : List LogLine)
    (marks : List Mark)
    (logged forwarded : List SettledInvoice)
    (h : Host) : Prop where
  course : Course h marks
  started : logged <+: forwarded
  waiting :
    h.listener.hostGone = false →
      logged ++ h.listener.queue = forwarded
  there :
    (∀ failure, h.stage ≠ .finished failure) →
      h.listener.hostGone = false
  silent : h.stage = .built → logged = []
  complete :
    .left .channelEnded ∈ marks →
      h.listener.phase = .stopped ∧ logged = forwarded
  log :
    h.log =
      opening ++ h.stage.greeting ++ logged.map settledLine ++
        marks.flatMap Mark.lines

/- A host that has not left its loop has not logged its end. -/
theorem lines_openMarks (h : Host) :
    h.openMarks.flatMap Mark.lines = [] := by
  unfold openMarks
  split <;> rfl

/- A host that has not left its loop is not marked to have. -/
theorem left_not_mem_openMarks
    (h : Host)
    (d : Departure) :
    .left d ∉ h.openMarks := by
  unfold openMarks
  split <;> simp

/- The end of a listener is nothing that the host logs. -/
theorem lines_endMarks (h next : Host) :
    (endMarks h next).flatMap Mark.lines = [] := by
  unfold endMarks
  split <;> rfl

/- Only a host whose queue has ended is marked for that. -/
theorem eq_channelEnded_of_mem
    (hMem : .left .channelEnded ∈ h.marksTo t next) :
    t = .event .channelEnded := by
  have hOwn : .left .channelEnded ∈ deedMarks h next t := by
    simp only [marksTo, List.mem_append] at hMem
    rcases hMem with ((hOwn | hCancel) | hEnd) | hReturn
    · exact hOwn
    · unfold cancelMarks at hCancel
      split at hCancel <;> simp at hCancel
    · unfold endMarks at hEnd
      split at hEnd <;> simp at hEnd
    · unfold returnMarks at hReturn
      split at hReturn <;> simp at hReturn
  unfold deedMarks at hOwn
  split at hOwn
  · simp at hOwn
  · rfl
  · simp at hOwn
  · simp at hOwn
  · split at hOwn <;> simp at hOwn
  · simp at hOwn

/- Only a host that listens logs a settled invoice. -/
theorem loggedOf_cases
    (hRule : Rule h next t) :
    h.loggedOf t = [] ∨
      ∃ s rest, h.stage = .listening ∧
        next.stage = .listening ∧
        h.listener.queue = s :: rest ∧
        h.loggedOf t = [s] := by
  cases hRule with
  | idle hOther hMoves hListener hStage hLog =>
      exact .inl (loggedOf_of_isDeed hOther h)
  | move e hOther hUncaused hMoves hStep hStage hLog =>
      exact .inl (loggedOf_of_isDeed hOther h)
  | settled s rest hListening hQueue hListener hStage hLog =>
      refine .inr ⟨s, rest, hListening, hStage, hQueue, ?_⟩
      rw [loggedOf, hQueue]
      rfl
  | leave d hListening hEnded hListener hStage hLog =>
      cases d <;> exact .inl rfl
  | _ => exact .inl rfl

/- A host that has not begun to listen has logged no invoice. -/
theorem built_of_rule
    (hRule : Rule h next t)
    (hBuilt : next.stage = .built) :
    h.stage = .built ∧ h.loggedOf t = [] := by
  cases hRule with
  | idle hOther hMoves hListener hStage hLog =>
      exact ⟨hStage.symm.trans hBuilt,
        loggedOf_of_isDeed hOther h⟩
  | move e hOther hUncaused hMoves hStep hStage hLog =>
      exact ⟨hStage.symm.trans hBuilt,
        loggedOf_of_isDeed hOther h⟩
  | _ => simp_all

/-
  As long as the host is there, the queue holds what it held and
  what was forwarded, but for what was logged.
-/
theorem queue_of_rule
    (hRule : Rule h next t)
    (hThere : next.listener.hostGone = false) :
    h.listener.hostGone = false ∧
      h.loggedOf t ++ next.listener.queue =
        h.listener.queue ++
          h.listener.forwarded (h.movesOf t) := by
  cases hRule with
  | idle hOther hMoves hListener hStage hLog =>
      rw [loggedOf_of_isDeed hOther, hMoves, hListener]
      exact ⟨hListener ▸ hThere, (List.append_nil _).symm⟩
  | move e hOther hUncaused hMoves hStep hStage hLog =>
      rcases Listener.frame_of_isUncaused hStep hUncaused with
        ⟨-, hHost, hQueue⟩
      rw [loggedOf_of_isDeed hOther, hMoves,
        Listener.forwarded_singleton hStep, hQueue]
      exact ⟨hHost.symm.trans hThere, rfl⟩
  | settled s rest hListening hQueue hListener hStage hLog =>
      rw [hListener] at hThere
      refine ⟨hThere, ?_⟩
      have hNone :
          h.listener.forwarded (h.movesOf (.event .settled)) =
            [] :=
        Listener.forwarded_singleton
          (.receive s rest hQueue)
      rw [hNone, loggedOf, hListener, hQueue, List.append_nil]
      rfl
  | leave d hListening hEnded hListener hStage hLog =>
      rw [hListener] at hThere
      refine ⟨hThere, ?_⟩
      rw [hListener]
      cases d <;> exact (List.append_nil _).symm
  | finish failure hClosed _ hListener hStage hLog =>
      rw [hListener] at hThere
      cases hThere
  | listen hBuilt hListener hStage hLog =>
      rw [hListener]
      exact ⟨hListener ▸ hThere, (List.append_nil _).symm⟩
  | join failure since hStopping hStopped hListener hStage
      hLog =>
      rw [hListener]
      exact ⟨hListener ▸ hThere, (List.append_nil _).symm⟩
  | timeOut failure since hStopping hOver hListener hStage
      hLog =>
      rw [hListener]
      exact ⟨hListener ▸ hThere, (List.append_nil _).symm⟩
  | closeWallet failure hClosing hWallet hListener hStage
      hLog =>
      rw [hListener]
      exact ⟨hListener ▸ hThere, (List.append_nil _).symm⟩

namespace Accords

variable {opening : List LogLine} {marks : List Mark}
variable {logged forwarded : List SettledInvoice}

/- A host that was just made has not been marked. -/
theorem of_built
    (hStage : h.stage = .built)
    (hListener :
      ∃ delay capacity, h.listener = .start delay capacity) :
    Accords h.log [] [] [] h := by
  rcases hListener with ⟨delay, capacity, hListener⟩
  have hMarks : h.openMarks = [] := by
    rw [openMarks, hListener]
    rfl
  refine ⟨?_, List.prefix_rfl, ?_, ?_, fun _ => rfl,
    (fun hEnded => by cases hEnded), ?_⟩
  · rw [← hMarks]
    exact .unended (.inl hStage) (by rw [hListener]; rfl)
  · intro _
    rw [hListener]
    rfl
  · intro _
    rw [hListener]
    rfl
  · rw [hStage]
    simp [Stage.greeting]

/- The host is there as long as it has not returned. -/
theorem there_of_listening
    (hAccords : Accords opening marks logged forwarded h)
    (hListening : h.stage = .listening) :
    h.listener.hostGone = false :=
  hAccords.there (by rw [hListening]; exact fun _ => nofun)

/- What is logged was forwarded. -/
theorem started_snoc
    (hAccords : Accords opening marks logged forwarded h)
    (hRule : Rule h next t)
    (more : List SettledInvoice) :
    logged ++ h.loggedOf t <+: forwarded ++ more := by
  rcases loggedOf_cases hRule with
    hNone | ⟨s, rest, hListening, _, hQueue, hOne⟩
  · rw [hNone, List.append_nil]
    exact hAccords.started.trans (List.prefix_append _ _)
  · have hThere := hAccords.there_of_listening hListening
    refine .trans ?_ (List.prefix_append _ more)
    rw [hOne, ← hAccords.waiting hThere, hQueue]
    exact ⟨rest, by simp⟩

/- What was forwarded is logged or waits in the queue. -/
theorem waiting_snoc
    (hAccords : Accords opening marks logged forwarded h)
    (hRule : Rule h next t)
    (hThere : next.listener.hostGone = false) :
    logged ++ h.loggedOf t ++ next.listener.queue =
      forwarded ++ h.listener.forwarded (h.movesOf t) := by
  rcases queue_of_rule hRule hThere with ⟨hBefore, hQueue⟩
  rw [List.append_assoc, hQueue, ← List.append_assoc,
    hAccords.waiting hBefore]

/- Only a host that returns is gone. -/
theorem there_snoc
    (hAccords : Accords opening marks logged forwarded h)
    (hRule : Rule h next t)
    (hUnfinished : ∀ failure, next.stage ≠ .finished failure) :
    next.listener.hostGone = false := by
  have hBefore := hAccords.there
  cases hRule with
  | idle hOther hMoves hListener hStage hLog =>
      rw [hListener]
      exact hBefore (hStage ▸ hUnfinished)
  | move e hOther hUncaused hMoves hStep hStage hLog =>
      rw [(Listener.frame_of_isUncaused hStep hUncaused).2.1]
      exact hBefore (hStage ▸ hUnfinished)
  | finish failure hClosed hThere hListener hStage hLog =>
      exact absurd hStage (hUnfinished failure)
  | _ => simp_all

/-
  A host that leaves its loop as the queue has ended has logged
  all that was forwarded.
-/
theorem complete_of_channelEnded
    (hAccords : Accords opening marks logged forwarded h)
    (hEnd : h.turn? (.event .channelEnded) = some next) :
    h.listener.phase = .stopped ∧ logged = forwarded := by
  rcases Option.ite_none_right_eq_some.mp hEnd with
    ⟨⟨hListening, hStopped, hQueue⟩, _⟩
  have hThere := hAccords.there_of_listening hListening
  have hAll := hAccords.waiting hThere
  rw [hQueue, List.append_nil] at hAll
  exact ⟨hStopped, hAll⟩

/- After that nothing more is forwarded, and nothing logged. -/
theorem complete_snoc
    (hAccords : Accords opening marks logged forwarded h)
    (hTurn : h.turn? t = some next)
    (hMem : .left .channelEnded ∈ marks ++ h.marksTo t next) :
    next.listener.phase = .stopped ∧
      logged ++ h.loggedOf t =
        forwarded ++ h.listener.forwarded (h.movesOf t) := by
  have hBefore :
      (h.listener.phase = .stopped ∧ logged = forwarded) ∧
        h.loggedOf t = [] := by
    rcases List.mem_append.mp hMem with hPast | hNow
    · refine ⟨hAccords.complete hPast, ?_⟩
      rcases loggedOf_cases (rule_of_turn? hTurn) with
        hNone | ⟨_, _, hListening, _⟩
      · exact hNone
      · rw [(hAccords.course.eq_openMarks (.inr hListening)).1]
          at hPast
        exact absurd hPast (left_not_mem_openMarks h _)
    · rw [eq_channelEnded_of_mem hNow] at hTurn ⊢
      exact ⟨hAccords.complete_of_channelEnded hTurn, rfl⟩
  rcases hBefore with ⟨⟨hStopped, rfl⟩, hNone⟩
  rw [hNone, Listener.forwarded_of_stopped hStopped]
  exact ⟨Listener.phase_of_stopped hStopped
    (listener_of_turn? hTurn), rfl⟩

/- The log of a turn that logs no invoice and no greeting. -/
theorem log_of_marks
    (hAccords : Accords opening marks logged forwarded h)
    (hNone : h.loggedOf t = [])
    (hGreeting : next.stage.greeting = h.stage.greeting)
    (hLog :
      next.log =
        h.log ++ (h.marksTo t next).flatMap Mark.lines) :
    next.log =
      opening ++ next.stage.greeting ++
        (logged ++ h.loggedOf t).map settledLine ++
        (marks ++ h.marksTo t next).flatMap Mark.lines := by
  rw [hLog, hAccords.log, hNone, hGreeting, List.append_nil,
    List.flatMap_append, List.append_assoc]

/- The log tells what was marked, and each settled invoice. -/
theorem log_snoc
    (hAccords : Accords opening marks logged forwarded h)
    (hRule : Rule h next t) :
    next.log =
      opening ++ next.stage.greeting ++
        (logged ++ h.loggedOf t).map settledLine ++
        (marks ++ h.marksTo t next).flatMap Mark.lines := by
  -- A host in its loop has logged nothing of its end.
  have hOpen (hStage : h.stage = .built ∨ h.stage = .listening) :
      marks.flatMap Mark.lines = [] := by
    rw [(hAccords.course.eq_openMarks hStage).1]
    exact lines_openMarks h
  have hBefore := hAccords.log
  cases hRule with
  | idle hOther hMoves hListener hStage hLog =>
      refine hAccords.log_of_marks
        (loggedOf_of_isDeed hOther h) (by rw [hStage]) ?_
      rw [marksTo_of_isDeed hOther (by rw [hListener]) hStage,
        lines_endMarks, hLog, List.append_nil]
  | move e hOther hUncaused hMoves hStep hStage hLog =>
      have hSame :=
        (Listener.frame_of_isUncaused hStep hUncaused).1
      refine hAccords.log_of_marks
        (loggedOf_of_isDeed hOther h) (by rw [hStage]) ?_
      rw [marksTo_of_isDeed hOther hSame hStage,
        lines_endMarks, hLog, List.append_nil]
  | listen hBuilt hListener hStage hLog =>
      have hNone := hAccords.silent hBuilt
      rw [hOpen (.inl hBuilt), hNone, hBuilt] at hBefore
      rw [marksTo_of_listen hListener hStage, List.append_nil,
        hOpen (.inl hBuilt), hLog, hBefore, hNone, hStage]
      simp [Stage.greeting, loggedOf]
  | settled s rest hListening hQueue hListener hStage hLog =>
      rw [hOpen (.inr hListening)] at hBefore
      rw [marksTo_of_settled hListener hStage, List.append_nil,
        hOpen (.inr hListening), hLog, hBefore, hStage,
        hListening]
      simp [loggedOf, hQueue]
  | leave d hListening hEnded hListener hStage hLog =>
      have hUncancelled :=
        (hAccords.course.eq_openMarks (.inr hListening)).2
      refine hAccords.log_of_marks (by cases d <;> rfl)
        (by rw [hStage, hListening]; rfl) ?_
      rw [marksTo_of_leave hUncancelled hListener hStage, hLog]
      simp [Mark.lines]
  | join failure since hStopping hStopped hListener hStage
      hLog =>
      refine hAccords.log_of_marks rfl
        (by rw [hStage, hStopping]; rfl) ?_
      rw [marksTo_of_listener hListener, hLog,
        returnMarks_of_none (by rw [hStage]; rfl)]
      rfl
  | timeOut failure since hStopping hOver hListener hStage
      hLog =>
      refine hAccords.log_of_marks rfl
        (by rw [hStage, hStopping]; rfl) ?_
      rw [marksTo_of_listener hListener, hLog,
        returnMarks_of_none (by rw [hStage]; rfl)]
      rfl
  | closeWallet failure hClosing hWallet hListener hStage
      hLog =>
      refine hAccords.log_of_marks rfl
        (by rw [hStage, hClosing]; rfl) ?_
      rw [marksTo_of_closeWallet hWallet hListener hStage, hLog]
      exact (List.append_nil _).symm
  | finish failure hClosed hThere hListener hStage hLog =>
      refine hAccords.log_of_marks rfl
        (by rw [hStage, hClosed]; rfl) ?_
      rcases marksTo_of_finish hClosed hListener hStage with
        ⟨r, _, hMarks⟩
      rw [hMarks, hLog]
      rfl

/- Every turn goes on to agree with what was marked. -/
theorem snoc
    (hAccords : Accords opening marks logged forwarded h)
    (hTurn : h.turn? t = some next)
    (hInTime : t ≠ .event .timeOut) :
    Accords opening (marks ++ h.marksTo t next)
      (logged ++ h.loggedOf t)
      (forwarded ++ h.listener.forwarded (h.movesOf t)) next := by
  have hRule := rule_of_turn? hTurn
  refine ⟨hAccords.course.snoc hRule hInTime,
    hAccords.started_snoc hRule _, hAccords.waiting_snoc hRule,
    hAccords.there_snoc hRule, ?_, hAccords.complete_snoc hTurn,
    hAccords.log_snoc hRule⟩
  intro hBuilt
  rcases built_of_rule hRule hBuilt with ⟨hBefore, hNone⟩
  rw [hAccords.silent hBefore, hNone]
  rfl

end Accords

------------------------------------------------------------
-- Whole Runs
------------------------------------------------------------

/- A host that has returned has closed its wallet. -/
theorem Stage.isShut_of_result
    {stage : Stage}
    {r : Except String Unit}
    (hReturned : stage.result? = some r) :
    stage.isShut = true := by
  cases stage with
  | finished failure => rfl
  | _ => cases hReturned

/- A run in time agrees with what was marked and forwarded. -/
theorem accords_of_run
    {start last : Host}
    {turns : List Turn}
    (hStage : start.stage = .built)
    (hListener :
      ∃ delay capacity,
        start.listener = .start delay capacity)
    (hRun : turns.foldlM turn? start = some last)
    (hInTime : .event .timeOut ∉ turns) :
    Accords start.log (start.marks turns) (start.logged turns)
      (start.forwarded turns) last := by
  refine Run.history_of_run
    (P := fun past h => .event .timeOut ∉ past →
      Accords start.log (start.marks past) (start.logged past)
        (start.forwarded past) h)
    ?_ (fun _ => .of_built hStage hListener) hRun hInTime
  intro past h next t hPast hBefore hTurn hFree
  rw [List.mem_append, not_or] at hFree
  have hNow : t ≠ .event .timeOut :=
    fun hSame => hFree.2 (hSame ▸ List.mem_cons_self)
  have hMarks :
      start.marks (past ++ [t]) =
        start.marks past ++ h.marksTo t next := by
    rw [marks, Run.outputs_snoc hPast hTurn, marksOf, hTurn]
    rfl
  have hLogged :
      start.logged (past ++ [t]) =
        start.logged past ++ h.loggedOf t :=
    Run.outputs_snoc hPast hTurn
  have hForwarded :
      start.forwarded (past ++ [t]) =
        start.forwarded past ++
          h.listener.forwarded (h.movesOf t) := by
    rw [forwarded, moves, Run.outputs_snoc hPast hTurn]
    exact Run.outputs_append (listener_of_turns hPast) _
  rw [hMarks, hLogged, hForwarded]
  exact (hBefore hFree.1).snoc hTurn hNow

/-
  After the return, a queue whose reading end nobody but the
  listener took hands every hash back.
-/
theorem Accords.push?_of_result
    {start last : Host}
    {opening : List LogLine}
    {marks : List Mark}
    {logged forwarded : List SettledInvoice}
    {turns : List Turn}
    {e : ReadingEnd}
    {r : Except String Unit}
    (hAccords : Accords opening marks logged forwarded last)
    (hLent : start.IsLent e)
    (hOpen : start.stage.isShut = false)
    (hRun : turns.foldlM turn? start = some last)
    (hUntaken : .taken ∉ start.noted turns)
    (hReturned : last.stage.result? = some r)
    (hash : String) :
    last.wallet.push? hash = some (.error (.closed hash)) := by
  rcases lent_of_run hLent hOpen hRun hUntaken with
    ⟨f, hLast, hShut⟩
  refine push?_of_isLent hLast
    (hShut (Stage.isShut_of_result hReturned)) ?_ hash
  rw [hAccords.course.stopped_of_result hReturned]
  rfl

/-
  For every wallet, whatever its provider does, all invoices that
  settle, and all moments at which the host is told to shut down
  or the listener ends by itself, as long as the host does not
  wait for the listener in vain:

  - the host leaves its loop, cancels the listener, finds that
    it has ended, closes the wallet once, and returns then and
    only then; it returns no error if it was told to shut down,
    and an error if the queue of settled invoices had ended, of
    which all were logged by then;
  - the log tells so, after the settled invoices that were
    logged, and these are a beginning of what the listener
    forwarded;
  - if nobody but the listener has taken the stream of a wallet
    that a webhook feeds, then after the return each hash is
    handed back;
  - in each state the host can go on to return, on a way on
    which no time passes, but for a listener with an id in hand
    for which the host's queue has no room.
-/
theorem returns_in_order
    {s : Settings}
    {w : Wallet}
    {a : BalanceAnswer}
    {turns : List Turn}
    {last : Host}
    (hRun : turns.foldlM turn? (ofWallet s w a) = some last)
    (hInTime : .event .timeOut ∉ turns) :
    let start := ofWallet s w a
    (∃ d winding, Winding d winding ∧
      start.marks turns <+: winding ++ d.ending ∧
      ∀ r, last.stage.result? = some r ↔
        r = d.result ∧
          start.marks turns = winding ++ d.ending) ∧
    (.left .channelEnded ∈ start.marks turns →
      start.logged turns = start.forwarded turns) ∧
    last.log =
      start.log ++ last.stage.greeting ++
        (start.logged turns).map settledLine ++
        (start.marks turns).flatMap Mark.lines ∧
    start.logged turns <+: start.forwarded turns ∧
    start.listener.run? (start.moves turns) =
      some last.listener ∧
    (∀ q, w.relay? = some q → q.readingEnd ≠ .taken →
      .taken ∉ start.noted turns →
        ∀ r hash, last.stage.result? = some r →
          last.wallet.push? hash =
            some (.error (.closed hash))) ∧
    last.CanReturn := by
  intro start
  have hAccords :
      Accords start.log (start.marks turns) (start.logged turns)
        (start.forwarded turns) last :=
    accords_of_run rfl ⟨_, _, rfl⟩ hRun hInTime
  refine ⟨hAccords.course.in_order,
    fun hMem => (hAccords.complete hMem).2, hAccords.log,
    hAccords.started, listener_of_turns hRun, ?_,
    canReturn hAccords.course.cancelled_of_left hAccords.there⟩
  intro q hRelay hFree hUntaken r hash hReturned
  have hEnd : start.wallet.readingEnd? = some q.readingEnd :=
    Option.map_eq_some_iff.mpr ⟨q, hRelay, rfl⟩
  have hLent : start.IsLent q.readingEnd :=
    ⟨hEnd, iff_of_false hFree nofun, rfl⟩
  exact hAccords.push?_of_result hLent rfl hRun hUntaken
    hReturned hash

/- A host of a wallet in memory in which nothing was done. -/
def idle : Host :=
  ofWallet .default
    (.memory ⟨[], [], .ofCapacity 2, none, [], 0, false⟩)
    (.known .zero)

/- It is interrupted while its listener looks an id up. -/
def interrupted : List Turn :=
  [.event .listen, .use (.push "aa"), .event .openStream,
   .event .poll, .event (.answer []), .event (.listener .send),
   .event .settled, .use (.push "bb"), .event .poll,
   .event (.shutdown (some .interrupt)), .event (.answer []),
   .event (.listener .send), .event (.listener .leave),
   .event (.listener .stop), .event .join, .event .closeWallet,
   .event .finish]

/- What it logs after that it began to listen. -/
def interruptedLog : List LogLine :=
  [settledLine ⟨"aa", .pending⟩, signalLine .interrupt,
   .info "Shutdown initiated",
   .info "Background tasks completed gracefully",
   .info "Shutdown complete"]

/-
  It logs the invoice that it has taken, but not the other one,
  which is forwarded before the listener ends; and it returns.
-/
theorem returns_in_order_of_interrupted :
    ∃ last, interrupted.foldlM turn? idle = some last ∧
      last.stage.result? = some (.ok ()) ∧
      idle.logged interrupted = [⟨"aa", .pending⟩] ∧
      idle.logged interrupted <+: idle.forwarded interrupted ∧
      idle.forwarded interrupted =
        [⟨"aa", .pending⟩, ⟨"bb", .pending⟩] ∧
      last.log =
        idle.log ++ last.stage.greeting ++ interruptedLog ∧
      last.wallet.push? "late" =
        some (.error (.closed "late")) := by
  let last : Host :=
    { wallet :=
        .memory ⟨[], [], ⟨2, [], .gone⟩, none, [], 0, true⟩
      stream := none
      listener :=
        { idle.listener with
          phase := .stopped
          hostGone := true
          cancelled := true }
      stage := .finished none
      log :=
        idle.log ++ Stage.greeting (.finished none) ++
          interruptedLog }
  have hRun : interrupted.foldlM turn? idle = some last := rfl
  have hInTime : .event .timeOut ∉ interrupted := by
    simp [interrupted]
  rcases returns_in_order hRun hInTime with
    ⟨-, -, -, hStarted, -, hPush, -⟩
  exact ⟨last, hRun, rfl, rfl, hStarted, rfl, rfl,
    hPush _ rfl nofun nofun _ "late" rfl⟩

end Host

end LightningGateway
