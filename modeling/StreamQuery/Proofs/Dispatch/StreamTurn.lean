import StreamQuery.Proofs.Dispatch.Updates
/-!
# What one step of a stream can do

The step function of a stream is read once, here, and turned into a relation: one constructor for
each thing that can happen to the stream, with the condition under which it happens, and with what
becomes of the budget, the transport and the statistics. Nothing else of the dispatcher is touched,
apart from the queue of woken tasks. What holds of every run of a stream is proved from this.
-/

namespace StreamQuery.Dispatch

open Response Text

/-- The consumer went away, or nobody wants the stream any more. -/
def Dispatcher.Gone (dispatcher : Dispatcher) (task : StreamTask) : Prop :=
  dispatcher.isCancelled task.context = true ∨ task.channel.isListening = false

/-- An exchange goes on, or waits; of a response that is no success the body is read whole. -/
inductive ExchangeTurn (dispatcher : Dispatcher) (post : Post) (exchange : Exchange) :
    Exchange → Transport → Prop where
  | onward {next transport}
      (step : dispatcher.exchangeStep post exchange = (.onward next, transport)) :
      ExchangeTurn dispatcher post exchange next transport
  | blocked {next transport}
      (step : dispatcher.exchangeStep post exchange = (.blocked next, transport)) :
      ExchangeTurn dispatcher post exchange next transport
  | rejected {status body transport}
      (step : dispatcher.exchangeStep post exchange = (.head status body, transport))
      (failure : isSuccess status = false) :
      ExchangeTurn dispatcher post exchange (.collecting status body .empty) transport

/-- An exchange that opens a stream fails. -/
inductive ExchangeFailure (dispatcher : Dispatcher) (post : Post) (exchange : Exchange)
    (deadline : Nat) : RequestError → Transport → Prop where
  | failed {error transport}
      (step : dispatcher.exchangeStep post exchange = (.failed error, transport)) :
      ExchangeFailure dispatcher post exchange deadline error transport
  | rejected {status bytes transport}
      (step : dispatcher.exchangeStep post exchange = (.whole status bytes, transport)) :
      ExchangeFailure dispatcher post exchange deadline
        (.badStatus status (errorText bytes)) transport
  | late {next transport}
      (step : dispatcher.exchangeStep post exchange = (.blocked next, transport))
      (due : deadline ≤ dispatcher.now) :
      ExchangeFailure dispatcher post exchange deadline .deadlineExceeded transport

/-- A stream that waits for a new slot asks the budget. -/
inductive SlotInquiry (dispatcher : Dispatcher) (index : Nat) (task : StreamTask) :
    Budget TaskId × Bool → Prop where
  | queue {resume} (phase : task.phase = .backingOff resume) (due : resume ≤ dispatcher.now) :
      SlotInquiry dispatcher index task (dispatcher.budget.queueUp (.stream index))
  | again (phase : task.phase = .readmitting) :
      SlotInquiry dispatcher index task (dispatcher.budget.poll (.stream index))

/-- A stream that has no slot gives up its wait for one. -/
inductive SlotWaiver (dispatcher : Dispatcher) (index : Nat) (task : StreamTask) :
    Budget TaskId → Prop where
  | resting {resume} (phase : task.phase = .backingOff resume) :
      SlotWaiver dispatcher index task dispatcher.budget
  | queued (phase : task.phase = .readmitting) :
      SlotWaiver dispatcher index task (dispatcher.budget.abandon (.stream index))

/-- The next line of the body that a stream reads. -/
def NextIs (dispatcher : Dispatcher) (reading : Reading) (next : NextLine) : Prop :=
  reading.lines.take dispatcher.policy.lineLimit = next

/-- The buffer has no further line, and the body is asked for more. -/
def AsksBody (dispatcher : Dispatcher) (reading : Reading) (arrival : Arrival) : Prop :=
  NextIs dispatcher reading .awaited ∧ reading.body.poll dispatcher.now = arrival

/-- A line that holds neither blanks alone nor the final marker. -/
def IsPayload (line : String) : Prop :=
  isBlankText line = false ∧
    containsText Dispatcher.finalMarker.toList line.toList = false

/-- True for a line that does not end a stream. -/
def isUnmarked (line : String) : Bool :=
  !containsText Dispatcher.finalMarker.toList line.toList

inductive StreamTurn (dispatcher : Dispatcher) (index : Nat) (task : StreamTask) :
    StreamTask → Budget TaskId → Transport → Statistics → Prop where
  /-- The stream has ended, or it waits for something that has not come. -/
  | rest (waits : ∀ reading, task.phase ≠ .forwarding reading) :
      StreamTurn dispatcher index task task dispatcher.budget dispatcher.transport
        dispatcher.statistics
  | declined {error statistics} (phase : task.phase = .starting)
      (cause : (dispatcher.isCancelled task.context = true ∧ error = .cancelled ∧
          statistics = dispatcher.statistics) ∨
        (dispatcher.budget.take? = none ∧ error = .tooManyRequests ∧
          statistics = dispatcher.statistics.countRejection)) :
      StreamTurn dispatcher index task { task with phase := .refused error } dispatcher.budget
        dispatcher.transport statistics
  | admitted {budget deadline} (phase : task.phase = .starting)
      (took : dispatcher.budget.take? = some budget)
      (bound : deadline =
        task.context.deadlineOr dispatcher.now dispatcher.policy.requestTimeout) :
      StreamTurn dispatcher index task { task with phase := .opening .unsent deadline } budget
        dispatcher.transport dispatcher.statistics
  | opening {exchange deadline next transport} (phase : task.phase = .opening exchange deadline)
      (turn : ExchangeTurn dispatcher task.post exchange next transport) :
      StreamTurn dispatcher index task { task with phase := .opening next deadline }
        dispatcher.budget transport dispatcher.statistics
  | refused {exchange deadline error transport}
      (phase : task.phase = .opening exchange deadline)
      (cause : (dispatcher.isCancelled task.context = true ∧ error = .cancelled ∧
          transport = dispatcher.transport) ∨
        ExchangeFailure dispatcher task.post exchange deadline error transport) :
      StreamTurn dispatcher index task { task with phase := .releasing (.refused error) }
        dispatcher.budget transport dispatcher.statistics
  | opened {exchange deadline status body transport}
      (phase : task.phase = .opening exchange deadline ∨
        task.phase = .reopening exchange deadline)
      (step : dispatcher.exchangeStep task.post exchange = (.head status body, transport))
      (success : isSuccess status = true) :
      StreamTurn dispatcher index task
        { task with phase := .forwarding (.ofBody body), attempts := task.attempts + 1 }
        dispatcher.budget transport dispatcher.statistics.countStream
  /-- The consumer went away, or the stream was cancelled, while it held a slot. -/
  | left (phase : (∃ reading, task.phase = .forwarding reading) ∨
        (∃ line reading, task.phase = .handing line reading) ∨
        ∃ exchange deadline, task.phase = .reopening exchange deadline)
      (gone : dispatcher.Gone task) :
      StreamTurn dispatcher index task { task with phase := .releasing .departing }
        dispatcher.budget dispatcher.transport dispatcher.statistics
  | leftWait {budget} (waiver : SlotWaiver dispatcher index task budget)
      (gone : dispatcher.Gone task) :
      StreamTurn dispatcher index task { task with phase := .departing } budget
        dispatcher.transport dispatcher.statistics
  | expired {reading}
      (phase : task.phase = .forwarding reading ∨
        ∃ line, task.phase = .handing line reading)
      (late : dispatcher.isExpired task.context = true) :
      StreamTurn dispatcher index task
        { task with phase := .failing .deadlineExceeded (some reading.body) }
        dispatcher.budget dispatcher.transport dispatcher.statistics
  | expiredWait {budget} (waiver : SlotWaiver dispatcher index task budget)
      (late : dispatcher.isExpired task.context = true) :
      StreamTurn dispatcher index task { task with phase := .failing .deadlineExceeded none }
        budget dispatcher.transport dispatcher.statistics
  | skipped {reading line rest} (phase : task.phase = .forwarding reading)
      (next : NextIs dispatcher reading (.line line rest)) (blank : isBlankText line = true)
      (free : dispatcher.budget.isSaturated = false) :
      StreamTurn dispatcher index task
        { task with phase := .forwarding { reading with lines := rest } }
        dispatcher.budget dispatcher.transport dispatcher.statistics
  | rebalanced {reading line rest} (phase : task.phase = .forwarding reading)
      (next : NextIs dispatcher reading (.line line rest)) (blank : isBlankText line = true)
      (full : dispatcher.budget.isSaturated = true)
      (few : task.attempts ≤ dispatcher.policy.maxRebalanceRetries)
      (wanted : ¬ dispatcher.Gone task) (early : dispatcher.isExpired task.context = false) :
      StreamTurn dispatcher index task { task with phase := .releasing .backingOff }
        dispatcher.budget dispatcher.transport dispatcher.statistics.countRebalance
  | exhausted {reading line rest} (phase : task.phase = .forwarding reading)
      (next : NextIs dispatcher reading (.line line rest)) (blank : isBlankText line = true)
      (full : dispatcher.budget.isSaturated = true)
      (many : dispatcher.policy.maxRebalanceRetries < task.attempts)
      (wanted : ¬ dispatcher.Gone task) (early : dispatcher.isExpired task.context = false) :
      StreamTurn dispatcher index task
        { task with
          phase := .failing (.rebalanceExhausted task.attempts.toNat) (some reading.body) }
        dispatcher.budget dispatcher.transport dispatcher.statistics.countRebalance
  | marked {reading line rest} (phase : task.phase = .forwarding reading)
      (next : NextIs dispatcher reading (.line line rest)) (content : isBlankText line = false)
      (marker : containsText Dispatcher.finalMarker.toList line.toList = true) :
      StreamTurn dispatcher index task { task with phase := .releasing .departing }
        dispatcher.budget dispatcher.transport dispatcher.statistics
  | forwarded {reading line rest} (phase : task.phase = .forwarding reading)
      (next : NextIs dispatcher reading (.line line rest)) (payload : IsPayload line)
      (listening : task.channel.isListening = true) (room : task.channel.hasRoom = true) :
      StreamTurn dispatcher index task
        { task with
          phase := .forwarding { reading with lines := rest }
          channel := task.channel.push (.ok line) }
        dispatcher.budget dispatcher.transport dispatcher.statistics
  | stalled {reading line rest} (phase : task.phase = .forwarding reading)
      (next : NextIs dispatcher reading (.line line rest)) (payload : IsPayload line)
      (crowded : task.channel.hasRoom = false) :
      StreamTurn dispatcher index task
        { task with phase := .handing line { reading with lines := rest } }
        dispatcher.budget dispatcher.transport dispatcher.statistics
  | handed {reading line} (phase : task.phase = .handing line reading)
      (listening : task.channel.isListening = true) (room : task.channel.hasRoom = true) :
      StreamTurn dispatcher index task
        { task with phase := .forwarding reading, channel := task.channel.push (.ok line) }
        dispatcher.budget dispatcher.transport dispatcher.statistics
  | overlong {reading} (phase : task.phase = .forwarding reading)
      (next : NextIs dispatcher reading .tooLong) :
      StreamTurn dispatcher index task
        { task with
          phase := .failing (.protocol (.lineTooLong dispatcher.policy.lineLimit))
            (some reading.body) }
        dispatcher.budget dispatcher.transport dispatcher.statistics
  | finished {reading} (phase : task.phase = .forwarding reading)
      (next : NextIs dispatcher reading .finished) :
      StreamTurn dispatcher index task { task with phase := .releasing .departing }
        dispatcher.budget dispatcher.transport dispatcher.statistics
  | fed {reading bytes rest} (phase : task.phase = .forwarding reading)
      (asked : AsksBody dispatcher reading (.part bytes rest)) :
      StreamTurn dispatcher index task
        { task with phase := .forwarding ⟨rest, reading.lines.feed bytes⟩ }
        dispatcher.budget dispatcher.transport dispatcher.statistics
  | drained {reading} (phase : task.phase = .forwarding reading)
      (asked : AsksBody dispatcher reading .finished) :
      StreamTurn dispatcher index task
        { task with phase := .forwarding { reading with lines := reading.lines.finish } }
        dispatcher.budget dispatcher.transport dispatcher.statistics
  | broken {reading cause} (phase : task.phase = .forwarding reading)
      (asked : AsksBody dispatcher reading (.broken cause)) :
      StreamTurn dispatcher index task
        { task with phase := .failing (.cannotRead cause) (some reading.body) }
        dispatcher.budget dispatcher.transport dispatcher.statistics
  | awaited {reading body} (phase : task.phase = .forwarding reading)
      (asked : AsksBody dispatcher reading (.awaited body)) :
      StreamTurn dispatcher index task
        { task with phase := .forwarding { reading with body := body } }
        dispatcher.budget dispatcher.transport dispatcher.statistics
  | readmitted {asked deadline} (inquiry : SlotInquiry dispatcher index task asked)
      (granted : asked.2 = true)
      (bound : deadline =
        task.context.deadlineOr dispatcher.now dispatcher.policy.requestTimeout) :
      StreamTurn dispatcher index task { task with phase := .reopening .unsent deadline }
        asked.1 dispatcher.transport dispatcher.statistics
  | queued {asked} (inquiry : SlotInquiry dispatcher index task asked)
      (granted : asked.2 = false) :
      StreamTurn dispatcher index task { task with phase := .readmitting } asked.1
        dispatcher.transport dispatcher.statistics
  | reopening {exchange deadline next transport}
      (phase : task.phase = .reopening exchange deadline)
      (turn : ExchangeTurn dispatcher task.post exchange next transport) :
      StreamTurn dispatcher index task { task with phase := .reopening next deadline }
        dispatcher.budget transport dispatcher.statistics
  | reopenFailed {exchange deadline error transport}
      (phase : task.phase = .reopening exchange deadline)
      (failure : ExchangeFailure dispatcher task.post exchange deadline error transport)
      (other : error ≠ .cancelled) :
      StreamTurn dispatcher index task { task with phase := .releasing (.failing error) }
        dispatcher.budget transport dispatcher.statistics
  | reopenCancelled {exchange deadline transport}
      (phase : task.phase = .reopening exchange deadline)
      (step : dispatcher.exchangeStep task.post exchange = (.failed .cancelled, transport)) :
      StreamTurn dispatcher index task { task with phase := .releasing .departing }
        dispatcher.budget transport dispatcher.statistics
  | deserted {error held phase} (failing : task.phase = .failing error held)
      (gone : task.channel.isListening = false)
      (leaves : phase = if held.isSome then .releasing .departing else .departing) :
      StreamTurn dispatcher index task { task with phase := phase } dispatcher.budget
        dispatcher.transport dispatcher.statistics
  | failed {error held phase} (failing : task.phase = .failing error held)
      (listening : task.channel.isListening = true) (room : task.channel.hasRoom = true)
      (leaves : phase = if held.isSome then .releasing .departing else .departing) :
      StreamTurn dispatcher index task
        { task with phase := phase, channel := task.channel.push (.error error) }
        dispatcher.budget dispatcher.transport dispatcher.statistics
  | released {departure} (phase : task.phase = .releasing departure) :
      StreamTurn dispatcher index task
        { task with
          phase := departure.phase dispatcher.now dispatcher.policy.rebalanceBackoff }
        dispatcher.budget.release dispatcher.transport dispatcher.statistics
  | ended (phase : task.phase = .departing) :
      StreamTurn dispatcher index task
        { task with phase := .ended, channel := task.channel.finish }
        dispatcher.budget dispatcher.transport dispatcher.statistics

namespace Dispatcher

/-- A state in which one stream has taken a step, and nothing else has changed but the queue of
woken tasks. -/
def StreamTurned (index : Nat) (task : StreamTask) (before after : Dispatcher) : Prop :=
  ∃ turned budget transport statistics ready,
    StreamTurn before index task turned budget transport statistics ∧
      after = { before with
        streams := before.streams.set index turned
        budget := budget
        transport := transport
        statistics := statistics
        ready := ready }

variable {dispatcher : Dispatcher} {index : Nat} {task : StreamTask}

theorem listening_of_wanted (wanted : ¬ dispatcher.Gone task) :
    task.channel.isListening = true := by
  cases listening : task.channel.isListening with
  | true => rfl
  | false => exact absurd (.inr listening) wanted

theorem turned_rest (found : dispatcher.streams[index]? = some task)
    (waits : ∀ reading, task.phase ≠ .forwarding reading) :
    StreamTurned index task dispatcher dispatcher := by
  refine ⟨task, _, _, dispatcher.statistics, dispatcher.ready, .rest waits, ?_⟩
  obtain ⟨bound, rfl⟩ := List.getElem?_eq_some_iff.mp found
  rw [List.set_getElem_self]

theorem stepStarting_turn (found : dispatcher.streams[index]? = some task)
    (phase : task.phase = .starting) :
    StreamTurned index task dispatcher (dispatcher.stepStarting index task).1 := by
  have free : task.holdsSlot = false := by simp [StreamTask.holdsSlot, phase]
  unfold stepStarting
  split
  · next cancelled =>
      simp only [refuseStream, departStream, free, setStream, modifyStream, modify_found found]
      exact ⟨_, _, _, _, _, .declined phase (.inl ⟨cancelled, rfl, rfl⟩), rfl⟩
  · split
    · next none =>
        simp only [refuseStream, departStream, free, setStream, modifyStream,
          modify_found found, count]
        exact ⟨_, _, _, _, _, .declined phase (.inr ⟨none, rfl, rfl⟩), rfl⟩
    · next budget took =>
        simp only [setBudget_eq, setStream, modifyStream, modify_found found]
        exact ⟨_, _, _, _, _, .admitted phase took rfl, rfl⟩

theorem stepOpening_turn {exchange : Exchange} {deadline : Nat}
    (found : dispatcher.streams[index]? = some task)
    (phase : task.phase = .opening exchange deadline) :
    StreamTurned index task dispatcher
      (dispatcher.stepOpening index task exchange deadline).1 := by
  have holds : task.holdsSlot = true := by simp [StreamTask.holdsSlot, phase]
  unfold stepOpening
  split
  · next cancelled =>
      simp only [refuseStream, departStream, holds, setStream, modifyStream,
        modify_found found, if_true]
      exact ⟨_, _, _, _, _, .refused phase (.inl ⟨cancelled, rfl, rfl⟩), rfl⟩
  · obtain ⟨step, transport, same⟩ : ∃ step transport,
        dispatcher.exchangeStep task.post exchange = (step, transport) := ⟨_, _, rfl⟩
    have stepped := same
    unfold exchangeStep at stepped
    rw [stepped]
    cases step with
    | onward next =>
        simp only [setStream, modifyStream, modify_found found]
        exact ⟨_, _, _, _, _, .opening phase (.onward same), rfl⟩
    | head status body =>
        simp only
        split
        · next success =>
            simp only [forwardFrom, wake_eq, modifyStream, modify_found found, count]
            exact ⟨_, _, _, _, _, .opened (.inl phase) same success, rfl⟩
        · next failure =>
            simp only [setStream, modifyStream, modify_found found]
            exact ⟨_, _, _, _, _, .opening phase (.rejected same (by simpa using failure)), rfl⟩
    | failed error =>
        simp only [refuseStream, departStream, holds, setStream, modifyStream,
          modify_found found, if_true]
        exact ⟨_, _, _, _, _, .refused phase (.inr (.failed same)), rfl⟩
    | whole status bytes =>
        simp only [refuseStream, departStream, holds, setStream, modifyStream,
          modify_found found, if_true]
        exact ⟨_, _, _, _, _, .refused phase (.inr (.rejected same)), rfl⟩
    | blocked next =>
        simp only
        split
        · next due =>
            simp only [refuseStream, departStream, holds, setStream, modifyStream,
              modify_found found, if_true]
            exact ⟨_, _, _, _, _, .refused phase (.inr (.late same due)), rfl⟩
        · simp only [setStream, modifyStream, modify_found found]
          exact ⟨_, _, _, _, _, .opening phase (.blocked same), rfl⟩

theorem rebalance_turn {reading : Reading} {line : String} {rest : LineBuffer}
    (found : dispatcher.streams[index]? = some task)
    (phase : task.phase = .forwarding reading)
    (wanted : ¬ dispatcher.Gone task) (early : dispatcher.isExpired task.context = false)
    (next : NextIs dispatcher reading (.line line rest)) (blank : isBlankText line = true)
    (full : dispatcher.budget.isSaturated = true) :
    StreamTurned index task dispatcher
      (dispatcher.rebalance index task { reading with lines := rest }).1 := by
  have holds : task.holdsSlot = true := by simp [StreamTask.holdsSlot, phase]
  unfold rebalance
  simp only [count]
  split
  · next many =>
      simp only [failHolding, setStream, modifyStream, modify_found found]
      exact ⟨_, _, _, _, _, .exhausted phase next blank full many wanted early, rfl⟩
  · next few =>
      simp only [departStream, holds, setStream, modifyStream, modify_found found, if_true]
      have few := UInt32.not_lt.mp few
      exact ⟨_, _, _, _, _, .rebalanced phase next blank full few wanted early, rfl⟩

theorem stepLine_turn {reading : Reading} {line : String} {rest : LineBuffer}
    (found : dispatcher.streams[index]? = some task)
    (phase : task.phase = .forwarding reading)
    (wanted : ¬ dispatcher.Gone task) (early : dispatcher.isExpired task.context = false)
    (next : NextIs dispatcher reading (.line line rest)) :
    StreamTurned index task dispatcher
      (dispatcher.stepLine index task line { reading with lines := rest }).1 := by
  have holds : task.holdsSlot = true := by simp [StreamTask.holdsSlot, phase]
  unfold stepLine
  split
  · next blank =>
      split
      · next full => exact rebalance_turn found phase wanted early next blank full
      · next free =>
          simp only [setStream, modifyStream, modify_found found]
          exact ⟨_, _, _, _, _, .skipped phase next blank (by simpa using free), rfl⟩
  · next content =>
      have content : isBlankText line = false := by simpa using content
      split
      · next marker =>
          simp only [endStream, departStream, holds, setStream, modifyStream,
            modify_found found, if_true]
          exact ⟨_, _, _, _, _, .marked phase next content marker, rfl⟩
      · next unmarked =>
          have payload : IsPayload line := ⟨content, by simpa using unmarked⟩
          have listening := listening_of_wanted wanted
          split
          · next room =>
              simp only [modifyStream, modify_found found]
              exact ⟨_, _, _, _, _, .forwarded phase next payload listening room, rfl⟩
          · next crowded =>
              simp only [setStream, modifyStream, modify_found found]
              exact ⟨_, _, _, _, _, .stalled phase next payload (by simpa using crowded), rfl⟩

theorem stepReading_turn {reading : Reading}
    (found : dispatcher.streams[index]? = some task)
    (phase : task.phase = .forwarding reading)
    (wanted : ¬ dispatcher.Gone task) (early : dispatcher.isExpired task.context = false) :
    StreamTurned index task dispatcher (dispatcher.stepReading index task reading).1 := by
  have holds : task.holdsSlot = true := by simp [StreamTask.holdsSlot, phase]
  unfold stepReading
  simp only
  split
  · next line rest next => exact stepLine_turn found phase wanted early next
  · next next =>
      simp only [failHolding, setStream, modifyStream, modify_found found]
      exact ⟨_, _, _, _, _, .overlong phase next, rfl⟩
  · next next =>
      simp only [endStream, departStream, holds, setStream, modifyStream,
        modify_found found, if_true]
      exact ⟨_, _, _, _, _, .finished phase next, rfl⟩
  · next next =>
      split
      · next bytes rest arrival =>
          simp only [setStream, modifyStream, modify_found found]
          exact ⟨_, _, _, _, _, .fed phase ⟨next, arrival⟩, rfl⟩
      · next arrival =>
          simp only [setStream, modifyStream, modify_found found]
          exact ⟨_, _, _, _, _, .drained phase ⟨next, arrival⟩, rfl⟩
      · next cause arrival =>
          simp only [failHolding, setStream, modifyStream, modify_found found]
          exact ⟨_, _, _, _, _, .broken phase ⟨next, arrival⟩, rfl⟩
      · next body arrival =>
          simp only [setStream, modifyStream, modify_found found]
          exact ⟨_, _, _, _, _, .awaited phase ⟨next, arrival⟩, rfl⟩

theorem stepHanding_turn {reading : Reading} {line : String}
    (found : dispatcher.streams[index]? = some task)
    (phase : task.phase = .handing line reading)
    (listening : task.channel.isListening = true) :
    StreamTurned index task dispatcher (dispatcher.stepHanding index task line reading).1 := by
  unfold stepHanding
  split
  · next room =>
      simp only [modifyStream, modify_found found]
      exact ⟨_, _, _, _, _, .handed phase listening room, rfl⟩
  · exact turned_rest found (by simp [phase])

/-- After an error was handed over, or could not be, the slot is given back if there is one. -/
theorem endStream_failing {error : RequestError} {held : Option Body} {other : Dispatcher}
    {changed : StreamTask} (found : other.streams[index]? = some changed)
    (phase : task.phase = .failing error held) :
    other.endStream index task =
      { other with
        streams := other.streams.set index { changed with
          phase := if held.isSome then .releasing .departing else .departing } } := by
  unfold endStream departStream
  cases held with
  | none =>
      simp only [StreamTask.holdsSlot, phase, setStream, modifyStream, modify_found found,
        Departure.phase]
      rfl
  | some body =>
      simp only [StreamTask.holdsSlot, phase, setStream, modifyStream, modify_found found]
      rfl

theorem stepFailing_turn {error : RequestError} {held : Option Body}
    (found : dispatcher.streams[index]? = some task)
    (phase : task.phase = .failing error held) :
    StreamTurned index task dispatcher (dispatcher.stepFailing index task error).1 := by
  unfold stepFailing
  split
  · next gone =>
      rw [endStream_failing found phase]
      exact ⟨_, _, _, _, _, .deserted phase (by simpa using gone) rfl, rfl⟩
  · next listening =>
      split
      · next room =>
          have bound := (List.getElem?_eq_some_iff.mp found).1
          have pushed : (dispatcher.modifyStream index fun task =>
              { task with channel := task.channel.push (.error error) }).streams[index]? =
                some { task with channel := task.channel.push (.error error) } := by
            simp only [modifyStream, modify_found found]
            exact List.getElem?_set_self bound
          rw [endStream_failing pushed phase]
          simp only [modifyStream, modify_found found, List.set_set]
          exact ⟨_, _, _, _, _, .failed phase (by simpa using listening) room rfl, rfl⟩
      · exact turned_rest found (by simp [phase])

theorem readmit_turn {asked : Budget TaskId × Bool}
    (found : dispatcher.streams[index]? = some task)
    (inquiry : SlotInquiry dispatcher index task asked) :
    StreamTurned index task dispatcher (dispatcher.readmit index task asked).1 := by
  unfold readmit
  simp only
  split
  · next granted =>
      simp only [setBudget_eq, setStream, modifyStream, modify_found found]
      exact ⟨_, _, _, _, _, .readmitted inquiry granted rfl, rfl⟩
  · next refused =>
      simp only [setBudget_eq, setStream, modifyStream, modify_found found]
      exact ⟨_, _, _, _, _, .queued inquiry (by simpa using refused), rfl⟩

theorem stepReopening_turn {exchange : Exchange} {deadline : Nat}
    (found : dispatcher.streams[index]? = some task)
    (phase : task.phase = .reopening exchange deadline) :
    StreamTurned index task dispatcher
      (dispatcher.stepReopening index task exchange deadline).1 := by
  have holds : task.holdsSlot = true := by simp [StreamTask.holdsSlot, phase]
  unfold stepReopening
  obtain ⟨step, transport, same⟩ : ∃ step transport,
      dispatcher.exchangeStep task.post exchange = (step, transport) := ⟨_, _, rfl⟩
  have stepped := same
  unfold exchangeStep at stepped
  rw [stepped]
  have failing {error : RequestError}
      (failure : ExchangeFailure dispatcher task.post exchange deadline error transport)
      (other : error ≠ .cancelled) :
      StreamTurned index task dispatcher
        ({ dispatcher with transport := transport }.failReleasing index task error).1 := by
    simp only [failReleasing, departStream, holds, setStream, modifyStream,
      modify_found found, if_true]
    exact ⟨_, _, _, _, _, .reopenFailed phase failure other, rfl⟩
  cases step with
  | onward next =>
      simp only [setStream, modifyStream, modify_found found]
      exact ⟨_, _, _, _, _, .reopening phase (.onward same), rfl⟩
  | head status body =>
      simp only
      split
      · next success =>
          simp only [forwardFrom, modifyStream, modify_found found, count]
          exact ⟨_, _, _, _, _, .opened (.inr phase) same success, rfl⟩
      · next failure =>
          simp only [setStream, modifyStream, modify_found found]
          exact ⟨_, _, _, _, _, .reopening phase (.rejected same (by simpa using failure)), rfl⟩
  | failed error =>
      cases error
      case cancelled =>
        simp only [endStream, departStream, holds, setStream, modifyStream,
          modify_found found, if_true]
        exact ⟨_, _, _, _, _, .reopenCancelled phase same, rfl⟩
      all_goals exact failing (.failed same) (by simp)
  | whole status bytes => exact failing (.rejected same) (by simp)
  | blocked next =>
      simp only
      split
      · next due => exact failing (.late same due) (by simp [RequestError.deadlineExceeded])
      · simp only [setStream, modifyStream, modify_found found]
        exact ⟨_, _, _, _, _, .reopening phase (.blocked same), rfl⟩

/-- A stream that holds a slot ends when nobody wants it any more. -/
theorem endStream_turn (found : dispatcher.streams[index]? = some task)
    (holds : task.holdsSlot = true)
    (phase : (∃ reading, task.phase = .forwarding reading) ∨
      (∃ line reading, task.phase = .handing line reading) ∨
      ∃ exchange deadline, task.phase = .reopening exchange deadline)
    (gone : dispatcher.Gone task) :
    StreamTurned index task dispatcher (dispatcher.endStream index task) := by
  simp only [endStream, departStream, holds, setStream, modifyStream, modify_found found, if_true]
  exact ⟨_, _, _, _, _, .left phase gone, rfl⟩

theorem failHolding_turn {reading : Reading} (found : dispatcher.streams[index]? = some task)
    (phase : task.phase = .forwarding reading ∨ ∃ line, task.phase = .handing line reading)
    (late : dispatcher.isExpired task.context = true) :
    StreamTurned index task dispatcher
      (dispatcher.failHolding index .deadlineExceeded reading.body).1 := by
  simp only [failHolding, setStream, modifyStream, modify_found found]
  exact ⟨_, _, _, _, _, .expired phase late, rfl⟩

/-- Every step of a stream is one of the turns. -/
theorem stepStream_turn (found : dispatcher.streams[index]? = some task) :
    StreamTurned index task dispatcher (dispatcher.stepStream index).1 := by
  have goneOf (gone : (dispatcher.isCancelled task.context || !task.channel.isListening) = true) :
      dispatcher.Gone task := by
    simpa [Gone] using gone
  have wantedOf
      (wanted : ¬ (dispatcher.isCancelled task.context || !task.channel.isListening) = true) :
      ¬ dispatcher.Gone task := by
    simpa [Gone] using wanted
  unfold stepStream
  rw [found]
  simp only
  split
  · next phase => exact turned_rest found (by simp [phase])
  · next phase => exact turned_rest found (by simp [phase])
  · next phase => exact stepStarting_turn found phase
  · next exchange deadline phase => exact stepOpening_turn found phase
  · next reading phase =>
      have holds : task.holdsSlot = true := by simp [StreamTask.holdsSlot, phase]
      split
      · next gone => exact endStream_turn found holds (.inl ⟨_, phase⟩) (goneOf gone)
      · next wanted =>
          split
          · next late => exact failHolding_turn found (.inl phase) late
          · next early =>
              exact stepReading_turn found phase (wantedOf wanted) (by simpa using early)
  · next line reading phase =>
      have holds : task.holdsSlot = true := by simp [StreamTask.holdsSlot, phase]
      split
      · next gone => exact endStream_turn found holds (.inr (.inl ⟨_, _, phase⟩)) (goneOf gone)
      · next wanted =>
          split
          · next late => exact failHolding_turn found (.inr ⟨_, phase⟩) late
          · exact stepHanding_turn found phase (listening_of_wanted (wantedOf wanted))
  · next resume phase =>
      have free : task.holdsSlot = false := by simp [StreamTask.holdsSlot, phase]
      split
      · next gone =>
          simp only [endStream, departStream, free, setStream, modifyStream, modify_found found]
          exact ⟨_, _, _, _, _, .leftWait (.resting phase) (goneOf gone), rfl⟩
      · split
        · next late =>
            simp only [failReleasing, departStream, free, setStream, modifyStream,
              modify_found found]
            exact ⟨_, _, _, _, _, .expiredWait (.resting phase) late, rfl⟩
        · split
          · next due => exact readmit_turn found (.queue phase due)
          · exact turned_rest found (by simp [phase])
  · next phase =>
      have free : task.holdsSlot = false := by simp [StreamTask.holdsSlot, phase]
      split
      · next gone =>
          simp only [leaveQueue, setBudget_eq, endStream, departStream, free, setStream,
            modifyStream, modify_found found]
          exact ⟨_, _, _, _, _, .leftWait (.queued phase) (goneOf gone), rfl⟩
      · split
        · next late =>
            simp only [leaveQueue, setBudget_eq, failReleasing, departStream, free, setStream,
              modifyStream, modify_found found]
            exact ⟨_, _, _, _, _, .expiredWait (.queued phase) late, rfl⟩
        · exact readmit_turn found (.again phase)
  · next exchange deadline phase =>
      have holds : task.holdsSlot = true := by simp [StreamTask.holdsSlot, phase]
      split
      · next gone => exact endStream_turn found holds (.inr (.inr ⟨_, _, phase⟩)) (goneOf gone)
      · exact stepReopening_turn found phase
  · next error held phase => exact stepFailing_turn found phase
  · next departure phase =>
      simp only [stepReleasing, release_eq, setStream, modifyStream, modify_found found]
      exact ⟨_, _, _, _, _, .released phase, rfl⟩
  · next phase =>
      simp only [stepDeparting, modifyStream, modify_found found]
      exact ⟨_, _, _, _, _, .ended phase, rfl⟩

end Dispatcher

end StreamQuery.Dispatch
