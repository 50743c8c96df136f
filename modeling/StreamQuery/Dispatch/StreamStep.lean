import StreamQuery.Dispatch.RequestStep
/-!
# Steps of a stream

A stream takes a free slot or is refused. While it reads, every line that is not blank goes to its
channel, and a line with the final marker ends it. A blank line seen while no slot is free makes it
give up its own: it backs off, queues for a new slot and sends its statement again, a limited number
of times. Before each step it looks at its cancellation, then at its consumer, then at its deadline.
Whichever way it ends, it closes its response first, then gives back its slot, then ends its channel.
-/

namespace StreamQuery.Dispatch.Dispatcher

open Response Text

/-- What a line holds that ends a stream. -/
def finalMarker : String := "finalMessage"

/-- The reason that the engine gives when a query's limit is reached. -/
def limitReached : String := "Limit Reached"

/-- The reason that the engine gives when a query has completed. -/
def queryCompleted : String := "Query Completed"

/-- Closes the response of a stream and leaves in some way; a slot is given back first. -/
def departStream (index : Nat) (task : StreamTask) (departure : Departure)
    (dispatcher : Dispatcher) : Dispatcher :=
  if task.holdsSlot then dispatcher.setStream index (.releasing departure)
  else
    dispatcher.setStream index
      (departure.phase dispatcher.now dispatcher.policy.rebalanceBackoff)

/-- Ends a stream, which gives back its slot if it has one. -/
def endStream (index : Nat) (task : StreamTask) : Dispatcher → Dispatcher :=
  departStream index task .departing

/-- Refuses to open a stream; the slot is given back if one was taken. -/
def refuseStream (index : Nat) (task : StreamTask) (error : RequestError) :
    Dispatcher → Dispatcher :=
  departStream index task (.refused error)

/-- Gives back the slot of a stream whose response is closed. -/
def stepReleasing (index : Nat) (departure : Departure) (dispatcher : Dispatcher) :
    Dispatcher × Progress :=
  let phase := departure.phase dispatcher.now dispatcher.policy.rebalanceBackoff
  ((dispatcher.setStream index phase).release, true)

/-- Ends the channel of a stream. -/
def stepDeparting (index : Nat) (dispatcher : Dispatcher) : Dispatcher × Progress :=
  (dispatcher.modifyStream index fun task =>
    { task with phase := .ended, channel := task.channel.finish }, true)

def stepStarting (index : Nat) (task : StreamTask) (dispatcher : Dispatcher) :
    Dispatcher × Progress :=
  if dispatcher.isCancelled task.context then
    (dispatcher.refuseStream index task .cancelled, true)
  else
    match dispatcher.budget.take? with
    | none =>
        ((dispatcher.refuseStream index task .tooManyRequests).count Statistics.countRejection,
          true)
    | some budget =>
        let deadline :=
          task.context.deadlineOr dispatcher.now dispatcher.policy.requestTimeout
        ((dispatcher.setBudget budget).setStream index (.opening .unsent deadline), true)

/-- Begins to forward the lines of a body. -/
def forwardFrom (index : Nat) (body : Body) (dispatcher : Dispatcher) : Dispatcher :=
  (dispatcher.modifyStream index fun task =>
    { task with phase := .forwarding (.ofBody body), attempts := task.attempts + 1 }).count
    Statistics.countStream

/-- Goes on with the exchange that opens a stream. A new stream is woken anew, behind the tasks that
wait already. -/
def stepOpening (index : Nat) (task : StreamTask) (exchange : Exchange) (deadline : Nat)
    (dispatcher : Dispatcher) : Dispatcher × Progress :=
  if dispatcher.isCancelled task.context then
    (dispatcher.refuseStream index task .cancelled, true)
  else
    let (step, transport) :=
      exchange.step dispatcher.now dispatcher.policy.bodyLimit task.post dispatcher.transport
    let sent := { dispatcher with transport := transport }
    match step with
    | .onward next => (sent.setStream index (.opening next deadline), true)
    | .head status body =>
        if isSuccess status then ((sent.forwardFrom index body).wake (.stream index), false)
        else (sent.setStream index (.opening (.collecting status body .empty) deadline), true)
    | .failed error => (sent.refuseStream index task error, true)
    | .whole status bytes =>
        (sent.refuseStream index task (.badStatus status (errorText bytes)), true)
    | .blocked next =>
        if deadline ≤ dispatcher.now then
          (sent.refuseStream index task .deadlineExceeded, true)
        else
          (sent.setStream index (.opening next deadline), false)

/-- Fails a stream that has its slot; slot and body are kept until the error is handed over. -/
def failHolding (index : Nat) (error : RequestError) (body : Body) (dispatcher : Dispatcher) :
    Dispatcher × Progress :=
  (dispatcher.setStream index (.failing error (some body)), true)

/-- Fails a stream and gives back its slot if it has one. -/
def failReleasing (index : Nat) (task : StreamTask) (error : RequestError)
    (dispatcher : Dispatcher) : Dispatcher × Progress :=
  (dispatcher.departStream index task (.failing error), true)

/-- Aborts a stream that saw a blank line while no slot was free. -/
def rebalance (index : Nat) (task : StreamTask) (reading : Reading) (dispatcher : Dispatcher) :
    Dispatcher × Progress :=
  let counted := dispatcher.count Statistics.countRebalance
  if dispatcher.policy.maxRebalanceRetries < task.attempts then
    counted.failHolding index (.rebalanceExhausted task.attempts.toNat) reading.body
  else
    (counted.departStream index task .backingOff, true)

/-- Deals with a line that was read. -/
def stepLine (index : Nat) (task : StreamTask) (line : String) (reading : Reading)
    (dispatcher : Dispatcher) : Dispatcher × Progress :=
  if isBlankText line then
    if dispatcher.budget.isSaturated then dispatcher.rebalance index task reading
    else (dispatcher.setStream index (.forwarding reading), true)
  else if containsText finalMarker.toList line.toList then
    (dispatcher.endStream index task, true)
  else if task.channel.hasRoom then
    (dispatcher.modifyStream index fun task =>
      { task with phase := .forwarding reading, channel := task.channel.push (.ok line) }, true)
  else
    (dispatcher.setStream index (.handing line reading), false)

/-- Reads on in a body. -/
def stepReading (index : Nat) (task : StreamTask) (reading : Reading) (dispatcher : Dispatcher) :
    Dispatcher × Progress :=
  let limit := dispatcher.policy.lineLimit
  match reading.lines.take limit with
  | .line line rest => dispatcher.stepLine index task line { reading with lines := rest }
  | .tooLong => dispatcher.failHolding index (.protocol (.lineTooLong limit)) reading.body
  | .finished => (dispatcher.endStream index task, true)
  | .awaited =>
      match reading.body.poll dispatcher.now with
      | .part bytes rest =>
          (dispatcher.setStream index (.forwarding ⟨rest, reading.lines.feed bytes⟩), true)
      | .finished =>
          (dispatcher.setStream index (.forwarding { reading with lines := reading.lines.finish }),
            true)
      | .broken cause => dispatcher.failHolding index (.cannotRead cause) reading.body
      | .awaited body =>
          (dispatcher.setStream index (.forwarding { reading with body := body }), false)

/-- Goes on with a line that waits for room. -/
def stepHanding (index : Nat) (task : StreamTask) (line : String) (reading : Reading)
    (dispatcher : Dispatcher) : Dispatcher × Progress :=
  if task.channel.hasRoom then
    (dispatcher.modifyStream index fun task =>
      { task with phase := .forwarding reading, channel := task.channel.push (.ok line) }, true)
  else
    (dispatcher, false)

/-- Hands over the error of a stream, and ends the stream by it. -/
def stepFailing (index : Nat) (task : StreamTask) (error : RequestError)
    (dispatcher : Dispatcher) : Dispatcher × Progress :=
  if !task.channel.isListening then
    (dispatcher.endStream index task, true)
  else if task.channel.hasRoom then
    ((dispatcher.modifyStream index fun task =>
      { task with channel := task.channel.push (.error error) }).endStream index task, true)
  else
    (dispatcher, false)

/-- A stream that has a new slot sends its statement again; one that has none waits. -/
def readmit (index : Nat) (task : StreamTask) (asked : Budget TaskId × Bool)
    (dispatcher : Dispatcher) : Dispatcher × Progress :=
  let (budget, granted) := asked
  if granted then
    let deadline := task.context.deadlineOr dispatcher.now dispatcher.policy.requestTimeout
    ((dispatcher.setBudget budget).setStream index (.reopening .unsent deadline), true)
  else
    ((dispatcher.setBudget budget).setStream index .readmitting, false)

/-- Gives up the wait for a new slot. -/
def leaveQueue (index : Nat) (dispatcher : Dispatcher) : Dispatcher :=
  dispatcher.setBudget (dispatcher.budget.abandon (.stream index))

/-- Goes on with the exchange that opens a stream again. -/
def stepReopening (index : Nat) (task : StreamTask) (exchange : Exchange) (deadline : Nat)
    (dispatcher : Dispatcher) : Dispatcher × Progress :=
  let (step, transport) :=
    exchange.step dispatcher.now dispatcher.policy.bodyLimit task.post dispatcher.transport
  let sent := { dispatcher with transport := transport }
  match step with
  | .onward next => (sent.setStream index (.reopening next deadline), true)
  | .head status body =>
      if isSuccess status then (sent.forwardFrom index body, true)
      else (sent.setStream index (.reopening (.collecting status body .empty) deadline), true)
  | .failed .cancelled => (sent.endStream index task, true)
  | .failed error => sent.failReleasing index task error
  | .whole status bytes =>
      sent.failReleasing index task (.badStatus status (errorText bytes))
  | .blocked next =>
      if deadline ≤ dispatcher.now then sent.failReleasing index task .deadlineExceeded
      else (sent.setStream index (.reopening next deadline), false)

/-- One step of the stream at an index. -/
def stepStream (index : Nat) (dispatcher : Dispatcher) : Dispatcher × Progress :=
  match dispatcher.streams[index]? with
  | none => (dispatcher, false)
  | some task =>
      let gone := dispatcher.isCancelled task.context || !task.channel.isListening
      let expired := dispatcher.isExpired task.context
      match task.phase with
      | .refused _ | .ended => (dispatcher, false)
      | .starting => dispatcher.stepStarting index task
      | .opening exchange deadline => dispatcher.stepOpening index task exchange deadline
      | .forwarding reading =>
          if gone then (dispatcher.endStream index task, true)
          else if expired then dispatcher.failHolding index .deadlineExceeded reading.body
          else dispatcher.stepReading index task reading
      | .handing line reading =>
          if gone then (dispatcher.endStream index task, true)
          else if expired then dispatcher.failHolding index .deadlineExceeded reading.body
          else dispatcher.stepHanding index task line reading
      | .backingOff resume =>
          if gone then (dispatcher.endStream index task, true)
          else if expired then dispatcher.failReleasing index task .deadlineExceeded
          else if resume ≤ dispatcher.now then
            dispatcher.readmit index task (dispatcher.budget.queueUp (.stream index))
          else (dispatcher, false)
      | .readmitting =>
          if gone then ((dispatcher.leaveQueue index).endStream index task, true)
          else if expired then
            (dispatcher.leaveQueue index).failReleasing index task .deadlineExceeded
          else dispatcher.readmit index task (dispatcher.budget.poll (.stream index))
      | .reopening exchange deadline =>
          if gone then (dispatcher.endStream index task, true)
          else dispatcher.stepReopening index task exchange deadline
      | .failing error _ => dispatcher.stepFailing index task error
      | .releasing departure => dispatcher.stepReleasing index departure
      | .departing => dispatcher.stepDeparting index

end StreamQuery.Dispatch.Dispatcher
