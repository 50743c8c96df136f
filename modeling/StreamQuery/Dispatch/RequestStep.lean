import StreamQuery.Dispatch.Dispatcher
/-!
# Steps of a request

A request takes a slot, waiting behind the admission lock where it must, sends its statement and
reads the response whole. Before each wait it looks at its cancellation first; a deadline counts
only when nothing else can go on. The response is closed before the slot is given back.
-/

namespace StreamQuery.Dispatch.Dispatcher

/-- True after a step by which the task went on and may go on at once. -/
abbrev Progress := Bool

def finishRequest (index : Nat) (result : Except RequestError ByteArray)
    (dispatcher : Dispatcher) : Dispatcher :=
  dispatcher.setRequest index (.finished result)

/-- Closes the response of a request. -/
def closeRequest (index : Nat) (result : Except RequestError ByteArray)
    (dispatcher : Dispatcher) : Dispatcher :=
  dispatcher.setRequest index (.leaving result)

/-- Gives back the slot of a request and finishes it. -/
def settleRequest (index : Nat) (result : Except RequestError ByteArray)
    (dispatcher : Dispatcher) : Dispatcher :=
  let released := (dispatcher.finishRequest index result).release
  match result with
  | .ok _ => released.count Statistics.countStatement
  | .error _ => released

/-- A request that has a slot goes on; one that has none waits. -/
def admitRequest (index : Nat) (asked : Budget TaskId × Bool) (dispatcher : Dispatcher) :
    Dispatcher × Progress :=
  let (budget, granted) := asked
  if granted then
    ((dispatcher.setBudget budget).setRequest index (.exchanging .unsent), true)
  else
    ((dispatcher.setBudget budget).setRequest index .waiting, false)

/-- Ends the wait of a request for a slot. -/
def abandonRequest (index : Nat) (error : RequestError) (dispatcher : Dispatcher) : Dispatcher :=
  (dispatcher.finishRequest index (.error error)).setBudget
    (dispatcher.budget.abandon (.request index))

/-- A request goes on with its exchange. -/
def exchangeRequest (index : Nat) (task : RequestTask) (exchange : Exchange)
    (dispatcher : Dispatcher) : Dispatcher × Progress :=
  let policy := dispatcher.policy
  let (step, transport) :=
    exchange.step dispatcher.now policy.bodyLimit task.post dispatcher.transport
  let sent := { dispatcher with transport := transport }
  match step with
  | .onward next => (sent.setRequest index (.exchanging next), true)
  | .head status body =>
      (sent.setRequest index (.exchanging (.collecting status body .empty)), true)
  | .failed error => (sent.closeRequest index (.error error), true)
  | .whole status bytes => (sent.closeRequest index (wholeResult status bytes), true)
  | .blocked next =>
      if task.deadline ≤ dispatcher.now then
        (sent.closeRequest index (.error .deadlineExceeded), true)
      else
        (sent.setRequest index (.exchanging next), false)

/-- One step of the request at an index. -/
def stepRequest (index : Nat) (dispatcher : Dispatcher) : Dispatcher × Progress :=
  match dispatcher.requests[index]? with
  | none => (dispatcher, false)
  | some task =>
      let cancelled := dispatcher.isCancelled task.context
      let late := task.deadline ≤ dispatcher.now
      match task.phase with
      | .finished _ | .aborted => (dispatcher, false)
      | .asking =>
          if cancelled then (dispatcher.finishRequest index (.error .cancelled), true)
          else if late then (dispatcher.finishRequest index (.error .deadlineExceeded), true)
          else dispatcher.admitRequest index (dispatcher.budget.acquire (.request index))
      | .waiting =>
          if cancelled then (dispatcher.abandonRequest index .cancelled, true)
          else if late then (dispatcher.abandonRequest index .deadlineExceeded, true)
          else dispatcher.admitRequest index (dispatcher.budget.poll (.request index))
      | .exchanging exchange =>
          if cancelled then (dispatcher.closeRequest index (.error .cancelled), true)
          else dispatcher.exchangeRequest index task exchange
      | .leaving result => (dispatcher.settleRequest index result, true)

end StreamQuery.Dispatch.Dispatcher
