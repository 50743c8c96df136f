import StreamQuery.Proofs.Dispatch.Updates
/-!
# What one step of a request can do

The counterpart for requests that are read whole: one constructor for each thing that a step can do,
with the condition under which it happens and what becomes of budget and transport.
-/

namespace StreamQuery.Dispatch

open Response

/-- Why a request that has a slot closes its response, and with which result. -/
inductive RequestEnd (dispatcher : Dispatcher) (task : RequestTask) (exchange : Exchange) :
    Except RequestError ByteArray → Transport → Prop where
  | cancelled (raised : dispatcher.isCancelled task.context = true) :
      RequestEnd dispatcher task exchange (.error .cancelled) dispatcher.transport
  | failed {error transport}
      (step : dispatcher.exchangeStep task.post exchange = (.failed error, transport)) :
      RequestEnd dispatcher task exchange (.error error) transport
  | whole {status bytes transport}
      (step : dispatcher.exchangeStep task.post exchange = (.whole status bytes, transport)) :
      RequestEnd dispatcher task exchange (wholeResult status bytes) transport
  | late {next transport}
      (step : dispatcher.exchangeStep task.post exchange = (.blocked next, transport))
      (due : task.deadline ≤ dispatcher.now) :
      RequestEnd dispatcher task exchange (.error .deadlineExceeded) transport

/-- The exchange of a request goes on, or waits; the body of every response is read whole. -/
inductive RequestExchange (dispatcher : Dispatcher) (task : RequestTask) (exchange : Exchange) :
    Exchange → Transport → Prop where
  | onward {next transport}
      (step : dispatcher.exchangeStep task.post exchange = (.onward next, transport)) :
      RequestExchange dispatcher task exchange next transport
  | blocked {next transport}
      (step : dispatcher.exchangeStep task.post exchange = (.blocked next, transport)) :
      RequestExchange dispatcher task exchange next transport
  | answered {status body transport}
      (step : dispatcher.exchangeStep task.post exchange = (.head status body, transport)) :
      RequestExchange dispatcher task exchange (.collecting status body .empty) transport

/-- A request that has no slot asks the budget. -/
inductive RequestInquiry (dispatcher : Dispatcher) (index : Nat) (task : RequestTask) :
    Budget TaskId × Bool → Prop where
  | first (phase : task.phase = .asking) :
      RequestInquiry dispatcher index task (dispatcher.budget.acquire (.request index))
  | again (phase : task.phase = .waiting) :
      RequestInquiry dispatcher index task (dispatcher.budget.poll (.request index))

/-- A request that has no slot gives up, cancelled or too late. -/
inductive RequestWaiver (dispatcher : Dispatcher) (index : Nat) (task : RequestTask) :
    Budget TaskId → Prop where
  | unasked (phase : task.phase = .asking) :
      RequestWaiver dispatcher index task dispatcher.budget
  | waiting (phase : task.phase = .waiting) :
      RequestWaiver dispatcher index task (dispatcher.budget.abandon (.request index))

inductive RequestTurn (dispatcher : Dispatcher) (index : Nat) (task : RequestTask) :
    RequestTask → Budget TaskId → Transport → Prop where
  | rest : RequestTurn dispatcher index task task dispatcher.budget dispatcher.transport
  | gaveUp {error budget} (waiver : RequestWaiver dispatcher index task budget)
      (cause : (dispatcher.isCancelled task.context = true ∧ error = .cancelled) ∨
        (task.deadline ≤ dispatcher.now ∧ error = .deadlineExceeded)) :
      RequestTurn dispatcher index task { task with phase := .finished (.error error) } budget
        dispatcher.transport
  | admitted {asked} (inquiry : RequestInquiry dispatcher index task asked)
      (granted : asked.2 = true) :
      RequestTurn dispatcher index task { task with phase := .exchanging .unsent } asked.1
        dispatcher.transport
  | queued {asked} (inquiry : RequestInquiry dispatcher index task asked)
      (granted : asked.2 = false) :
      RequestTurn dispatcher index task { task with phase := .waiting } asked.1
        dispatcher.transport
  | exchanged {exchange next transport} (phase : task.phase = .exchanging exchange)
      (turn : RequestExchange dispatcher task exchange next transport) :
      RequestTurn dispatcher index task { task with phase := .exchanging next }
        dispatcher.budget transport
  | closed {exchange result transport} (phase : task.phase = .exchanging exchange)
      (cause : RequestEnd dispatcher task exchange result transport) :
      RequestTurn dispatcher index task { task with phase := .leaving result }
        dispatcher.budget transport
  | settled {result} (phase : task.phase = .leaving result) :
      RequestTurn dispatcher index task { task with phase := .finished result }
        dispatcher.budget.release dispatcher.transport

namespace Dispatcher

/-- A state in which one request has taken a step, and nothing else has changed but the statistics
and the queue of woken tasks. -/
def RequestTurned (index : Nat) (task : RequestTask) (before after : Dispatcher) : Prop :=
  ∃ turned budget transport statistics ready,
    RequestTurn before index task turned budget transport ∧
      after = { before with
        requests := before.requests.set index turned
        budget := budget
        transport := transport
        statistics := statistics
        ready := ready }

variable {dispatcher : Dispatcher} {index : Nat} {task : RequestTask}

theorem request_turned_rest (found : dispatcher.requests[index]? = some task) :
    RequestTurned index task dispatcher dispatcher := by
  refine ⟨task, _, _, dispatcher.statistics, dispatcher.ready, .rest, ?_⟩
  obtain ⟨bound, rfl⟩ := List.getElem?_eq_some_iff.mp found
  rw [List.set_getElem_self]

theorem admitRequest_turn {asked : Budget TaskId × Bool}
    (found : dispatcher.requests[index]? = some task)
    (inquiry : RequestInquiry dispatcher index task asked) :
    RequestTurned index task dispatcher (dispatcher.admitRequest index asked).1 := by
  unfold admitRequest
  simp only
  split
  · next granted =>
      simp only [setBudget_eq, setRequest, modify_found found]
      exact ⟨_, _, _, _, _, .admitted inquiry granted, rfl⟩
  · next refused =>
      simp only [setBudget_eq, setRequest, modify_found found]
      exact ⟨_, _, _, _, _, .queued inquiry (by simpa using refused), rfl⟩

theorem closeRequest_turn {exchange : Exchange} {result : Except RequestError ByteArray}
    {transport : Transport} (found : dispatcher.requests[index]? = some task)
    (phase : task.phase = .exchanging exchange)
    (cause : RequestEnd dispatcher task exchange result transport) :
    RequestTurned index task dispatcher
      ({ dispatcher with transport := transport }.closeRequest index result) := by
  simp only [closeRequest, setRequest, modify_found found]
  exact ⟨_, _, _, _, _, .closed phase cause, rfl⟩

theorem exchangeRequest_turn {exchange : Exchange}
    (found : dispatcher.requests[index]? = some task)
    (phase : task.phase = .exchanging exchange) :
    RequestTurned index task dispatcher
      (dispatcher.exchangeRequest index task exchange).1 := by
  unfold exchangeRequest
  obtain ⟨step, transport, same⟩ : ∃ step transport,
      dispatcher.exchangeStep task.post exchange = (step, transport) := ⟨_, _, rfl⟩
  have stepped := same
  unfold exchangeStep at stepped
  simp only
  rw [stepped]
  cases step with
  | onward next =>
      simp only [setRequest, modify_found found]
      exact ⟨_, _, _, _, _, .exchanged phase (.onward same), rfl⟩
  | head status body =>
      simp only [setRequest, modify_found found]
      exact ⟨_, _, _, _, _, .exchanged phase (.answered same), rfl⟩
  | failed error => exact closeRequest_turn found phase (.failed same)
  | whole status bytes => exact closeRequest_turn found phase (.whole same)
  | blocked next =>
      simp only
      split
      · next due => exact closeRequest_turn found phase (.late same due)
      · simp only [setRequest, modify_found found]
        exact ⟨_, _, _, _, _, .exchanged phase (.blocked same), rfl⟩

theorem settleRequest_turn {result : Except RequestError ByteArray}
    (found : dispatcher.requests[index]? = some task) (phase : task.phase = .leaving result) :
    RequestTurned index task dispatcher (dispatcher.settleRequest index result) := by
  unfold settleRequest
  cases result with
  | ok bytes =>
      simp only [finishRequest, release_eq, setRequest, modify_found found, count]
      exact ⟨_, _, _, _, _, .settled phase, rfl⟩
  | error error =>
      simp only [finishRequest, release_eq, setRequest, modify_found found]
      exact ⟨_, _, _, _, _, .settled phase, rfl⟩

/-- Every step of a request is one of the turns. -/
theorem stepRequest_turn (found : dispatcher.requests[index]? = some task) :
    RequestTurned index task dispatcher (dispatcher.stepRequest index).1 := by
  unfold stepRequest
  rw [found]
  simp only
  split
  · exact request_turned_rest found
  · exact request_turned_rest found
  · next phase =>
      split
      · next raised =>
          simp only [finishRequest, setRequest, modify_found found]
          exact ⟨_, _, _, _, _, .gaveUp (.unasked phase) (.inl ⟨raised, rfl⟩), rfl⟩
      · split
        · next late =>
            simp only [finishRequest, setRequest, modify_found found]
            exact ⟨_, _, _, _, _, .gaveUp (.unasked phase) (.inr ⟨late, rfl⟩), rfl⟩
        · exact admitRequest_turn found (.first phase)
  · next phase =>
      split
      · next raised =>
          simp only [abandonRequest, finishRequest, setBudget_eq, setRequest, modify_found found]
          exact ⟨_, _, _, _, _, .gaveUp (.waiting phase) (.inl ⟨raised, rfl⟩), rfl⟩
      · split
        · next late =>
            simp only [abandonRequest, finishRequest, setBudget_eq, setRequest,
              modify_found found]
            exact ⟨_, _, _, _, _, .gaveUp (.waiting phase) (.inr ⟨late, rfl⟩), rfl⟩
        · exact admitRequest_turn found (.again phase)
  · next exchange phase =>
      split
      · next raised => exact closeRequest_turn found phase (.cancelled raised)
      · exact exchangeRequest_turn found phase
  · next result phase => exact settleRequest_turn found phase

end Dispatcher

end StreamQuery.Dispatch
