import StreamQuery.Dispatch.Budget
import StreamQuery.Dispatch.Task
/-!
# Dispatchers

A dispatcher sends statements under a budget of requests in flight. Its state holds the tasks, the
budget they share, the signals that cancel them, the transport, and the time. Tasks that can go on
stand in a queue in the order in which they were woken.
-/

namespace StreamQuery.Dispatch

open Response

/-- What bounds the requests of a dispatcher. -/
structure Policy where
  requestTimeout : Nat
  rebalanceBackoff : Nat
  maxRebalanceRetries : UInt32
  bodyLimit : Nat
  lineLimit : Nat
  deriving DecidableEq, Repr

/-- How a response is consumed. -/
inductive Consumption where
  | single
  | streaming
  deriving DecidableEq, Repr

def Consumption.all : List Consumption :=
  [.single, .streaming]

def Consumption.text : Consumption → String
  | .single => "single"
  | .streaming => "streaming"

structure Statistics where
  statementsExecuted : Nat
  streamsOpened : Nat
  rebalances : Nat
  rejectedStreams : Nat
  decodeFailures : Nat
  deriving DecidableEq, Repr

namespace Statistics

def zero : Statistics :=
  ⟨0, 0, 0, 0, 0⟩

def countStatement (statistics : Statistics) : Statistics :=
  { statistics with statementsExecuted := statistics.statementsExecuted + 1 }

def countStream (statistics : Statistics) : Statistics :=
  { statistics with streamsOpened := statistics.streamsOpened + 1 }

def countRebalance (statistics : Statistics) : Statistics :=
  { statistics with rebalances := statistics.rebalances + 1 }

def countRejection (statistics : Statistics) : Statistics :=
  { statistics with rejectedStreams := statistics.rejectedStreams + 1 }

def countDecodeFailure (statistics : Statistics) : Statistics :=
  { statistics with decodeFailures := statistics.decodeFailures + 1 }

end Statistics

structure Dispatcher where
  policy : Policy
  now : Nat
  budget : Budget TaskId
  cancellation : Cancellation
  transport : Transport
  requests : List RequestTask
  streams : List StreamTask
  statistics : Statistics
  /-- Tasks that were woken, the first one first. -/
  ready : List TaskId

namespace Dispatcher

def start (policy : Policy) (slots : Nat) (transport : Transport) : Dispatcher where
  policy := policy
  now := 0
  budget := .ofLimit slots
  cancellation := .empty
  transport := transport
  requests := []
  streams := []
  statistics := .zero
  ready := []

/-- Puts a task at the end of the queue unless it is in it. -/
def wake (task : TaskId) (dispatcher : Dispatcher) : Dispatcher :=
  if dispatcher.ready.contains task then dispatcher
  else { dispatcher with ready := dispatcher.ready ++ [task] }

def wakeAll (tasks : List TaskId) (dispatcher : Dispatcher) : Dispatcher :=
  tasks.foldl (fun dispatcher task => dispatcher.wake task) dispatcher

/-- Replaces the budget and wakes the task whose wait can go on by it. -/
def setBudget (budget : Budget TaskId) (dispatcher : Dispatcher) : Dispatcher :=
  let changed := { dispatcher with budget := budget }
  if budget.runnable? = dispatcher.budget.runnable? then changed
  else changed.wakeAll budget.runnable?.toList

/-- Gives a slot back. -/
def release (dispatcher : Dispatcher) : Dispatcher :=
  dispatcher.setBudget dispatcher.budget.release

def isCancelled (dispatcher : Dispatcher) (context : Context) : Bool :=
  dispatcher.cancellation.isCancelled context

def isExpired (dispatcher : Dispatcher) (context : Context) : Bool :=
  context.isExpired dispatcher.now

def count (change : Statistics → Statistics) (dispatcher : Dispatcher) : Dispatcher :=
  { dispatcher with statistics := change dispatcher.statistics }

def setRequest (index : Nat) (phase : RequestPhase) (dispatcher : Dispatcher) : Dispatcher :=
  { dispatcher with
    requests := dispatcher.requests.modify index fun task => { task with phase := phase } }

def modifyStream (index : Nat) (change : StreamTask → StreamTask) (dispatcher : Dispatcher) :
    Dispatcher :=
  { dispatcher with streams := dispatcher.streams.modify index change }

def setStream (index : Nat) (phase : StreamPhase) : Dispatcher → Dispatcher :=
  modifyStream index fun task => { task with phase := phase }

/-- Starts a request that is read whole. -/
def dispatch (context : Context) (post : Post) (dispatcher : Dispatcher) : Dispatcher × Nat :=
  let index := dispatcher.requests.length
  let deadline := context.deadlineOr dispatcher.now dispatcher.policy.requestTimeout
  let task : RequestTask := ⟨context, deadline, post, .asking⟩
  ({ dispatcher with requests := dispatcher.requests ++ [task] }.wake (.request index), index)

/-- Starts a stream. -/
def openStream (context : Context) (post : Post) (dispatcher : Dispatcher) : Dispatcher × Nat :=
  let index := dispatcher.streams.length
  let task : StreamTask := ⟨context, post, .starting, 0, .empty⟩
  ({ dispatcher with streams := dispatcher.streams ++ [task] }.wake (.stream index), index)

/-- Gives up a request, wherever it waits. -/
def abort (index : Nat) (dispatcher : Dispatcher) : Dispatcher :=
  match dispatcher.requests[index]? with
  | none => dispatcher
  | some task =>
      match task.phase with
      | .leaving _ | .finished _ | .aborted => dispatcher
      | .asking => dispatcher.setRequest index .aborted
      | .waiting =>
          (dispatcher.setRequest index .aborted).setBudget
            (dispatcher.budget.abandon (.request index))
      | .exchanging _ => (dispatcher.setRequest index .aborted).release

/-- Takes the next item of a stream's channel; none are left once it has ended. -/
def receive (index : Nat) (dispatcher : Dispatcher) :
    Option (Received (Except RequestError String)) × Dispatcher :=
  match dispatcher.streams[index]? with
  | none => (none, dispatcher)
  | some task =>
      match task.channel.receive with
      | .item item rest =>
          let taken := dispatcher.modifyStream index fun task => { task with channel := rest }
          (some (.item item rest),
            if task.awaitsRoom then taken.wake (.stream index) else taken)
      | found => (some found, dispatcher)

/-- Closes a stream's channel for new items. -/
def closeStream (index : Nat) (dispatcher : Dispatcher) : Dispatcher :=
  (dispatcher.modifyStream index fun task => { task with channel := task.channel.close }).wake
    (.stream index)

/-- Drops a stream's channel. -/
def dropStream (index : Nat) (dispatcher : Dispatcher) : Dispatcher :=
  (dispatcher.modifyStream index fun task => { task with channel := task.channel.drop }).wake
    (.stream index)

/-- A context made from another one, with a signal of its own. -/
def deriveContext (context : Context) (dispatcher : Dispatcher) : Dispatcher × Context :=
  let (cancellation, signal) := dispatcher.cancellation.derive context.signal
  ({ dispatcher with cancellation := cancellation }.wake (.relay signal),
    { context with signal := some signal })

/-- The tasks that watch a signal. -/
def watching (signal : Nat) (dispatcher : Dispatcher) : List TaskId :=
  let requests := (List.range dispatcher.requests.length).filter fun index =>
    (dispatcher.requests[index]?).any fun task =>
      task.isLive && task.context.signal = some signal
  let streams := (List.range dispatcher.streams.length).filter fun index =>
    (dispatcher.streams[index]?).any fun task =>
      task.isLive && task.context.signal = some signal
  (dispatcher.cancellation.relaysFrom signal).map TaskId.relay ++ requests.map TaskId.request ++
    streams.map TaskId.stream

/-- Raises a signal. -/
def cancel (signal : Nat) (dispatcher : Dispatcher) : Dispatcher :=
  { dispatcher with cancellation := dispatcher.cancellation.raise signal }.wakeAll
    (dispatcher.watching signal)

/-- Drops the handle that raises a signal. -/
def dropHandle (signal : Nat) (dispatcher : Dispatcher) : Dispatcher :=
  { dispatcher with cancellation := dispatcher.cancellation.dropHandle signal }.wakeAll
    ((dispatcher.cancellation.relaysFrom signal).map TaskId.relay)

end Dispatcher

end StreamQuery.Dispatch
