import StreamQuery.Dispatch.StreamStep
/-!
# Events

What can happen to a dispatcher: its user asks for something, a task takes one step, or time passes.
Any task may take its step at any time, woken or not, and time may pass at any time, so the lists of
events cover every order in which tasks, users, transport and clock can meet.
-/

namespace StreamQuery.Dispatch

inductive Event where
  | dispatch (context : Context) (post : Post)
  | openStream (context : Context) (post : Post)
  | abort (index : Nat)
  | receive (index : Nat)
  | closeStream (index : Nat)
  | dropStream (index : Nat)
  | deriveContext (context : Context)
  | shareContext (signal : Nat)
  | dropContext (signal : Nat)
  | cancel (signal : Nat)
  | dropHandle (signal : Nat)
  | step (task : TaskId)
  | pass (time : Nat)
  /-- The queue of woken tasks is changed in some way. -/
  | arrange (ready : List TaskId)
  /-- A row of some stream or body did not decode. -/
  | countFailure

namespace Dispatcher

/-- One look of a relay; the tasks that watch its signal are woken when it is raised. -/
def stepRelay (signal : Nat) (dispatcher : Dispatcher) : Dispatcher × Progress :=
  let (cancellation, ended) := dispatcher.cancellation.relay signal
  let looked := { dispatcher with cancellation := cancellation }
  (if ended && cancellation.isRaised signal then looked.wakeAll (looked.watching signal)
    else looked, false)

/-- One step of a task. -/
def step (task : TaskId) (dispatcher : Dispatcher) : Dispatcher × Progress :=
  match task with
  | .request index => dispatcher.stepRequest index
  | .stream index => dispatcher.stepStream index
  | .relay signal => dispatcher.stepRelay signal

def apply (event : Event) (dispatcher : Dispatcher) : Dispatcher :=
  match event with
  | .dispatch context post => (dispatcher.dispatch context post).1
  | .openStream context post => (dispatcher.openStream context post).1
  | .abort index => dispatcher.abort index
  | .receive index => (dispatcher.receive index).2
  | .closeStream index => dispatcher.closeStream index
  | .dropStream index => dispatcher.dropStream index
  | .deriveContext context => (dispatcher.deriveContext context).1
  | .shareContext signal =>
      { dispatcher with cancellation := dispatcher.cancellation.shareContext signal }
  | .dropContext signal =>
      { dispatcher with cancellation := dispatcher.cancellation.dropContext signal }
  | .cancel signal => dispatcher.cancel signal
  | .dropHandle signal => dispatcher.dropHandle signal
  | .step task => (dispatcher.step task).1
  | .pass time => { dispatcher with now := max dispatcher.now time }
  | .arrange ready => { dispatcher with ready := ready }
  | .countFailure => dispatcher.count Statistics.countDecodeFailure

/-- The state after some events, the first one first. -/
def play : List Event → Dispatcher → Dispatcher
  | [], dispatcher => dispatcher
  | event :: rest, dispatcher => play rest (dispatcher.apply event)

end Dispatcher

end StreamQuery.Dispatch
