import StreamQuery.Dispatch.Event
/-!
# Schedules

Time stands still while a task can go on, and jumps to the next timer when none can. Tasks go on in
the order in which they were woken, each until it has to wait.
-/

namespace StreamQuery.Dispatch.Dispatcher

/-- Runs the woken tasks until all of them wait, at most as many steps as the fuel allows. -/
def run : Nat → Dispatcher → Dispatcher
  | 0, dispatcher => dispatcher
  | fuel + 1, dispatcher =>
      match dispatcher.ready with
      | [] => dispatcher
      | task :: rest =>
          let (stepped, progress) := { dispatcher with ready := rest }.step task
          run fuel (if progress then { stepped with ready := task :: stepped.ready } else stepped)

/-- The largest number of parts and bytes in a scripted answer. -/
def largestAnswer (dispatcher : Dispatcher) : Nat :=
  (dispatcher.transport.queue ++ dispatcher.transport.standing.toList).foldl
    (fun largest scripted =>
      match scripted with
      | .answer answer => max largest answer.body.remaining
      | .failure _ => largest) 0

/-- A bound on the steps that can be taken before all tasks wait: every task has its steps between
two answers, every request that may still be sent has those of the largest answer, and every line
takes at most a few. -/
def stepBound (dispatcher : Dispatcher) : Nat :=
  let tasks :=
    dispatcher.requests.length + dispatcher.streams.length +
      dispatcher.cancellation.signals.length + dispatcher.ready.length + 1
  let sends := tasks * (dispatcher.policy.maxRebalanceRetries.toNat + 2)
  let underway :=
    dispatcher.requests.foldl (fun total task => total + task.remaining) 0 +
      dispatcher.streams.foldl (fun total task => total + task.remaining) 0
  16 * (sends + 1) * (dispatcher.largestAnswer + tasks + 1) + 16 * underway

/-- Runs the woken tasks until all of them wait. -/
def settle (dispatcher : Dispatcher) : Dispatcher :=
  dispatcher.run dispatcher.stepBound

/-- The tasks in their order, each with its timers. -/
def timers (dispatcher : Dispatcher) : List (TaskId × List Nat) :=
  dispatcher.requests.zipIdx.map (fun (task, index) => (.request index, task.timers)) ++
    dispatcher.streams.zipIdx.map (fun (task, index) => (.stream index, task.timers))

/-- The first timer after a point in time. -/
def nextTimer? (now : Nat) (dispatcher : Dispatcher) : Option Nat :=
  ((dispatcher.timers.flatMap Prod.snd).filter (now < ·)).min?

/-- Lets time jump, and wakes the tasks whose timers are due by then. -/
def jump (time : Nat) (dispatcher : Dispatcher) : Dispatcher :=
  let due := dispatcher.timers.filter fun entry => entry.2.any (· ≤ time)
  { dispatcher.wakeAll (due.map Prod.fst) with now := time }

/-- Runs until a condition holds or a point in time is reached, whatever comes first. The condition
is looked at whenever all tasks wait. -/
def runUntil (stop : Dispatcher → Bool) (target : Nat) (dispatcher : Dispatcher) :
    Dispatcher :=
  let settled := dispatcher.settle
  if stop settled then
    settled
  else
    match settled.nextTimer? dispatcher.now with
    | some time =>
        if _later : dispatcher.now < time ∧ time ≤ target then
          runUntil stop target (settled.jump time)
        else
          { settled with now := max settled.now target }
    | none => { settled with now := max settled.now target }
termination_by target - dispatcher.now
decreasing_by
  exact Nat.sub_lt_sub_left (Nat.lt_of_lt_of_le _later.1 _later.2) _later.1

/-- Lets a span of time pass, with everything that is due in it. -/
def advance (span : Nat) (dispatcher : Dispatcher) : Dispatcher :=
  dispatcher.runUntil (fun _ => false) (dispatcher.now + span)

end StreamQuery.Dispatch.Dispatcher
