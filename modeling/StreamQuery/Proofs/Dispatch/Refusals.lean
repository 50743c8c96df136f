import StreamQuery.Proofs.Dispatch.Errors
import StreamQuery.Proofs.Dispatch.Line
import StreamQuery.Proofs.Dispatch.Schedule
/-!
# Refusals

A stream that finds no free slot is refused, and nothing but a statistic tells of it. A request that
has to wait is never refused for want of slots; if it gives up, cancelled or too late, it leaves the
line as if it had not been there, and whoever comes first in the line then gets the next free slot.
-/

namespace StreamQuery.Dispatch

open Response

namespace Budget

variable {α : Type} [DecidableEq α] {budget : Budget α} {task : α}

/-- When the task past the lock gives up, nobody is put down as waiting any more. -/
theorem Rests.abandon_parked (rests : budget.Rests) (locked : budget.holder = some task) :
    (budget.abandon task).parked = [] := by
  obtain ⟨⟨⟨limit, inFlight, peak, holder, queue, token, parked, notified⟩, stance, untold⟩, rest,
    rfl⟩ := rests
  obtain ⟨⟨booked, idle, owed⟩, told, calm⟩ := rest
  cases locked
  cases booked <;> cases queue <;> simp [abandon, notify, unlock]

/-- When the task past the lock gives up, the next one in the line can go on. -/
theorem Rests.abandon_runnable (rests : budget.Rests) (locked : budget.holder = some task) :
    (budget.abandon task).runnable? = (budget.abandon task).line.head? := by
  have later : (budget.abandon task).Rests := rests.run (.abandon task)
  refine later.runnable fun other _ parked => ?_
  rw [rests.abandon_parked locked] at parked
  cases parked

end Budget

namespace Dispatcher

variable {dispatcher before after : Dispatcher} {index : Nat}

/-! ### Streams -/

theorem take_none_iff {slots : Nat} (accounts : Accounts slots dispatcher) :
    dispatcher.budget.take? = none ↔ dispatcher.budget.inFlight = slots := by
  have limit := accounts.limit
  have bounded := accounts.bounded
  unfold Budget.take?
  split <;> simp only [reduceCtorEq, false_iff, true_iff] <;> omega

/-- A stream that finds no free slot is refused, and only a statistic grows. -/
theorem stream_refused {task : StreamTask} (found : dispatcher.streams[index]? = some task)
    (phase : task.phase = .starting) (calm : dispatcher.isCancelled task.context = false)
    (full : dispatcher.budget.take? = none) :
    dispatcher.apply (.step (.stream index)) =
      { dispatcher with
        streams := dispatcher.streams.set index { task with phase := .refused .tooManyRequests }
        statistics := dispatcher.statistics.countRejection } := by
  have without : task.holdsSlot = false := by simp [StreamTask.holdsSlot, phase]
  simp only [apply, step, stepStream, found, phase, stepStarting, calm, full, refuseStream,
    departStream, without, setStream, modifyStream, modify_found found, count]
  rfl

theorem stream_taken {task : StreamTask} {budget : Budget TaskId}
    (found : dispatcher.streams[index]? = some task) (phase : task.phase = .starting)
    (calm : dispatcher.isCancelled task.context = false)
    (took : dispatcher.budget.take? = some budget) :
    ∃ deadline, (dispatcher.apply (.step (.stream index))).streams[index]? =
      some { task with phase := .opening .unsent deadline } := by
  have bound := (List.getElem?_eq_some_iff.mp found).1
  simp only [apply, step, stepStream, found, phase, stepStarting, calm, took, setBudget_eq,
    setStream, modifyStream, modify_found found]
  exact ⟨_, List.getElem?_set_self bound⟩

theorem refused_idle {task : StreamTask} {error : RequestError}
    (found : dispatcher.streams[index]? = some task) (phase : task.phase = .refused error) :
    dispatcher.apply (.step (.stream index)) = dispatcher := by
  simp only [apply, step, stepStream, found, phase]

/-- A stream that was refused stays refused. -/
theorem refused_stays {error : RequestError} (events : List Event)
    (refused : ∃ task, dispatcher.streams[index]? = some task ∧ task.phase = .refused error) :
    ∃ task, (dispatcher.play events).streams[index]? = some task ∧
      task.phase = .refused error := by
  induction events generalizing dispatcher with
  | nil => exact refused
  | cons event rest induction =>
      obtain ⟨task, found, phase⟩ := refused
      refine induction ?_
      by_cases own : event = .step (.stream index)
      · rw [own, refused_idle found phase]
        exact ⟨task, found, phase⟩
      · have change := (dispatcher.apply_effect event).streamChange index
        rw [found] at change
        generalize (dispatcher.apply event).streams[index]? = next at change
        cases change with
        | same | received | closed | dropped => exact ⟨_, rfl, phase⟩
        | turned cause turn => exact (own cause).elim

/-- What becomes of a stream that asks for its first slot: it is refused exactly if none is free,
and then it does nothing else, neither now nor later. -/
structure Asks (slots : Nat) (dispatcher : Dispatcher) (index : Nat) (task : StreamTask) :
    Prop where
  exactly : (∃ turned, (dispatcher.apply (.step (.stream index))).streams[index]? = some turned ∧
    turned.phase = .refused .tooManyRequests) ↔ dispatcher.budget.inFlight = slots
  alone : dispatcher.budget.inFlight = slots →
    dispatcher.apply (.step (.stream index)) =
      { dispatcher with
        streams := dispatcher.streams.set index { task with phase := .refused .tooManyRequests }
        statistics := dispatcher.statistics.countRejection }
  last : dispatcher.budget.inFlight = slots → ∀ later,
    (dispatcher.play (.step (.stream index) :: later)).apply (.step (.stream index)) =
      dispatcher.play (.step (.stream index) :: later)

theorem stream_asks {slots : Nat} {task : StreamTask} (accounts : Accounts slots dispatcher)
    (found : dispatcher.streams[index]? = some task) (phase : task.phase = .starting)
    (calm : dispatcher.isCancelled task.context = false) : Asks slots dispatcher index task := by
  have bound := (List.getElem?_eq_some_iff.mp found).1
  have refused (full : dispatcher.budget.inFlight = slots) :=
    stream_refused found phase calm ((take_none_iff accounts).2 full)
  have placed (full : dispatcher.budget.inFlight = slots) :
      ∃ turned, (dispatcher.apply (.step (.stream index))).streams[index]? = some turned ∧
        turned.phase = .refused .tooManyRequests := by
    rw [refused full]
    exact ⟨_, List.getElem?_set_self bound, rfl⟩
  refine ⟨⟨?_, placed⟩, refused, ?_⟩
  · rintro ⟨turned, after, declined⟩
    cases took : dispatcher.budget.take? with
    | none => exact (take_none_iff accounts).1 took
    | some budget =>
        obtain ⟨deadline, opening⟩ := stream_taken found phase calm took
        rw [opening] at after
        cases after
        cases declined
  · intro full later
    obtain ⟨turned, there, still⟩ := refused_stays later (placed full)
    exact refused_idle there still

/-! ### Errors of requests -/

/-- The error that a request ends with is of some kind. -/
def EndsBy (allowed : RequestError → Prop) (task : RequestTask) : Prop :=
  ∀ error, task.phase = .leaving (.error error) ∨ task.phase = .finished (.error error) →
    allowed error

end Dispatcher

open Dispatcher in
/-- A request ends with an error of the transport or the response, or because it was cancelled. -/
theorem RequestTurn.endsBy {dispatcher : Dispatcher} {index : Nat} {task turned : RequestTask}
    {budget : Budget TaskId} {transport : Transport} {allowed : RequestError → Prop}
    (turn : RequestTurn dispatcher index task turned budget transport)
    (usual : ∀ error, dispatcher.transport.Scripts error ∨ IsOfResponse error → allowed error)
    (cancelled : allowed .cancelled) (ends : EndsBy allowed task) : EndsBy allowed turned := by
  have late : allowed .deadlineExceeded := usual _ (.inr trivial)
  cases turn with
  | rest => exact ends
  | gaveUp waiver cause =>
      rintro error (same | same) <;> cases same
      rcases cause with ⟨_, rfl⟩ | ⟨_, rfl⟩
      · exact cancelled
      · exact late
  | admitted | queued | exchanged => rintro error (same | same) <;> cases same
  | closed phase cause =>
      rintro error (same | same)
      · cases cause with
        | cancelled raised =>
            cases same
            exact cancelled
        | failed step =>
            cases same
            exact usual _ ((exchangeStep_scripts step).2 _ rfl)
        | @whole status bytes _ step =>
            unfold wholeResult at same
            split at same <;> cases same
            exact usual _ (.inr trivial)
        | late step due =>
            cases same
            exact late
      · cases same
  | settled phase =>
      rintro error (same | same) <;> cases same
      exact ends error (.inl phase)

namespace Dispatcher

variable {dispatcher before after : Dispatcher} {index : Nat}

theorem apply_endsBy {allowed : RequestError → Prop} (event : Event)
    (usual : ∀ error, dispatcher.transport.Scripts error ∨ IsOfResponse error → allowed error)
    (cancelled : allowed .cancelled)
    (ends : ∀ (index : Nat) (task : RequestTask), dispatcher.requests[index]? = some task →
      EndsBy allowed task) (index : Nat) (task : RequestTask)
    (found : (dispatcher.apply event).requests[index]? = some task) : EndsBy allowed task := by
  have change := (dispatcher.apply_effect event).requestChange index
  rw [found] at change
  cases earlier : dispatcher.requests[index]? with
  | none =>
      rw [earlier] at change
      cases change
      rintro error (same | same) <;> cases same
  | some before =>
      rw [earlier] at change
      cases change with
      | same => exact ends index _ earlier
      | turned cause turn => exact turn.endsBy usual cancelled (ends index _ earlier)
      | aborted cause => rintro error (same | same) <;> cases same

theorem play_endsBy {allowed : RequestError → Prop} (events : List Event)
    (usual : ∀ error, dispatcher.transport.Scripts error ∨ IsOfResponse error → allowed error)
    (cancelled : allowed .cancelled)
    (ends : ∀ (index : Nat) (task : RequestTask), dispatcher.requests[index]? = some task →
      EndsBy allowed task) (index : Nat) (task : RequestTask)
    (found : (dispatcher.play events).requests[index]? = some task) : EndsBy allowed task := by
  induction events generalizing dispatcher with
  | nil => exact ends index task found
  | cons event rest induction =>
      have scripts := (dispatcher.apply_effect event).scripts
      refine induction (fun error cause => usual error (cause.imp_left (scripts error))) ?_ found
      exact apply_endsBy event usual cancelled ends

/-! ### Requests that give up -/

/-- The request has no slot yet: it is about to ask for one, or it stands in the line. -/
def Seeks (task : RequestTask) : Prop :=
  task.phase = .asking ∨ task.phase = .waiting

/-- A request leaves the line without a trace: nothing is sent, counter and statistics stay, the
others keep their order, and the next one gets the next free slot. -/
structure Withdrawn (index : Nat) (before after : Dispatcher) : Prop where
  transport : after.transport = before.transport
  statistics : after.statistics = before.statistics
  counter : Budget.Quiet before.budget after.budget
  line : after.budget.line = before.budget.line.erase (.request index)
  gone : .request index ∉ after.budget.line
  /-- The lock is open if nobody waits, and otherwise the first in the line is past it. -/
  lock : after.budget.holder = after.budget.line.head?
  /-- The task past the lock gets a free slot as soon as it looks. -/
  next : ∀ task, after.budget.holder = some task → after.budget.isSaturated = false →
    (after.budget.poll task).2 = true
  /-- The lock is passed on to a task that can go on and is woken. -/
  passed : before.budget.holder = some (.request index) →
    ∀ task, after.budget.holder = some task →
      after.budget.runnable? = some task ∧ task ∈ after.ready
  /-- The request has no slot and gets none any more. -/
  without : after.holds (.request index) = false
  never : ∀ later, .request index ∉ (after.ledger later).taken

theorem holdsNone_of_ended {task : RequestTask} (ended : task.isLive = false) :
    task.holdsSlot = false := by
  unfold RequestTask.isLive at ended
  unfold RequestTask.holdsSlot
  cases phase : task.phase <;> simp [phase] at ended ⊢

/-- A request that has come to its end does nothing more. -/
theorem ended_idle {task : RequestTask} (found : dispatcher.requests[index]? = some task)
    (ended : task.isLive = false) :
    dispatcher.apply (.step (.request index)) = dispatcher ∧
      dispatcher.apply (.abort index) = dispatcher := by
  unfold RequestTask.isLive at ended
  split at ended
  · next phase => simp only [apply, step, stepRequest, abort, found, phase, and_self]
  · next phase => simp only [apply, step, stepRequest, abort, found, phase, and_self]
  · cases ended

/-- A request that has come to its end never gets a slot. -/
theorem ended_untaken {task : RequestTask} (found : dispatcher.requests[index]? = some task)
    (ended : task.isLive = false) (events : List Event) :
    .request index ∉ (dispatcher.ledger events).taken := by
  induction events generalizing dispatcher with
  | nil => exact List.not_mem_nil
  | cons event rest induction =>
      have same : (dispatcher.apply event).requests[index]? = some task := by
        have change := (dispatcher.apply_effect event).requestChange index
        by_cases own : event = .step (.request index)
        · rw [own, (ended_idle found ended).1]
          exact found
        · by_cases given : event = .abort index
          · rw [given, (ended_idle found ended).2]
            exact found
          · rw [found] at change
            generalize (dispatcher.apply event).requests[index]? = next at change
            cases change with
            | same => rfl
            | turned cause turn => exact (own cause).elim
            | aborted cause => exact (given cause).elim
      rw [ledger]
      refine List.not_mem_append ?_ (induction same)
      intro taken
      have holding := holds_of_taken taken
      simp [holds, same, holdsNone_of_ended ended] at holding

theorem mem_ready_setBudget {budget : Budget TaskId} {task : TaskId}
    (runnable : budget.runnable? = some task)
    (changed : dispatcher.budget.runnable? ≠ some task) :
    task ∈ (dispatcher.setBudget budget).ready := by
  unfold setBudget
  rw [runnable, if_neg changed.symm]
  simp only [Option.toList_some, wakeAll, List.foldl_cons, List.foldl_nil]
  unfold wake
  split
  · next present => exact List.contains_iff_mem.1 present
  · exact List.mem_append_right _ (List.mem_singleton_self task)

/-- When the task past the lock gives up, the next one could not go on before and can now. -/
theorem abandon_passes {task next : TaskId} (inLine : InLine dispatcher)
    (locked : dispatcher.budget.holder = some task)
    (first : (dispatcher.budget.abandon task).holder = some next) :
    dispatcher.budget.runnable? ≠ some next ∧
      (dispatcher.budget.abandon task).runnable? = some next := by
  have later : (dispatcher.budget.abandon task).Rests := inLine.rests.run (.abandon task)
  refine ⟨fun before => ?_, ?_⟩
  · have same : dispatcher.budget.holder = some next := (Option.filter_eq_some_iff.1 before).1
    have member : next ∈ (dispatcher.budget.abandon task).line := by simp [Budget.line, first]
    rw [Budget.abandon_line, Option.some.inj (same.symm.trans locked)] at member
    exact inLine.once.not_mem_erase member
  · rw [inLine.rests.abandon_runnable locked, ← later.orderly.holder, first]

/-- A request that has not asked yet leaves no trace. -/
theorem withdrawn_asking {task : RequestTask} {phase : RequestPhase} (inLine : InLine dispatcher)
    (found : dispatcher.requests[index]? = some task) (asking : task.phase = .asking)
    (ended : { task with phase := phase }.isLive = false) :
    Withdrawn index dispatcher (dispatcher.setRequest index phase) := by
  have bound := (List.getElem?_eq_some_iff.mp found).1
  have absent : .request index ∉ dispatcher.budget.line := by
    rw [inLine.waiting]
    simp [awaits, found, RequestTask.awaitsSlot, asking]
  have lock := inLine.rests.orderly.holder
  simp only [setRequest, modify_found found]
  exact {
    transport := rfl
    statistics := rfl
    counter := .refl _
    line := (List.erase_of_not_mem absent).symm
    gone := absent
    lock := lock
    next := fun next first free => inLine.rests.served (lock.symm.trans first) free
    passed := by
      intro locked
      refine absurd ?_ absent
      simp [Budget.line, locked]
    without := by simp [holds, bound, holdsNone_of_ended ended]
    never := ended_untaken (List.getElem?_set_self bound) ended }

/-- A request that stands in the line leaves no trace but its place. -/
theorem withdrawn_waiting {task : RequestTask} {phase : RequestPhase}
    (inLine : InLine dispatcher) (found : dispatcher.requests[index]? = some task)
    (ended : { task with phase := phase }.isLive = false) :
    Withdrawn index dispatcher ((dispatcher.setRequest index phase).setBudget
      (dispatcher.budget.abandon (.request index))) := by
  have bound := (List.getElem?_eq_some_iff.mp found).1
  have rests : (dispatcher.budget.abandon (.request index)).Rests :=
    inLine.rests.run (.abandon (.request index))
  have line := Budget.abandon_line (.request index) dispatcher.budget
  have lock := rests.orderly.holder
  have woken {next : TaskId}
      (runnable : (dispatcher.budget.abandon (.request index)).runnable? = some next)
      (blocked : dispatcher.budget.runnable? ≠ some next) :=
    @mem_ready_setBudget (dispatcher.setRequest index phase) _ next runnable blocked
  rw [setBudget_eq] at woken ⊢
  simp only [setRequest, modify_found found] at woken ⊢
  exact {
    transport := rfl
    statistics := rfl
    counter := Budget.abandon_quiet _ _
    line := line
    gone := by
      change _ ∉ (dispatcher.budget.abandon (.request index)).line
      rw [line]
      exact inLine.once.not_mem_erase
    lock := lock
    next := fun next first free => rests.served (lock.symm.trans first) free
    passed := by
      intro locked next first
      obtain ⟨blocked, runnable⟩ := abandon_passes inLine locked first
      exact ⟨runnable, woken runnable blocked⟩
    without := by simp [holds, bound, holdsNone_of_ended ended]
    never := ended_untaken (List.getElem?_set_self bound) ended }

/-- A request that asks for a slot in time is admitted or waits. -/
theorem request_asks {task : RequestTask} (found : dispatcher.requests[index]? = some task)
    (seeks : Seeks task) (calm : dispatcher.isCancelled task.context = false)
    (early : dispatcher.now < task.deadline) :
    ∃ turned, (dispatcher.apply (.step (.request index))).requests[index]? = some turned ∧
      (turned.phase = .exchanging .unsent ∨ turned.phase = .waiting) := by
  have bound := (List.getElem?_eq_some_iff.mp found).1
  have answered (asked : Budget TaskId × Bool) :
      ∃ turned, (dispatcher.admitRequest index asked).1.requests[index]? = some turned ∧
        (turned.phase = .exchanging .unsent ∨ turned.phase = .waiting) := by
    unfold admitRequest
    simp only
    split <;> simp only [setBudget_eq, setRequest, modify_found found]
    · exact ⟨_, List.getElem?_set_self bound, .inl rfl⟩
    · exact ⟨_, List.getElem?_set_self bound, .inr rfl⟩
  have inTime : ¬ task.deadline ≤ dispatcher.now := Nat.not_le.2 early
  rcases seeks with phase | phase <;>
    simpa [apply, step, stepRequest, found, phase, calm, inTime] using answered _

/-- The error of a request that gives up. -/
def waitError (dispatcher : Dispatcher) (task : RequestTask) : RequestError :=
  if dispatcher.isCancelled task.context then .cancelled else .deadlineExceeded

/-- A request that is cancelled or late before it has a slot ends with the error that says so. -/
theorem request_gives_up {task : RequestTask} (inLine : InLine dispatcher)
    (found : dispatcher.requests[index]? = some task) (seeks : Seeks task)
    (cause : dispatcher.isCancelled task.context = true ∨ task.deadline ≤ dispatcher.now) :
    (dispatcher.apply (.step (.request index))).requests =
        dispatcher.requests.set index
          { task with phase := .finished (.error (dispatcher.waitError task)) } ∧
      Withdrawn index dispatcher (dispatcher.apply (.step (.request index))) := by
  rcases seeks with phase | phase
  · have ends : dispatcher.apply (.step (.request index)) =
        dispatcher.setRequest index (.finished (.error (dispatcher.waitError task))) := by
      unfold waitError
      cases cancelled : dispatcher.isCancelled task.context <;>
        simp_all [apply, step, stepRequest, finishRequest]
    rw [ends]
    refine ⟨?_, withdrawn_asking inLine found phase rfl⟩
    simp only [setRequest, modify_found found]
  · have ends : dispatcher.apply (.step (.request index)) =
        (dispatcher.setRequest index (.finished (.error (dispatcher.waitError task)))).setBudget
          (dispatcher.budget.abandon (.request index)) := by
      unfold waitError
      cases cancelled : dispatcher.isCancelled task.context <;>
        simp_all [apply, step, stepRequest, abandonRequest, finishRequest]
    rw [ends]
    refine ⟨?_, withdrawn_waiting inLine found rfl⟩
    simp only [setBudget_eq, setRequest, modify_found found]

/-- A request that is given up before it has a slot leaves no trace either. -/
theorem request_aborted {task : RequestTask} (inLine : InLine dispatcher)
    (found : dispatcher.requests[index]? = some task) (seeks : Seeks task) :
    Withdrawn index dispatcher (dispatcher.apply (.abort index)) := by
  rcases seeks with phase | phase
  · have ends : dispatcher.apply (.abort index) = dispatcher.setRequest index .aborted := by
      simp only [apply, abort, found, phase]
    rw [ends]
    exact withdrawn_asking inLine found phase rfl
  · have ends : dispatcher.apply (.abort index) =
        (dispatcher.setRequest index .aborted).setBudget
          (dispatcher.budget.abandon (.request index)) := by
      simp only [apply, abort, found, phase]
    rw [ends]
    exact withdrawn_waiting inLine found rfl

/-! ### Requests that send nothing -/

theorem ledger_append (first second : List Event) (dispatcher : Dispatcher) :
    (dispatcher.ledger (first ++ second)).taken =
      (dispatcher.ledger first).taken ++ ((dispatcher.play first).ledger second).taken := by
  induction first generalizing dispatcher with
  | nil => rfl
  | cons event rest induction =>
      simp only [List.cons_append, ledger, play, induction, List.append_assoc]

/-- A request that has no slot yet had none before. -/
theorem seeks_before {event : Event} {turned : RequestTask}
    (found : (dispatcher.apply event).requests[index]? = some turned) (seeks : Seeks turned) :
    ∀ task, dispatcher.requests[index]? = some task → Seeks task := by
  intro task earlier
  have change := (dispatcher.apply_effect event).requestChange index
  rw [found, earlier] at change
  cases change with
  | same => exact seeks
  | aborted cause => rcases seeks with phase | phase <;> cases phase
  | turned cause turn =>
      cases turn with
      | rest => exact seeks
      | queued inquiry granted =>
          cases inquiry with
          | first phase => exact .inl phase
          | again phase => exact .inr phase
      | gaveUp | admitted | exchanged | closed | settled =>
          rcases seeks with phase | phase <;> cases phase

theorem play_seeks_before (events : List Event) {turned : RequestTask}
    (found : (dispatcher.play events).requests[index]? = some turned) (seeks : Seeks turned) :
    ∀ task, dispatcher.requests[index]? = some task → Seeks task := by
  induction events generalizing dispatcher with
  | nil =>
      intro task same
      cases found.symm.trans same
      exact seeks
  | cons event rest induction =>
      intro task earlier
      cases next : (dispatcher.apply event).requests[index]? with
      | none =>
          have change := (dispatcher.apply_effect event).requestChange index
          rw [earlier, next] at change
          cases change
      | some between => exact seeks_before next (induction found between next) task earlier

theorem Seeks.holdsNone {task : RequestTask} (seeks : Seeks task) : task.holdsSlot = false := by
  rcases seeks with phase | phase <;> simp [RequestTask.holdsSlot, phase]

/-- A request that has no slot yet never took one. -/
theorem seeks_untaken (events : List Event) {task : RequestTask}
    (found : (dispatcher.play events).requests[index]? = some task) (seeks : Seeks task) :
    .request index ∉ (dispatcher.ledger events).taken := by
  induction events generalizing dispatcher with
  | nil => exact List.not_mem_nil
  | cons event rest induction =>
      rw [ledger]
      refine List.not_mem_append ?_ (induction found)
      intro taken
      have holding := holds_of_taken taken
      cases next : (dispatcher.apply event).requests[index]? with
      | none => simp [holds, next] at holding
      | some between =>
          have early := play_seeks_before rest found seeks between next
          simp [holds, next, early.holdsNone] at holding

end Dispatcher

theorem RequestTurn.unsent {dispatcher : Dispatcher} {index : Nat} {task turned : RequestTask}
    {budget : Budget TaskId} {transport : Transport}
    (turn : RequestTurn dispatcher index task turned budget transport)
    (without : task.holdsSlot = false) : transport = dispatcher.transport := by
  cases turn with
  | exchanged phase turn | closed phase cause =>
      simp [RequestTask.holdsSlot, phase] at without
  | _ => rfl

namespace Dispatcher

variable {dispatcher : Dispatcher} {index : Nat}

theorem step_unsent (without : dispatcher.holds (.request index) = false) :
    (dispatcher.apply (.step (.request index))).transport = dispatcher.transport := by
  have effect := dispatcher.apply_effect (.step (.request index))
  generalize dispatcher.apply (.step (.request index)) = after at effect ⊢
  cases effect with
  | aside => rfl
  | requestTurned found turned =>
      obtain ⟨_, _, _, _, _, turn, rfl⟩ := turned
      exact turn.unsent (by simpa [holds, found] using without)

/-- None of the steps that a request takes by some events sends anything. -/
def Unsent (index : Nat) (origin : Dispatcher) (events : List Event) : Prop :=
  ∀ earlier later, events = earlier ++ .step (.request index) :: later →
    ((origin.play earlier).apply (.step (.request index))).transport =
      (origin.play earlier).transport

/-- A request that never takes a slot sends nothing. -/
theorem untaken_unsent {origin : Dispatcher} {events : List Event}
    (without : origin.holds (.request index) = false)
    (untaken : .request index ∉ (origin.ledger events).taken) : Unsent index origin events := by
  rintro earlier later rfl
  refine step_unsent ?_
  rw [ledger_append] at untaken
  have none : (origin.ledger earlier).taken.count (.request index) = 0 :=
    List.count_eq_zero.2 fun taken => untaken (List.mem_append_left _ taken)
  have permits := play_permits earlier origin (.request index)
  rw [none, without] at permits
  cases holding : (origin.play earlier).holds (.request index) with
  | false => rfl
  | true =>
      rw [holding] at permits
      simp at permits

end Dispatcher

/-- What the refusals of a dispatcher do after some events: no more than to refuse. -/
structure RefusalsHarmless (slots : Nat) (origin : Dispatcher) (events : List Event) : Prop where
  /-- A stream that is not cancelled is refused exactly if no slot is free when it asks. -/
  streams : ∀ (index : Nat) (task : StreamTask),
    (origin.play events).streams[index]? = some task → task.phase = .starting →
    (origin.play events).isCancelled task.context = false →
      Dispatcher.Asks slots (origin.play events) index task
  /-- A request that is neither cancelled nor late is not refused when it asks for a slot. -/
  asks : ∀ (index : Nat) (task : RequestTask),
    (origin.play events).requests[index]? = some task → Dispatcher.Seeks task →
    (origin.play events).isCancelled task.context = false →
    (origin.play events).now < task.deadline →
      ∃ turned, ((origin.play events).apply (.step (.request index))).requests[index]? =
          some turned ∧
        (turned.phase = .exchanging .unsent ∨ turned.phase = .waiting)
  /-- No request ends for want of slots, unless the transport itself says so. -/
  requests : ∀ (index : Nat) (task : RequestTask),
    (origin.play events).requests[index]? = some task →
    task.phase = .leaving (.error .tooManyRequests) ∨
      task.phase = .finished (.error .tooManyRequests) →
        origin.transport.Scripts .tooManyRequests
  /-- A request that is cancelled or late before it has a slot says so. -/
  results : ∀ (index : Nat) (task : RequestTask),
    (origin.play events).requests[index]? = some task → Dispatcher.Seeks task →
    (origin.play events).isCancelled task.context = true ∨
      task.deadline ≤ (origin.play events).now →
        ((origin.play events).apply (.step (.request index))).requests =
          (origin.play events).requests.set index
            { task with phase := .finished (.error ((origin.play events).waitError task)) }
  /-- In that case, and when it is given up, it leaves no trace and sends nothing, ever. -/
  withdrawals : ∀ (index : Nat) (task : RequestTask) (event : Event),
    (origin.play events).requests[index]? = some task → Dispatcher.Seeks task →
    event = .abort index ∨ (event = .step (.request index) ∧
      ((origin.play events).isCancelled task.context = true ∨
        task.deadline ≤ (origin.play events).now)) →
      Dispatcher.Withdrawn index (origin.play events) ((origin.play events).apply event) ∧
        ∀ later, Dispatcher.Unsent index origin (events ++ event :: later)

/-- Refusals have no effect but the refusal, after any events in any order. -/
theorem refusals_harmless (policy : Policy) (slots : Nat) (transport : Transport)
    (events : List Event) :
    RefusalsHarmless slots (Dispatcher.start policy slots transport) events := by
  have accounts := Dispatcher.play_accounts events _
    (Dispatcher.start_accounts policy slots transport)
  have inLine := Dispatcher.play_inLine events (Dispatcher.start_inLine policy slots transport)
  refine ⟨fun index task found phase calm => Dispatcher.stream_asks accounts found phase calm,
    fun index task found seeks calm early => Dispatcher.request_asks found seeks calm early, ?_,
    fun index task found seeks cause =>
      (Dispatcher.request_gives_up inLine found seeks cause).1, ?_⟩
  · intro index task found refused
    have ends := Dispatcher.play_endsBy events
      (fun error cause => (.inr cause : error = .cancelled ∨ transport.Scripts error ∨
        IsOfResponse error)) (.inl rfl) (by simp [Dispatcher.start]) index task found
    rcases ends .tooManyRequests refused with same | scripted | ofResponse
    · cases same
    · exact scripted
    · exact ofResponse.elim
  · intro index task event found seeks cause
    have withdrawn : Dispatcher.Withdrawn index
        ((Dispatcher.start policy slots transport).play events)
        (((Dispatcher.start policy slots transport).play events).apply event) := by
      rcases cause with rfl | ⟨rfl, cause⟩
      · exact Dispatcher.request_aborted inLine found seeks
      · exact (Dispatcher.request_gives_up inLine found seeks cause).2
    refine ⟨withdrawn, fun later => Dispatcher.untaken_unsent rfl ?_⟩
    rw [Dispatcher.ledger_append, Dispatcher.ledger]
    refine List.not_mem_append (Dispatcher.seeks_untaken events found seeks)
      (List.not_mem_append ?_ (withdrawn.never later))
    intro taken
    have holding := Dispatcher.holds_of_taken taken
    rw [withdrawn.without] at holding
    cases holding

/-- A stream has the only slot, two requests wait for it, and the one past the lock is cancelled.
Another stream has not asked yet. -/
def crowdedEvents : List Event :=
  [.deriveContext .background, .openStream .background ⟨"/query", "SELECT;"⟩, .step (.stream 0),
    .dispatch ⟨none, some 0⟩ ⟨"/ksql", "LIST STREAMS;"⟩, .step (.request 0),
    .dispatch .background ⟨"/ksql", "LIST TABLES;"⟩, .step (.request 1), .cancel 0,
    .openStream .background ⟨"/query", "SELECT;"⟩]

def crowded : Dispatcher :=
  (Dispatcher.start ⟨1000, 0, 1, maximalBodySize, maximalLineLength⟩ 1 (.ofScript [] none)).play
    crowdedEvents

/-- The stream is refused and counted, and the cancelled request passes the lock on. -/
theorem crowded_refusals :
    crowded.apply (.step (.stream 1)) =
        { crowded with
          streams := crowded.streams.set 1
            ⟨.background, ⟨"/query", "SELECT;"⟩, .refused .tooManyRequests, 0, .empty⟩
          statistics := crowded.statistics.countRejection } ∧
      crowded.budget.holder = some (.request 0) ∧
      Dispatcher.Withdrawn 0 crowded (crowded.apply (.step (.request 0))) ∧
      (crowded.apply (.step (.request 0))).budget.line = [.request 1] := by
  have harmless := refusals_harmless ⟨1000, 0, 1, maximalBodySize, maximalLineLength⟩ 1
    (.ofScript [] none) crowdedEvents
  have starting : crowded.streams[1]? =
      some ⟨.background, ⟨"/query", "SELECT;"⟩, .starting, 0, .empty⟩ := by
    cbv
  have full : crowded.budget.inFlight = 1 := by
    cbv
  have waiting : crowded.requests[0]? =
      some ⟨⟨none, some 0⟩, 1000, ⟨"/ksql", "LIST STREAMS;"⟩, .waiting⟩ := by
    cbv
  have line : crowded.budget.line = [.request 0, .request 1] := by
    cbv
  have asks := harmless.streams 1 _ starting rfl rfl
  have withdrawn : Dispatcher.Withdrawn 0 crowded (crowded.apply (.step (.request 0))) :=
    (harmless.withdrawals 0 _ (.step (.request 0)) waiting (.inr rfl)
      (.inr ⟨rfl, .inl rfl⟩)).1
  refine ⟨asks.alone full, rfl, withdrawn, ?_⟩
  rw [withdrawn.line, line]
  decide

end StreamQuery.Dispatch
