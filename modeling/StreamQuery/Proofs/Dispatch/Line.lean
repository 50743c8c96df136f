import StreamQuery.Proofs.Dispatch.SlotAccounts
import StreamQuery.Proofs.Dispatch.WakeUps
/-!
# The line before the slots

The tasks that wait for a slot stand in one line: the task past the admission lock comes first, then
those before it. A task joins the line at its end, gets a slot at its head, and leaves it from
anywhere when it gives up. Each event makes at most one operation on the budget of a dispatcher, so
that what holds between two operations holds in every state that a dispatcher can reach.
-/

namespace StreamQuery.Dispatch

namespace Budget

variable {α : Type}

/-- The tasks that wait for a slot, the first one first. -/
def line (budget : Budget α) : List α :=
  budget.holder.toList ++ budget.queue

/-- Nobody stands before an open lock. -/
def Orderly (budget : Budget α) : Prop :=
  budget.holder = none → budget.queue = []

theorem Orderly.holder {budget : Budget α} (orderly : budget.Orderly) :
    budget.holder = budget.line.head? := by
  unfold line
  cases locked : budget.holder with
  | none => rw [orderly locked]; rfl
  | some first => rfl

theorem notify_queue (budget : Budget α) : budget.notify.queue = budget.queue := by
  unfold notify
  split <;> rfl

theorem notify_line (budget : Budget α) : budget.notify.line = budget.line := by
  unfold notify
  split <;> rfl

theorem release_line (budget : Budget α) : budget.release.line = budget.line :=
  notify_line _

theorem take_line {budget taken : Budget α} (took : budget.take? = some taken) :
    taken.line = budget.line := by
  unfold take? at took
  split at took <;> cases took
  rfl

theorem unlock_line (budget : Budget α) : budget.unlock.line = budget.queue := by
  unfold unlock
  split
  · next none => simp [line, none]
  · next next rest queue => simp [line, queue]

theorem enter_line {budget : Budget α} (orderly : budget.Orderly) (task : α) :
    (budget.enter task).line = budget.line ++ [task] := by
  unfold enter
  split
  · next unlocked => simp [line, unlocked, orderly unlocked]
  · next first locked => simp [line, locked]

variable [DecidableEq α]

theorem contend_line {task : α} {budget : Budget α} (locked : budget.holder = some task) :
    budget.line =
      (if (budget.contend task).2 then [task] else []) ++ (budget.contend task).1.line := by
  by_cases free : budget.inFlight < budget.limit
  · simp only [contend, take?, free, if_true, unlock_line]
    simp [line, locked]
  · simp [contend, take?, free, line]

/-- A task that goes on with its wait gets a slot at the head of the line, or stays where it is. -/
theorem poll_line (task : α) (budget : Budget α) :
    budget.line =
      (if (budget.poll task).2 then [task] else []) ++ (budget.poll task).1.line := by
  by_cases runnable : budget.runnable? = some task
  · obtain ⟨locked, _⟩ := Option.filter_eq_some_iff.1 runnable
    rw [poll, if_pos runnable]
    exact contend_line locked
  · rw [poll, if_neg runnable]
    rfl

theorem queueUp_line {budget : Budget α} (orderly : budget.Orderly) (task : α) :
    budget.line ++ [task] =
      (if (budget.queueUp task).2 then [task] else []) ++ (budget.queueUp task).1.line := by
  rw [← enter_line orderly]
  exact poll_line task _

/-- A task that was not in the line and gets a slot through it found the line empty. -/
theorem queueUp_granted {budget : Budget α} {task : α} (orderly : budget.Orderly)
    (absent : task ∉ budget.line) (granted : (budget.queueUp task).2 = true) :
    budget.line = [] ∧ (budget.queueUp task).1.line = [] := by
  have moved := queueUp_line orderly task
  rw [granted, if_pos rfl] at moved
  cases waiting : budget.line with
  | nil =>
      rw [waiting] at moved
      exact ⟨rfl, (List.cons.inj moved).2.symm⟩
  | cons first rest =>
      rw [waiting] at moved absent
      have same : first = task := (List.cons.inj moved).1
      exact absurd (same ▸ List.mem_cons_self) absent

theorem abandon_line (task : α) (budget : Budget α) :
    (budget.abandon task).line = budget.line.erase task := by
  unfold abandon
  split
  · next locked =>
      have rest : budget.line.erase task = budget.queue := by simp [line, locked]
      rw [rest]
      split
      · rw [unlock_line, notify_queue]
      · exact unlock_line _
  · next unlocked =>
      have ahead : task ∉ budget.holder.toList := by simpa [eq_comm] using unlocked
      exact (List.erase_append_right _ ahead).symm

/-- How the line changes when one task goes from `waited` to `waits`. -/
def Queues (task : α) (waited waits : Bool) (before after : Budget α) : Prop :=
  match waited, waits with
  | false, true => after.line = before.line ++ [task]
  | true, false => after.line = before.line.erase task
  | _, _ => after.line = before.line

theorem queues_same (task : α) (waits : Bool) {before after : Budget α}
    (same : after.line = before.line) : Queues task waits waits before after := by
  cases waits <;> exact same

theorem poll_queues (task : α) (budget : Budget α) :
    Queues task true (!(budget.poll task).2) budget (budget.poll task).1 := by
  have moved := poll_line task budget
  cases granted : (budget.poll task).2 with
  | false =>
      rw [granted] at moved
      exact moved.symm
  | true =>
      rw [granted] at moved
      change (budget.poll task).1.line = budget.line.erase task
      rw [moved]
      exact (List.erase_cons_head _ _).symm

theorem queueUp_queues {budget : Budget α} {task : α} (orderly : budget.Orderly)
    (absent : task ∉ budget.line) :
    Queues task false (!(budget.queueUp task).2) budget (budget.queueUp task).1 := by
  cases granted : (budget.queueUp task).2 with
  | false =>
      have moved := queueUp_line orderly task
      rw [granted] at moved
      exact moved.symm
  | true =>
      obtain ⟨none, empty⟩ := queueUp_granted orderly absent granted
      exact empty.trans none.symm

theorem acquire_queues {budget : Budget α} {task : α} (orderly : budget.Orderly)
    (absent : task ∉ budget.line) :
    Queues task false (!(budget.acquire task).2) budget (budget.acquire task).1 := by
  unfold acquire
  split
  · next taken took => exact take_line took
  · exact queueUp_queues orderly absent

/-- A free slot goes to the task that looks for it. -/
theorem contend_granted (task : α) {budget : Budget α} (free : budget.isSaturated = false) :
    (budget.contend task).2 = true := by
  have room : budget.inFlight < budget.limit := by simpa [isSaturated] using free
  simp [contend, take?, room]

/-- Between two operations: some actions lead from rest to this budget. -/
def Rests (budget : Budget α) : Prop :=
  ∃ admission : Admission α, admission.AtRest ∧ admission.budget = budget

omit [DecidableEq α] in
theorem rests_ofLimit (limit : Nat) : Rests (ofLimit limit : Budget α) :=
  ⟨_, Admission.ofLimit_atRest limit, rfl⟩

theorem Rests.run {budget : Budget α} (rests : budget.Rests) (operation : Operation α) :
    (operation.run budget).Rests := by
  obtain ⟨admission, rest, rfl⟩ := rests
  have leads := Admission.operation_leads rest operation
  exact ⟨_, leads.rest, leads.same⟩

omit [DecidableEq α] in
theorem Rests.orderly {budget : Budget α} (rests : budget.Rests) : budget.Orderly := by
  obtain ⟨admission, rest, rfl⟩ := rests
  exact fun unlocked => (rest.kept.idle unlocked).1

omit [DecidableEq α] in
/-- A task that is put down as waiting is past the lock, and no slot is free. -/
theorem Rests.parked {budget : Budget α} {task : α} (rests : budget.Rests)
    (parked : task ∈ budget.parked) : budget.holder = some task ∧ budget.isSaturated = true := by
  obtain ⟨admission, rest, rfl⟩ := rests
  exact ⟨rest.kept.past (.inr (.inl parked)), rest.saturated parked⟩

/-- The first task in the line can go on unless it is put down as waiting. -/
theorem Rests.runnable {budget : Budget α} (rests : budget.Rests)
    (unparked : ∀ task, budget.line.head? = some task → task ∉ budget.parked) :
    budget.runnable? = budget.line.head? := by
  rw [runnable?, rests.orderly.holder]
  cases first : budget.line.head? with
  | none => rfl
  | some task => simpa using unparked task first

/-- While a slot is free, the first task in the line gets it as soon as it looks. -/
theorem Rests.served {budget : Budget α} {task : α} (rests : budget.Rests)
    (first : budget.line.head? = some task) (free : budget.isSaturated = false) :
    (budget.poll task).2 = true := by
  have runnable : budget.runnable? = some task := by
    rw [← first]
    refine rests.runnable fun other _ parked => ?_
    have full := (rests.parked parked).2
    rw [free] at full
    cases full
  rw [poll, if_pos runnable]
  exact contend_granted task free

end Budget

/-! ### One event -/

/-- True for a request that stands in the line. -/
def RequestTask.awaitsSlot (task : RequestTask) : Bool :=
  match task.phase with
  | .waiting => true
  | _ => false

/-- True for a stream that stands in the line. -/
def StreamTask.awaitsSlot (task : StreamTask) : Bool :=
  match task.phase with
  | .readmitting => true
  | _ => false

/-- At most one operation is made on the budget. -/
inductive OneOperation (before : Budget TaskId) : Budget TaskId → Prop where
  | none : OneOperation before before
  | run (operation : Operation TaskId) : OneOperation before (operation.run before)

section Turns

open Budget (Queues queues_same)

variable {dispatcher : Dispatcher} {index : Nat} {budget : Budget TaskId} {transport : Transport}

theorem RequestTurn.operation {task turned : RequestTask}
    (turn : RequestTurn dispatcher index task turned budget transport) :
    OneOperation dispatcher.budget budget := by
  cases turn with
  | gaveUp waiver cause =>
      cases waiver with
      | unasked phase => exact .none
      | waiting phase => exact .run (.abandon _)
  | admitted inquiry granted | queued inquiry granted =>
      cases inquiry with
      | first phase => exact .run (.acquire _)
      | again phase => exact .run (.poll _)
  | settled phase => exact .run .release
  | _ => exact .none

theorem RequestAbort.operation {task : RequestTask}
    (abort : RequestAbort dispatcher index task budget) :
    OneOperation dispatcher.budget budget := by
  cases abort with
  | unasked phase => exact .none
  | waiting phase => exact .run (.abandon _)
  | exchanging phase => exact .run .release

theorem StreamTurn.operation {task turned : StreamTask} {statistics : Statistics}
    (turn : StreamTurn dispatcher index task turned budget transport statistics) :
    OneOperation dispatcher.budget budget := by
  cases turn with
  | admitted phase took =>
      have taken : budget = Operation.take.run dispatcher.budget := by
        rw [Operation.run, took, Option.getD_some]
      rw [taken]
      exact .run .take
  | leftWait waiver gone | expiredWait waiver late =>
      cases waiver with
      | resting phase => exact .none
      | queued phase => exact .run (.abandon _)
  | readmitted inquiry granted | queued inquiry granted =>
      cases inquiry with
      | queue phase due => exact .run (.queueUp _)
      | again phase => exact .run (.poll _)
  | released phase => exact .run .release
  | _ => exact .none

theorem Effect.operation {after : Dispatcher} {event : Event}
    (effect : Effect dispatcher event after) : OneOperation dispatcher.budget after.budget := by
  cases effect with
  | requestTurned found turned =>
      obtain ⟨_, _, _, _, _, turn, rfl⟩ := turned
      exact turn.operation
  | streamTurned found turned =>
      obtain ⟨_, _, _, _, _, turn, rfl⟩ := turned
      exact turn.operation
  | aborted found abort => exact abort.operation
  | _ => exact .none

theorem RequestTurn.queues {task turned : RequestTask} (orderly : dispatcher.budget.Orderly)
    (absent : task.awaitsSlot = false → .request index ∉ dispatcher.budget.line)
    (turn : RequestTurn dispatcher index task turned budget transport) :
    Queues (.request index) task.awaitsSlot turned.awaitsSlot dispatcher.budget budget := by
  cases turn with
  | rest => exact queues_same _ _ rfl
  | gaveUp waiver cause =>
      cases waiver with
      | unasked phase =>
          simp only [RequestTask.awaitsSlot, phase]
          exact queues_same _ _ rfl
      | waiting phase =>
          simp only [RequestTask.awaitsSlot, phase]
          exact Budget.abandon_line _ _
  | admitted inquiry granted | queued inquiry granted =>
      cases inquiry with
      | first phase =>
          have out : task.awaitsSlot = false := by simp [RequestTask.awaitsSlot, phase]
          have moved := Budget.acquire_queues orderly (absent out)
          rw [granted] at moved
          rw [out]
          exact moved
      | again phase =>
          have moved := Budget.poll_queues (.request index) dispatcher.budget
          rw [granted] at moved
          simp only [RequestTask.awaitsSlot, phase]
          exact moved
  | exchanged phase turn | closed phase cause =>
      simp only [RequestTask.awaitsSlot, phase]
      exact queues_same _ _ rfl
  | settled phase =>
      simp only [RequestTask.awaitsSlot, phase]
      exact Budget.release_line _

theorem RequestAbort.queues {task : RequestTask}
    (abort : RequestAbort dispatcher index task budget) :
    Queues (.request index) task.awaitsSlot false dispatcher.budget budget := by
  cases abort with
  | unasked phase =>
      simp only [RequestTask.awaitsSlot, phase]
      exact queues_same _ _ rfl
  | waiting phase =>
      simp only [RequestTask.awaitsSlot, phase]
      exact Budget.abandon_line _ _
  | exchanging phase =>
      simp only [RequestTask.awaitsSlot, phase]
      exact Budget.release_line _

theorem SlotWaiver.queues {task : StreamTask}
    (waiver : SlotWaiver dispatcher index task budget) :
    Queues (.stream index) task.awaitsSlot false dispatcher.budget budget := by
  cases waiver with
  | resting phase =>
      simp only [StreamTask.awaitsSlot, phase]
      exact queues_same _ _ rfl
  | queued phase =>
      simp only [StreamTask.awaitsSlot, phase]
      exact Budget.abandon_line _ _

theorem SlotInquiry.queues {task : StreamTask} {asked : Budget TaskId × Bool}
    (orderly : dispatcher.budget.Orderly)
    (absent : task.awaitsSlot = false → .stream index ∉ dispatcher.budget.line)
    (inquiry : SlotInquiry dispatcher index task asked) :
    Queues (.stream index) task.awaitsSlot (!asked.2) dispatcher.budget asked.1 := by
  cases inquiry with
  | queue phase due =>
      have out : task.awaitsSlot = false := by simp [StreamTask.awaitsSlot, phase]
      rw [out]
      exact Budget.queueUp_queues orderly (absent out)
  | again phase =>
      simp only [StreamTask.awaitsSlot, phase]
      exact Budget.poll_queues _ _

theorem StreamTurn.queues {task turned : StreamTask} {statistics : Statistics}
    (orderly : dispatcher.budget.Orderly)
    (absent : task.awaitsSlot = false → .stream index ∉ dispatcher.budget.line)
    (turn : StreamTurn dispatcher index task turned budget transport statistics) :
    Queues (.stream index) task.awaitsSlot turned.awaitsSlot dispatcher.budget budget := by
  cases turn with
  | rest => exact queues_same _ _ rfl
  | admitted phase took =>
      simp only [StreamTask.awaitsSlot, phase]
      exact Budget.take_line took
  | opened phase step success =>
      rcases phase with phase | phase <;> simp only [StreamTask.awaitsSlot, phase] <;>
        exact queues_same _ _ rfl
  | left phase gone =>
      rcases phase with ⟨_, phase⟩ | ⟨_, _, phase⟩ | ⟨_, _, phase⟩ <;>
        simp only [StreamTask.awaitsSlot, phase] <;> exact queues_same _ _ rfl
  | leftWait waiver gone | expiredWait waiver late => exact waiver.queues
  | expired phase late =>
      rcases phase with phase | ⟨_, phase⟩ <;> simp only [StreamTask.awaitsSlot, phase] <;>
        exact queues_same _ _ rfl
  | readmitted inquiry granted | queued inquiry granted =>
      have moved := inquiry.queues orderly absent
      rw [granted] at moved
      exact moved
  | @deserted error held _ failing gone leaves | @failed error held _ failing listening room leaves =>
      subst leaves
      cases held <;> simp only [StreamTask.awaitsSlot, failing] <;> exact queues_same _ _ rfl
  | @released departure phase =>
      cases departure <;> simp only [StreamTask.awaitsSlot, Departure.phase, phase] <;>
        exact Budget.release_line _
  | declined phase | opening phase | refused phase | skipped phase | rebalanced phase
  | exhausted phase | marked phase | forwarded phase | stalled phase | handed phase
  | overlong phase | finished phase | fed phase | drained phase | broken phase | awaited phase
  | reopening phase | reopenFailed phase | reopenCancelled phase | ended phase =>
      simp only [StreamTask.awaitsSlot, phase]
      exact queues_same _ _ rfl

end Turns

namespace Dispatcher

/-- True for a task that stands in the line. -/
def awaits (dispatcher : Dispatcher) : TaskId → Bool
  | .request index => (dispatcher.requests[index]?).any RequestTask.awaitsSlot
  | .stream index => (dispatcher.streams[index]?).any StreamTask.awaitsSlot
  | .relay _ => false

/-- The effect of an event on the line: only one task can join or leave it. -/
structure LineShift (task : TaskId) (before after : Dispatcher) : Prop where
  queues : Budget.Queues task (before.awaits task) (after.awaits task) before.budget after.budget
  others : ∀ other, other ≠ task → after.awaits other = before.awaits other

/-- The line between two events: those who wait stand in it, each once. -/
structure InLine (dispatcher : Dispatcher) : Prop where
  rests : dispatcher.budget.Rests
  once : dispatcher.budget.line.Nodup
  waiting : ∀ task, task ∈ dispatcher.budget.line ↔ dispatcher.awaits task = true

variable {before after : Dispatcher}

theorem lineShift_request {index : Nat} {task turned : RequestTask}
    (found : before.requests[index]? = some task)
    (requests : after.requests = before.requests.set index turned)
    (streams : after.streams = before.streams)
    (queues : Budget.Queues (.request index) task.awaitsSlot turned.awaitsSlot before.budget
      after.budget) :
    LineShift (.request index) before after := by
  have bound := (List.getElem?_eq_some_iff.mp found).1
  have awaited : before.awaits (.request index) = task.awaitsSlot := by simp [awaits, found]
  have awaiting : after.awaits (.request index) = turned.awaitsSlot := by
    simp [awaits, requests, List.getElem?_set_self bound]
  refine ⟨?_, ?_⟩
  · rw [awaited, awaiting]
    exact queues
  · intro other different
    cases other with
    | request place =>
        have apart : index ≠ place := by
          rintro rfl
          exact different rfl
        simp [awaits, requests, List.getElem?_set_ne apart]
    | stream place => simp [awaits, streams]
    | relay signal => rfl

theorem lineShift_stream {index : Nat} {task turned : StreamTask}
    (found : before.streams[index]? = some task)
    (requests : after.requests = before.requests)
    (streams : after.streams = before.streams.set index turned)
    (queues : Budget.Queues (.stream index) task.awaitsSlot turned.awaitsSlot before.budget
      after.budget) :
    LineShift (.stream index) before after := by
  have bound := (List.getElem?_eq_some_iff.mp found).1
  have awaited : before.awaits (.stream index) = task.awaitsSlot := by simp [awaits, found]
  have awaiting : after.awaits (.stream index) = turned.awaitsSlot := by
    simp [awaits, streams, List.getElem?_set_self bound]
  refine ⟨?_, ?_⟩
  · rw [awaited, awaiting]
    exact queues
  · intro other different
    cases other with
    | request place => simp [awaits, requests]
    | stream place =>
        have apart : index ≠ place := by
          rintro rfl
          exact different rfl
        simp [awaits, streams, List.getElem?_set_ne apart]
    | relay signal => rfl

/-- An event after which the same tasks wait as before. -/
theorem lineShift_none (budget : after.budget = before.budget)
    (same : ∀ task, after.awaits task = before.awaits task) : LineShift (.relay 0) before after :=
  ⟨by rw [budget]; rfl, fun task _ => same task⟩

/-- A stream whose channel alone has changed waits if it waited. -/
theorem lineShift_channel {index : Nat} {task : StreamTask}
    {channel : Channel (Except RequestError String)} {ready : List TaskId}
    (found : before.streams[index]? = some task) :
    LineShift (.stream index) before
      { before with
        streams := before.streams.set index { task with channel := channel }
        ready := ready } :=
  lineShift_stream found rfl rfl (Budget.queues_same _ _ rfl)

theorem effect_lineShift {event : Event} (inLine : InLine before)
    (effect : Effect before event after) : ∃ task, LineShift task before after := by
  have orderly := inLine.rests.orderly
  cases effect with
  | aside later grows => exact ⟨_, lineShift_none rfl fun _ => rfl⟩
  | dispatched =>
      refine ⟨_, lineShift_none rfl fun task => ?_⟩
      cases task with
      | request index => exact any_append_idle RequestTask.awaitsSlot _ rfl index
      | stream index => rfl
      | relay signal => rfl
  | opened =>
      refine ⟨_, lineShift_none rfl fun task => ?_⟩
      cases task with
      | request index => rfl
      | stream index => exact any_append_idle StreamTask.awaitsSlot _ rfl index
      | relay signal => rfl
  | @requestTurned index task _ found turned =>
      obtain ⟨_, _, _, _, _, turn, rfl⟩ := turned
      have absent (out : task.awaitsSlot = false) : .request index ∉ before.budget.line := by
        rw [inLine.waiting]
        simp [awaits, found, out]
      exact ⟨_, lineShift_request found rfl rfl (turn.queues orderly absent)⟩
  | @streamTurned index task _ found turned =>
      obtain ⟨_, _, _, _, _, turn, rfl⟩ := turned
      have absent (out : task.awaitsSlot = false) : .stream index ∉ before.budget.line := by
        rw [inLine.waiting]
        simp [awaits, found, out]
      exact ⟨_, lineShift_stream found rfl rfl (turn.queues orderly absent)⟩
  | aborted found abort => exact ⟨_, lineShift_request found rfl rfl abort.queues⟩
  | received found item => exact ⟨_, lineShift_channel found⟩
  | closed found => exact ⟨_, lineShift_channel found⟩
  | dropped found => exact ⟨_, lineShift_channel found⟩

theorem shift_inLine {task : TaskId} (inLine : InLine before) (rests : after.budget.Rests)
    (shift : LineShift task before after) : InLine after := by
  obtain ⟨_, once, waiting⟩ := inLine
  obtain ⟨queues, others⟩ := shift
  have awaitedIff := waiting task
  have othersIff (other : TaskId) (apart : other ≠ task) :
      other ∈ before.budget.line ↔ after.awaits other = true := by
    rw [others other apart]
    exact waiting other
  cases awaited : before.awaits task <;> cases awaiting : after.awaits task <;>
    simp only [awaited, awaiting, Budget.Queues] at queues awaitedIff
  case false.true =>
    have absent : task ∉ before.budget.line := by simpa using awaitedIff
    refine ⟨rests, ?_, fun other => ?_⟩
    · rw [queues, ← List.concat_eq_append]
      exact once.concat absent
    · rw [queues, List.mem_append, List.mem_singleton]
      by_cases same : other = task
      · simp [same, awaiting]
      · simp [same, othersIff other same]
  case true.false =>
    refine ⟨rests, queues ▸ once.erase _, fun other => ?_⟩
    rw [queues, once.mem_erase_iff]
    by_cases same : other = task
    · simp [same, awaiting]
    · simp [same, othersIff other same]
  all_goals
    refine ⟨rests, queues ▸ once, fun other => ?_⟩
    rw [queues]
    by_cases same : other = task
    · simpa [same, awaiting] using awaitedIff
    · exact othersIff other same

theorem start_inLine (policy : Policy) (slots : Nat) (transport : Transport) :
    InLine (start policy slots transport) := by
  refine ⟨Budget.rests_ofLimit slots, List.nodup_nil, fun task => ?_⟩
  cases task <;> simp [start, Budget.ofLimit, Budget.line, awaits]

theorem apply_inLine {dispatcher : Dispatcher} (inLine : InLine dispatcher) (event : Event) :
    InLine (dispatcher.apply event) := by
  have effect := dispatcher.apply_effect event
  obtain ⟨_, shift⟩ := effect_lineShift inLine effect
  refine shift_inLine inLine ?_ shift
  have operation := effect.operation
  generalize (dispatcher.apply event).budget = budget at operation ⊢
  cases operation with
  | none => exact inLine.rests
  | run operation => exact inLine.rests.run operation

theorem play_inLine (events : List Event) {dispatcher : Dispatcher}
    (inLine : InLine dispatcher) : InLine (dispatcher.play events) := by
  induction events generalizing dispatcher with
  | nil => exact inLine
  | cons event rest induction => exact induction (apply_inLine inLine event)

/-- A task that took a slot by an event has it afterwards. -/
theorem holds_of_taken {task : TaskId} (taken : task ∈ (before.entries after).taken) :
    after.holds task = true :=
  (Bool.and_eq_true_iff.1 (List.mem_filter.1 taken).2).2

end Dispatcher

end StreamQuery.Dispatch
