import StreamQuery.Proofs.Dispatch.ChannelEnd
import StreamQuery.Proofs.Dispatch.SlotMoves
import Mathlib.Data.List.Nodup
/-!
# The accounts of the slots

A task holds a permit in some of its phases. Whatever happens to a dispatcher, in whatever order, its
counter is the number of permits that are held, each permit is taken once and given back once, and
the peak is the largest value that the counter ever had. The main statement is at the end; it rests
on one fact about a single event: at most one task takes or gives back a permit by it, and the
counter goes along.
-/

namespace StreamQuery.Dispatch

open Budget (Moves Quiet)

namespace Dispatcher

def holds (dispatcher : Dispatcher) : TaskId → Bool
  | .request index => (dispatcher.requests[index]?).any RequestTask.holdsSlot
  | .stream index => (dispatcher.streams[index]?).any StreamTask.holdsSlot
  | .relay _ => false

/-- The number of tasks that hold a permit. -/
def permits (dispatcher : Dispatcher) : Nat :=
  dispatcher.requests.countP RequestTask.holdsSlot +
    dispatcher.streams.countP StreamTask.holdsSlot

/-- The number of tasks whose response is open at the transport. -/
def openResponses (dispatcher : Dispatcher) : Nat :=
  dispatcher.requests.countP RequestTask.isOpen + dispatcher.streams.countP StreamTask.isOpen

/-- No request is left: every task has come to its end. -/
def IsIdle (dispatcher : Dispatcher) : Prop :=
  (∀ task ∈ dispatcher.requests, task.isLive = false) ∧
    ∀ task ∈ dispatcher.streams, task.isLive = false

def tasks (dispatcher : Dispatcher) : List TaskId :=
  (List.range dispatcher.requests.length).map TaskId.request ++
    (List.range dispatcher.streams.length).map TaskId.stream

end Dispatcher

/-- Who took a permit and who gave one back, in the order of events. -/
structure Ledger where
  taken : List TaskId
  returned : List TaskId

namespace Dispatcher

/-- The entries of one event: the tasks that hold a permit now and did not before, and those that
did and do not now. -/
def entries (before after : Dispatcher) : Ledger where
  taken := after.tasks.filter fun task => !before.holds task && after.holds task
  returned := after.tasks.filter fun task => before.holds task && !after.holds task

def ledger : List Event → Dispatcher → Ledger
  | [], _ => ⟨[], []⟩
  | event :: rest, dispatcher =>
      let next := dispatcher.apply event
      let later := ledger rest next
      let now := dispatcher.entries next
      ⟨now.taken ++ later.taken, now.returned ++ later.returned⟩

/-- The largest value of the counter in all the states that some events lead through. -/
def highest : List Event → Dispatcher → Nat
  | [], dispatcher => dispatcher.budget.inFlight
  | event :: rest, dispatcher =>
      max dispatcher.budget.inFlight (highest rest (dispatcher.apply event))

end Dispatcher

/-! ### One event -/

theorem RequestTurn.moves {dispatcher : Dispatcher} {index : Nat} {task turned : RequestTask}
    {budget : Budget TaskId} {transport : Transport}
    (turn : RequestTurn dispatcher index task turned budget transport) :
    Moves task.holdsSlot turned.holdsSlot dispatcher.budget budget := by
  cases turn with
  | rest => exact Budget.moves_same _ (Quiet.refl _)
  | gaveUp waiver cause =>
      cases waiver with
      | unasked phase =>
          simp only [RequestTask.holdsSlot, phase]
          exact Quiet.refl _
      | waiting phase =>
          simp only [RequestTask.holdsSlot, phase]
          exact Budget.abandon_quiet _ _
  | admitted inquiry granted =>
      cases inquiry with
      | first phase =>
          have moved := Budget.acquire_moves (.request index) dispatcher.budget
          simpa only [RequestTask.holdsSlot, phase, granted] using moved
      | again phase =>
          have moved := Budget.poll_moves (.request index) dispatcher.budget
          simpa only [RequestTask.holdsSlot, phase, granted] using moved
  | queued inquiry granted =>
      cases inquiry with
      | first phase =>
          have moved := Budget.acquire_moves (.request index) dispatcher.budget
          simpa only [RequestTask.holdsSlot, phase, granted] using moved
      | again phase =>
          have moved := Budget.poll_moves (.request index) dispatcher.budget
          simpa only [RequestTask.holdsSlot, phase, granted] using moved
  | exchanged phase turn =>
      simp only [RequestTask.holdsSlot, phase]
      exact Quiet.refl _
  | closed phase cause =>
      simp only [RequestTask.holdsSlot, phase]
      exact Quiet.refl _
  | settled phase =>
      simp only [RequestTask.holdsSlot, phase]
      exact Budget.release_returned _

theorem RequestAbort.moves {dispatcher : Dispatcher} {index : Nat} {task : RequestTask}
    {budget : Budget TaskId} (abort : RequestAbort dispatcher index task budget) :
    Moves task.holdsSlot false dispatcher.budget budget := by
  cases abort with
  | unasked phase =>
      simp only [RequestTask.holdsSlot, phase]
      exact Quiet.refl _
  | waiting phase =>
      simp only [RequestTask.holdsSlot, phase]
      exact Budget.abandon_quiet _ _
  | exchanging phase =>
      simp only [RequestTask.holdsSlot, phase]
      exact Budget.release_returned _

theorem SlotWaiver.quiet {dispatcher : Dispatcher} {index : Nat} {task : StreamTask}
    {budget : Budget TaskId} (waiver : SlotWaiver dispatcher index task budget) :
    task.holdsSlot = false ∧ Quiet dispatcher.budget budget := by
  cases waiver with
  | resting phase => exact ⟨by simp [StreamTask.holdsSlot, phase], Quiet.refl _⟩
  | queued phase =>
      exact ⟨by simp [StreamTask.holdsSlot, phase], Budget.abandon_quiet _ _⟩

theorem SlotInquiry.moves {dispatcher : Dispatcher} {index : Nat} {task : StreamTask}
    {asked : Budget TaskId × Bool} (inquiry : SlotInquiry dispatcher index task asked) :
    task.holdsSlot = false ∧ Moves false asked.2 dispatcher.budget asked.1 := by
  cases inquiry with
  | queue phase due =>
      exact ⟨by simp [StreamTask.holdsSlot, phase], Budget.queueUp_moves _ _⟩
  | again phase => exact ⟨by simp [StreamTask.holdsSlot, phase], Budget.poll_moves _ _⟩

/-- After its slot was given back a stream has none, whatever it does next. -/
theorem departure_holds_none (task : StreamTask) (now backoff : Nat) (departure : Departure) :
    { task with phase := departure.phase now backoff }.holdsSlot = false := by
  cases departure <;> rfl

theorem StreamTurn.moves {dispatcher : Dispatcher} {index : Nat} {task turned : StreamTask}
    {budget : Budget TaskId} {transport : Transport} {statistics : Statistics}
    (turn : StreamTurn dispatcher index task turned budget transport statistics) :
    Moves task.holdsSlot turned.holdsSlot dispatcher.budget budget := by
  cases turn with
  | rest => exact Budget.moves_same _ (Quiet.refl _)
  | admitted phase took =>
      simp only [StreamTask.holdsSlot, phase]
      exact Budget.take_taken took
  | opened phase step success =>
      rcases phase with phase | phase <;> simp only [StreamTask.holdsSlot, phase] <;>
        exact Quiet.refl _
  | left phase gone =>
      rcases phase with ⟨_, phase⟩ | ⟨_, _, phase⟩ | ⟨_, _, phase⟩ <;>
        simp only [StreamTask.holdsSlot, phase] <;> exact Quiet.refl _
  | leftWait waiver gone =>
      rw [waiver.quiet.1]
      exact waiver.quiet.2
  | expired phase late =>
      rcases phase with phase | ⟨_, phase⟩ <;> simp only [StreamTask.holdsSlot, phase] <;>
        exact Quiet.refl _
  | expiredWait waiver late =>
      rw [waiver.quiet.1]
      exact waiver.quiet.2
  | readmitted inquiry granted =>
      have moved := inquiry.moves.2
      rw [granted] at moved
      rw [inquiry.moves.1]
      exact moved
  | queued inquiry granted =>
      have moved := inquiry.moves.2
      rw [granted] at moved
      rw [inquiry.moves.1]
      exact moved
  | @deserted error held _ failing gone leaves =>
      subst leaves
      cases held <;> simp only [StreamTask.holdsSlot, failing] <;> exact Quiet.refl _
  | @failed error held _ failing listening room leaves =>
      subst leaves
      cases held <;> simp only [StreamTask.holdsSlot, failing] <;> exact Quiet.refl _
  | released phase =>
      rw [departure_holds_none]
      simp only [StreamTask.holdsSlot, phase]
      exact Budget.release_returned _
  | declined phase | opening phase | refused phase | skipped phase | rebalanced phase
  | exhausted phase | marked phase | forwarded phase | stalled phase | handed phase
  | overlong phase | finished phase | fed phase | drained phase | broken phase | awaited phase
  | reopening phase | reopenFailed phase | reopenCancelled phase | ended phase =>
      simp only [StreamTask.holdsSlot, phase]
      exact Quiet.refl _

namespace Dispatcher

/-- The effect of an event on permits: only one task can take one or give one back, and the counter
moves with that task. -/
structure Shift (task : TaskId) (before after : Dispatcher) : Prop where
  moves : Moves (before.holds task) (after.holds task) before.budget after.budget
  others : ∀ other, other ≠ task → after.holds other = before.holds other
  permits : after.permits + (before.holds task).toNat =
    before.permits + (after.holds task).toNat
  tasks : ∀ other ∈ before.tasks, other ∈ after.tasks

variable {before after : Dispatcher}

theorem countP_set_add {α : Type} {items : List α} {place : Nat} {item : α} (p : α → Bool)
    (found : items[place]? = some item) (other : α) :
    (items.set place other).countP p + (p item).toNat = items.countP p + (p other).toNat := by
  obtain ⟨bound, rfl⟩ := List.getElem?_eq_some_iff.mp found
  have counted : (p items[place]).toNat ≤ items.countP p := by
    cases holds : p items[place] with
    | false => exact Nat.zero_le _
    | true => exact List.countP_pos_iff.mpr ⟨_, List.getElem_mem bound, holds⟩
  rw [List.countP_set bound]
  cases left : p items[place] <;> rw [left] at counted <;> cases right : p other <;>
    simp only [Bool.toNat_true, Bool.toNat_false, if_true, Bool.false_eq_true, if_false] at * <;>
    omega

theorem mem_tasks_mono (requests : before.requests.length ≤ after.requests.length)
    (streams : before.streams.length ≤ after.streams.length) :
    ∀ other ∈ before.tasks, other ∈ after.tasks := by
  intro other member
  simp only [tasks, List.mem_append, List.mem_map, List.mem_range] at member ⊢
  rcases member with ⟨index, bound, rfl⟩ | ⟨index, bound, rfl⟩
  · exact .inl ⟨index, by omega, rfl⟩
  · exact .inr ⟨index, by omega, rfl⟩

theorem shift_request {index : Nat} {task turned : RequestTask}
    (found : before.requests[index]? = some task)
    (requests : after.requests = before.requests.set index turned)
    (streams : after.streams = before.streams)
    (moves : Moves task.holdsSlot turned.holdsSlot before.budget after.budget) :
    Shift (.request index) before after := by
  have bound := (List.getElem?_eq_some_iff.mp found).1
  have held : before.holds (.request index) = task.holdsSlot := by simp [holds, found]
  have holding : after.holds (.request index) = turned.holdsSlot := by
    simp [holds, requests, List.getElem?_set_self bound]
  refine ⟨?_, ?_, ?_, mem_tasks_mono (by simp [requests]) (by simp [streams])⟩
  · rw [held, holding]
    exact moves
  · intro other different
    cases other with
    | request place =>
        have apart : index ≠ place := by
          rintro rfl
          exact different rfl
        simp [holds, requests, List.getElem?_set_ne apart]
    | stream place => simp [holds, streams]
    | relay signal => rfl
  · have counted := countP_set_add RequestTask.holdsSlot found turned
    rw [held, holding]
    simp only [permits, requests, streams]
    omega

theorem shift_stream {index : Nat} {task turned : StreamTask}
    (found : before.streams[index]? = some task)
    (requests : after.requests = before.requests)
    (streams : after.streams = before.streams.set index turned)
    (moves : Moves task.holdsSlot turned.holdsSlot before.budget after.budget) :
    Shift (.stream index) before after := by
  have bound := (List.getElem?_eq_some_iff.mp found).1
  have held : before.holds (.stream index) = task.holdsSlot := by simp [holds, found]
  have holding : after.holds (.stream index) = turned.holdsSlot := by
    simp [holds, streams, List.getElem?_set_self bound]
  refine ⟨?_, ?_, ?_, mem_tasks_mono (by simp [requests]) (by simp [streams])⟩
  · rw [held, holding]
    exact moves
  · intro other different
    cases other with
    | request place => simp [holds, requests]
    | stream place =>
        have apart : index ≠ place := by
          rintro rfl
          exact different rfl
        simp [holds, streams, List.getElem?_set_ne apart]
    | relay signal => rfl
  · have counted := countP_set_add StreamTask.holdsSlot found turned
    rw [held, holding]
    simp only [permits, requests, streams]
    omega

/-- An event after which the same tasks hold permits as before. -/
theorem shift_none (budget : after.budget = before.budget)
    (same : ∀ task, after.holds task = before.holds task)
    (permits : after.permits = before.permits)
    (tasks : ∀ other ∈ before.tasks, other ∈ after.tasks) :
    Shift (.relay 0) before after where
  moves := by
    rw [budget]
    exact Quiet.refl _
  others task _ := same task
  permits := by
    rw [permits]
    rfl
  tasks := tasks

/-- A stream whose channel alone has changed holds what it held. -/
theorem shift_channel {index : Nat} {task : StreamTask}
    {channel : Channel (Except RequestError String)} {ready : List TaskId}
    (found : before.streams[index]? = some task) :
    Shift (.stream index) before
      { before with
        streams := before.streams.set index { task with channel := channel }
        ready := ready } :=
  shift_stream found rfl rfl (Budget.moves_same _ (Quiet.refl _))

theorem any_append_idle {α : Type} (p : α → Bool) (items : List α) {item : α}
    (idle : p item = false) (place : Nat) :
    ((items ++ [item])[place]?).any p = (items[place]?).any p := by
  rcases Nat.lt_trichotomy place items.length with inside | rfl | outside
  · rw [List.getElem?_append_left inside]
  · simp [idle]
  · have beyond : (items ++ [item]).length ≤ place := by
      rw [List.length_append, List.length_singleton]
      exact outside
    rw [List.getElem?_eq_none beyond, List.getElem?_eq_none (Nat.le_of_lt outside)]

theorem effect_shift {event : Event} (effect : Effect before event after) :
    ∃ task, Shift task before after := by
  cases effect with
  | aside later grows => exact ⟨_, shift_none rfl (fun _ => rfl) rfl fun _ member => member⟩
  | dispatched =>
      refine ⟨_, shift_none rfl ?_ ?_ (mem_tasks_mono (by simp) (Nat.le_refl _))⟩
      · intro task
        cases task with
        | request index => exact any_append_idle RequestTask.holdsSlot _ rfl index
        | stream index => rfl
        | relay signal => rfl
      · simp [permits, RequestTask.holdsSlot]
  | opened =>
      refine ⟨_, shift_none rfl ?_ ?_ (mem_tasks_mono (Nat.le_refl _) (by simp))⟩
      · intro task
        cases task with
        | request index => rfl
        | stream index => exact any_append_idle StreamTask.holdsSlot _ rfl index
        | relay signal => rfl
      · simp [permits, StreamTask.holdsSlot]
  | requestTurned found turned =>
      obtain ⟨_, _, _, _, _, turn, rfl⟩ := turned
      exact ⟨_, shift_request found rfl rfl turn.moves⟩
  | streamTurned found turned =>
      obtain ⟨_, _, _, _, _, turn, rfl⟩ := turned
      exact ⟨_, shift_stream found rfl rfl turn.moves⟩
  | aborted found abort => exact ⟨_, shift_request found rfl rfl abort.moves⟩
  | received found item => exact ⟨_, shift_channel found⟩
  | closed found => exact ⟨_, shift_channel found⟩
  | dropped found => exact ⟨_, shift_channel found⟩

/-! ### The entries of one event -/

theorem tasks_nodup (dispatcher : Dispatcher) : dispatcher.tasks.Nodup := by
  unfold tasks
  refine List.nodup_append.mpr ⟨?_, ?_, ?_⟩
  · exact List.Nodup.map (fun _ _ same => TaskId.request.inj same) List.nodup_range
  · exact List.Nodup.map (fun _ _ same => TaskId.stream.inj same) List.nodup_range
  · intro request left stream right same
    obtain ⟨_, _, rfl⟩ := List.mem_map.mp left
    obtain ⟨_, _, rfl⟩ := List.mem_map.mp right
    cases same

theorem mem_tasks_of_holds {dispatcher : Dispatcher} {task : TaskId}
    (held : dispatcher.holds task = true) : task ∈ dispatcher.tasks := by
  simp only [tasks, List.mem_append, List.mem_map, List.mem_range]
  cases task with
  | request index =>
      cases found : dispatcher.requests[index]? with
      | none => simp [holds, found] at held
      | some task => exact .inl ⟨index, (List.getElem?_eq_some_iff.mp found).1, rfl⟩
  | stream index =>
      cases found : dispatcher.streams[index]? with
      | none => simp [holds, found] at held
      | some task => exact .inr ⟨index, (List.getElem?_eq_some_iff.mp found).1, rfl⟩
  | relay signal => cases held

/-- What a condition that only one task can meet picks from a list of tasks. -/
theorem filter_single {tasks : List TaskId} {task : TaskId} {condition : TaskId → Bool}
    (nodup : tasks.Nodup) (member : condition task = true → task ∈ tasks)
    (others : ∀ other, other ≠ task → condition other = false) :
    tasks.filter condition = if condition task then [task] else [] := by
  cases met : condition task with
  | false =>
      refine List.filter_eq_nil_iff.mpr ?_
      intro other _
      by_cases same : other = task
      · simp [same, met]
      · simp [others other same]
  | true =>
      have equal : ∀ other ∈ tasks, condition other = (other == task) := by
        intro other _
        by_cases same : other = task
        · simp [same, met]
        · simp [others other same, same]
      rw [List.filter_congr equal, List.filter_beq, List.count_eq_one_of_mem nodup (member met)]
      rfl

variable {task : TaskId}

theorem entries_taken (shift : Shift task before after) :
    (before.entries after).taken =
      if !before.holds task && after.holds task then [task] else [] := by
  refine filter_single (tasks_nodup after) ?_ ?_
  · intro took
    exact mem_tasks_of_holds (by simpa using (Bool.and_eq_true_iff.mp took).2)
  · intro other different
    rw [shift.others other different]
    cases before.holds other <;> rfl

theorem entries_returned (shift : Shift task before after) :
    (before.entries after).returned =
      if before.holds task && !after.holds task then [task] else [] := by
  refine filter_single (tasks_nodup after) ?_ ?_
  · intro gave
    exact shift.tasks task (mem_tasks_of_holds (Bool.and_eq_true_iff.mp gave).1)
  · intro other different
    rw [shift.others other different]
    cases before.holds other <;> rfl

/-- Of every task, the permits taken and given back by one event fit with what it holds. -/
theorem entries_count (shift : Shift task before after) (other : TaskId) :
    (before.entries after).taken.count other + (before.holds other).toNat =
      (before.entries after).returned.count other + (after.holds other).toNat := by
  rw [entries_taken shift, entries_returned shift]
  by_cases same : task = other
  · subst same
    cases before.holds task <;> cases after.holds task <;> simp
  · have unchanged := shift.others other fun equal => same equal.symm
    rw [unchanged]
    cases before.holds task <;> cases after.holds task <;> simp [same]

/-! ### Invariant -/

structure Accounts (slots : Nat) (dispatcher : Dispatcher) : Prop where
  limit : dispatcher.budget.limit = slots
  counter : dispatcher.budget.inFlight = dispatcher.permits
  bounded : dispatcher.budget.inFlight ≤ slots
  reached : dispatcher.budget.inFlight ≤ dispatcher.budget.peak
  peakBounded : dispatcher.budget.peak ≤ slots

theorem start_accounts (policy : Policy) (slots : Nat) (transport : Transport) :
    Accounts slots (start policy slots transport) :=
  ⟨rfl, rfl, Nat.zero_le _, Nat.le_refl _, Nat.zero_le _⟩

/-- What one event does to the counter: it follows the entries, and the peak follows the counter. -/
structure Step (slots : Nat) (before after : Dispatcher) : Prop where
  accounts : Accounts slots after
  counter : after.budget.inFlight + (before.entries after).returned.length =
    before.budget.inFlight + (before.entries after).taken.length
  peak : after.budget.peak = max before.budget.peak after.budget.inFlight

theorem shift_step {slots : Nat} (accounts : Accounts slots before)
    (shift : Shift task before after) : Step slots before after := by
  obtain ⟨limit, counter, bounded, reached, peakBounded⟩ := accounts
  have moves := shift.moves
  have permits := shift.permits
  have taken := entries_taken shift
  have returned := entries_returned shift
  cases held : before.holds task <;> cases holding : after.holds task <;>
    simp only [held, holding, Budget.Moves, Bool.toNat_true, Bool.toNat_false, Nat.add_zero]
      at moves permits taken returned
  · have same := moves.inFlight
    have peak := moves.peak
    refine ⟨⟨moves.limit.trans limit, ?_, ?_, ?_, ?_⟩, ?_, ?_⟩
    case refine_5 => simp [taken, returned, same]
    all_goals omega
  · have free := moves.free
    have grown := moves.inFlight
    have peak := moves.peak
    refine ⟨⟨moves.limit.trans limit, ?_, ?_, ?_, ?_⟩, ?_, ?_⟩
    case refine_5 => simp [taken, returned, grown]
    all_goals omega
  · have shrunk := moves.inFlight
    have peak := moves.peak
    refine ⟨⟨moves.limit.trans limit, ?_, ?_, ?_, ?_⟩, ?_, ?_⟩
    case refine_5 =>
      simp only [taken, returned, Bool.not_false, Bool.and_self, if_true, Bool.not_true,
        Bool.false_eq_true, if_false, List.length_singleton, List.length_nil]
      omega
    all_goals omega
  · have same := moves.inFlight
    have peak := moves.peak
    refine ⟨⟨moves.limit.trans limit, ?_, ?_, ?_, ?_⟩, ?_, ?_⟩
    case refine_5 => simp [taken, returned, same]
    all_goals omega

theorem apply_step {slots : Nat} {dispatcher : Dispatcher} (accounts : Accounts slots dispatcher)
    (event : Event) : Step slots dispatcher (dispatcher.apply event) := by
  obtain ⟨_, shift⟩ := effect_shift (dispatcher.apply_effect event)
  exact shift_step accounts shift

/-! ### Runs -/

theorem play_accounts {slots : Nat} (events : List Event) (dispatcher : Dispatcher)
    (accounts : Accounts slots dispatcher) : Accounts slots (dispatcher.play events) := by
  induction events generalizing dispatcher with
  | nil => exact accounts
  | cons event rest induction => exact induction _ (apply_step accounts event).accounts

theorem play_counter {slots : Nat} (events : List Event) (dispatcher : Dispatcher)
    (accounts : Accounts slots dispatcher) :
    (dispatcher.play events).budget.inFlight + (dispatcher.ledger events).returned.length =
      dispatcher.budget.inFlight + (dispatcher.ledger events).taken.length := by
  induction events generalizing dispatcher with
  | nil => rfl
  | cons event rest induction =>
      have step := apply_step accounts event
      have later := induction _ step.accounts
      have now := step.counter
      simp only [play, ledger, List.length_append] at later ⊢
      omega

theorem play_permits (events : List Event) (dispatcher : Dispatcher) (task : TaskId) :
    (dispatcher.ledger events).taken.count task + (dispatcher.holds task).toNat =
      (dispatcher.ledger events).returned.count task +
        ((dispatcher.play events).holds task).toNat := by
  induction events generalizing dispatcher with
  | nil => rfl
  | cons event rest induction =>
      obtain ⟨_, shift⟩ := effect_shift (dispatcher.apply_effect event)
      have now := entries_count shift task
      have later := induction (dispatcher.apply event)
      simp only [play, ledger, List.count_append] at later ⊢
      omega

theorem inFlight_le_highest (events : List Event) (dispatcher : Dispatcher) :
    dispatcher.budget.inFlight ≤ dispatcher.highest events := by
  cases events with
  | nil => exact Nat.le_refl _
  | cons event rest => exact Nat.le_max_left _ _

theorem play_peak {slots : Nat} (events : List Event) (dispatcher : Dispatcher)
    (accounts : Accounts slots dispatcher) :
    (dispatcher.play events).budget.peak =
      max dispatcher.budget.peak (dispatcher.highest events) := by
  induction events generalizing dispatcher with
  | nil => exact (Nat.max_eq_left accounts.reached).symm
  | cons event rest induction =>
      have step := apply_step accounts event
      have later := induction _ step.accounts
      have now := step.peak
      have reached := accounts.reached
      have first := inFlight_le_highest rest (dispatcher.apply event)
      simp only [play, highest] at later ⊢
      omega

theorem openResponses_le_permits (dispatcher : Dispatcher) :
    dispatcher.openResponses ≤ dispatcher.permits := by
  refine Nat.add_le_add (List.countP_mono_left ?_) (List.countP_mono_left ?_)
  · intro task _ isOpen
    unfold RequestTask.isOpen at isOpen
    unfold RequestTask.holdsSlot
    cases phase : task.phase <;> simp [phase] at isOpen ⊢
  · intro task _ isOpen
    unfold StreamTask.isOpen at isOpen
    unfold StreamTask.holdsSlot
    cases phase : task.phase with
    | failing error held => cases held <;> simp [phase] at isOpen ⊢
    | _ => simp [phase] at isOpen ⊢

theorem permits_idle {dispatcher : Dispatcher} (idle : dispatcher.IsIdle) :
    dispatcher.permits = 0 := by
  obtain ⟨requests, streams⟩ := idle
  have noRequest : dispatcher.requests.countP RequestTask.holdsSlot = 0 := by
    refine List.countP_eq_zero.mpr fun task member => ?_
    have done := requests task member
    unfold RequestTask.isLive at done
    unfold RequestTask.holdsSlot
    cases phase : task.phase <;> simp [phase] at done ⊢
  have noStream : dispatcher.streams.countP StreamTask.holdsSlot = 0 := by
    refine List.countP_eq_zero.mpr fun task member => ?_
    have done := streams task member
    unfold StreamTask.isLive at done
    unfold StreamTask.holdsSlot
    cases phase : task.phase <;> simp [phase] at done ⊢
  rw [permits, noRequest, noStream]

end Dispatcher

/-- What holds of the slots of a dispatcher after some events. -/
structure SlotsAccounted (slots : Nat) (origin : Dispatcher) (events : List Event) : Prop where
  counter : (origin.play events).budget.inFlight = (origin.play events).permits
  bounded : (origin.play events).budget.inFlight ≤ slots
  responses : (origin.play events).openResponses ≤ (origin.play events).budget.inFlight
  /-- A permit that was taken was given back once, or its task holds it. -/
  once : ∀ task, (origin.ledger events).taken.count task =
    (origin.ledger events).returned.count task + ((origin.play events).holds task).toNat
  /-- The counter moves by one with every permit taken or given back, and not otherwise. -/
  balance : (origin.play events).budget.inFlight + (origin.ledger events).returned.length =
    (origin.ledger events).taken.length
  peak : (origin.play events).budget.peak = origin.highest events
  peakBounded : (origin.play events).budget.peak ≤ slots
  /-- The end of a channel that its consumer did not close comes last. -/
  endLast : ∀ (index : Nat) (task : StreamTask),
    (origin.play events).streams[index]? = some task →
    ((origin.play events).receive index).1 = some .ended →
      task.channel.receiver = .listening → task.isOpen = false ∧ task.holdsSlot = false
  idle : (origin.play events).IsIdle → (origin.play events).budget.inFlight = 0

/-- The slots are accounted for after any events in any order, of any tasks, over any transport. -/
theorem slots_accounted (policy : Policy) (slots : Nat) (transport : Transport)
    (events : List Event) :
    SlotsAccounted slots (Dispatcher.start policy slots transport) events := by
  have begun := Dispatcher.start_accounts policy slots transport
  have accounts := Dispatcher.play_accounts events _ begun
  refine ⟨accounts.counter, accounts.bounded, ?_, ?_, ?_, ?_, accounts.peakBounded, ?_, ?_⟩
  · rw [accounts.counter]
    exact Dispatcher.openResponses_le_permits _
  · intro task
    have none : (Dispatcher.start policy slots transport).holds task = false := by
      cases task <;> rfl
    have permits := Dispatcher.play_permits events (Dispatcher.start policy slots transport) task
    rw [none] at permits
    exact permits
  · have counter := Dispatcher.play_counter events _ begun
    have zero : (Dispatcher.start policy slots transport).budget.inFlight = 0 := rfl
    rw [zero, Nat.zero_add] at counter
    exact counter
  · have peak := Dispatcher.play_peak events _ begun
    have zero : (Dispatcher.start policy slots transport).budget.peak = 0 := rfl
    rw [zero, Nat.zero_max] at peak
    exact peak
  · intro index task found ended listening
    have last := Dispatcher.start_channel policy slots transport index
    exact Dispatcher.ended_holds_none (Dispatcher.play_channel events _ last) found ended listening
  · intro idle
    rw [accounts.counter]
    exact Dispatcher.permits_idle idle

end StreamQuery.Dispatch
