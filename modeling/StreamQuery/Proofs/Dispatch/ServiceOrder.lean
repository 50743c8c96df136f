import Mathlib
import StreamQuery.Proofs.Dispatch.Line
import StreamQuery.Proofs.Dispatch.Schedule
/-!
# The order of service

The admission lock serves tasks in the order in which they came before it. Tasks that take a free
slot at once do not pass the lock, and a task may leave the line from anywhere; neither changes the
order of those that stay. So a stream that queues for a new slot gets none before a request that
was waiting already, even if a slot is free when it comes.
-/

namespace StreamQuery.Dispatch

open Response

/-! ### Lines -/

/-- A task stands in a line, and another one does not stand before it. -/
def Ahead {α : Type} (first second : α) (line : List α) : Prop :=
  ∃ earlier later, line = earlier ++ first :: later ∧ second ∉ earlier

section Lines

variable {α : Type} {first second task : α} {line : List α}

theorem ahead_of_absent (present : first ∈ line) (absent : second ∉ line) :
    Ahead first second line := by
  obtain ⟨earlier, later, rfl⟩ := List.append_of_mem present
  exact ⟨earlier, later, rfl, fun member => absent (List.mem_append_left _ member)⟩

theorem Ahead.append (ahead : Ahead first second line) (more : List α) :
    Ahead first second (line ++ more) := by
  obtain ⟨earlier, later, rfl, behind⟩ := ahead
  exact ⟨earlier, later ++ more, by simp, behind⟩

theorem Ahead.erase [DecidableEq α] (ahead : Ahead first second line) (apart : task ≠ first) :
    Ahead first second (line.erase task) := by
  obtain ⟨earlier, later, rfl, behind⟩ := ahead
  by_cases among : task ∈ earlier
  · rw [List.erase_append_left _ among]
    exact ⟨_, _, rfl, fun member => behind (List.mem_of_mem_erase member)⟩
  · rw [List.erase_append_right _ among, List.erase_cons_tail (by simpa using apart.symm)]
    exact ⟨_, _, rfl, behind⟩

/-- Whoever is served next, it is not the second one. -/
theorem Ahead.head (ahead : Ahead first second (task :: line)) (apart : first ≠ second) :
    task ≠ second := by
  obtain ⟨earlier, later, same, behind⟩ := ahead
  rintro rfl
  cases earlier with
  | nil => exact apart (List.cons.inj same).1.symm
  | cons other rest =>
      have here : task = other := (List.cons.inj same).1
      exact behind (here ▸ List.mem_cons_self)

/-- Who leaves a line does not change the order of the others. -/
theorem filter_erase_out [DecidableEq α] {stays : α → Bool} (out : stays task = false)
    (line : List α) : (line.erase task).filter stays = line.filter stays := by
  induction line with
  | nil => rfl
  | cons other rest induction =>
      by_cases same : other = task
      · subst same
        rw [List.erase_cons_head, List.filter_cons_of_neg (by simp [out])]
      · rw [List.erase_cons_tail (by simpa using same), List.filter_cons, List.filter_cons,
          induction]

end Lines

/-! ### Actions -/

/-- The task that comes before the lock by an action. -/
def Action.asked? {α : Type} : Action α → Option α
  | .ask task => some task
  | _ => none

/-- The tasks that come before the lock by some actions, in that order. -/
def Action.asks {α : Type} (actions : List (Action α)) : List α :=
  actions.filterMap Action.asked?

/-- True of a task past the lock that has a slot or has given up. -/
def Stance.isOut : Stance → Bool
  | .leaving | .unlocking => true
  | _ => false

namespace Admission

variable {α : Type}

/-- The tasks that wait for a slot between two actions, the first one first. -/
def line (admission : Admission α) : List α :=
  if admission.stance.isOut then admission.budget.queue else admission.budget.line

/-- The task past the lock when its look finds a free slot. -/
def granted? (action : Action α) (admission : Admission α) : Option α :=
  match action, admission.stance with
  | .look, .looking _ => if admission.budget.isSaturated then none else admission.budget.holder
  | _, _ => none

variable [DecidableEq α]

/-- The tasks that get a slot past the lock by some actions, in that order. -/
def grants : List (Action α) → Admission α → List α
  | [], _ => []
  | action :: rest, admission =>
      (admission.granted? action).toList ++ grants rest (admission.act action)

/-- What one action does to the line, and which task it serves. -/
inductive LineStep (admission : Admission α) : Action α → Option α → List α → Prop where
  | asked {task} : LineStep admission (.ask task) none (admission.line ++ [task])
  | left {task} : LineStep admission (.quit task) none (admission.line.erase task)
  | served {action task rest} (silent : action.asked? = none)
      (first : admission.line = task :: rest) :
      LineStep admission action (some task) rest
  | same {action} (silent : action.asked? = none) : LineStep admission action none admission.line

variable {admission : Admission α}

theorem quit_line (task : α) :
    LineStep admission (.quit task) none (admission.quit task).line := by
  unfold quit
  split
  · next locked =>
      have head : admission.budget.line.erase task = admission.budget.queue := by
        simp [Budget.line, locked]
      split
      · next ready =>
          have out : admission.line.erase task = admission.budget.queue := by
            rw [line, ready]
            exact head
          rw [show line { admission with stance := .unlocking } = _ from out.symm]
          exact .left
      · next waiting =>
          have out : admission.line.erase task = admission.budget.queue := by
            rw [line, waiting]
            exact head
          rw [show line { admission with stance := .leaving } = _ from out.symm]
          exact .left
      · exact .same rfl
  · next unlocked =>
      have ahead : task ∉ admission.budget.holder.toList := by simpa [eq_comm] using unlocked
      have out : line
            { admission with
              budget := { admission.budget with queue := admission.budget.queue.erase task } } =
          admission.line.erase task := by
        unfold line
        split
        · rfl
        · exact (List.erase_append_right _ ahead).symm
      rw [out]
      exact .left

theorem look_line {token : Bool} {task : α} (locked : admission.budget.holder = some task)
    (looking : admission.stance = .looking token) :
    LineStep admission .look (admission.granted? .look) (admission.look token).line := by
  have here : admission.line = admission.budget.line := by rw [line, looking]; rfl
  have first : admission.budget.line = task :: admission.budget.queue := by
    simp [Budget.line, locked]
  unfold look Budget.take? granted?
  by_cases free : admission.budget.inFlight < admission.budget.limit
  · have room : admission.budget.isSaturated = false := by simpa [Budget.isSaturated] using free
    simp only [looking, room, free, locked, if_true]
    exact .served rfl (here.trans first)
  · have full : admission.budget.isSaturated = true := by simpa [Budget.isSaturated] using free
    simp only [looking, full, free, if_true, if_false]
    have same : line { admission with stance := if token then .ready else .waiting } =
        admission.line := by
      rw [here]
      cases token <;> rfl
    rw [same]
    exact .same rfl

/-- An action that serves nobody, calls nobody in and leaves the line alone. -/
theorem lineStep_same {action : Action α} {after : List α} (silent : action.asked? = none)
    (nobody : admission.granted? action = none) (same : after = admission.line) :
    LineStep admission action (admission.granted? action) after := by
  rw [nobody, same]
  exact .same silent

theorem enter_lineStep (kept : admission.Kept) (task : α) :
    LineStep admission (.ask task) none
      (line { admission with budget := admission.budget.enter task }) := by
  have orderly : admission.budget.Orderly := fun unlocked => (kept.idle unlocked).1
  have joined : line { admission with budget := admission.budget.enter task } =
      admission.line ++ [task] := by
    unfold line
    split
    · next out =>
        cases locked : admission.budget.holder with
        | none =>
            have calm := (kept.idle locked).2
            rw [calm] at out
            cases out
        | some first => simp [Budget.enter, locked]
    · exact Budget.enter_line orderly task
  rw [joined]
  exact .asked

theorem withdraw_line {task : α} (leaving : admission.stance = .leaving) :
    (admission.withdraw task).line = admission.line := by
  have behind : admission.line = admission.budget.queue := by
    rw [line, leaving]
    rfl
  rw [behind]
  change Budget.queue (if _ then _ else _) = _
  split
  · exact Budget.notify_queue _
  · rfl

omit [DecidableEq α] in
theorem granted_none {action : Action α}
    (idle : ∀ task token, action = .look → admission.budget.holder = some task →
      admission.stance = .looking token → False) :
    admission.granted? action = none := by
  cases action with
  | look =>
      unfold granted?
      cases looking : admission.stance with
      | looking token =>
          cases locked : admission.budget.holder with
          | none => exact ite_self _
          | some task => exact (idle task token rfl locked looking).elim
      | _ => rfl
  | _ => rfl

/-- Whatever is done, the line changes at its end, by who gives up, or at its head. -/
theorem act_line (kept : admission.Kept) (action : Action α) :
    LineStep admission action (admission.granted? action) (admission.act action).line := by
  unfold act
  split
  · refine lineStep_same rfl rfl ?_
    unfold Budget.take?
    split <;> rfl
  · exact enter_lineStep kept _
  · exact quit_line _
  · exact lineStep_same rfl rfl rfl
  · refine lineStep_same rfl rfl ?_
    split
    · rfl
    · unfold Budget.notify
      split <;> rfl
  · next ready =>
      refine lineStep_same rfl rfl ?_
      unfold enrol line
      rw [ready]
      split <;> rfl
  · next locked looking => exact look_line locked looking
  · next waiting =>
      refine lineStep_same rfl rfl ?_
      unfold wake
      split
      · unfold line
        rw [waiting]
        rfl
      · rfl
  · next leaving => exact lineStep_same rfl rfl (withdraw_line leaving)
  · next unlocking =>
      refine lineStep_same rfl rfl ?_
      unfold line
      rw [unlocking]
      exact Budget.unlock_line _
  · next action _ _ _ _ unasked _ _ _ _ unlooked _ _ _ =>
      have silent : action.asked? = none := by
        cases action with
        | ask task => exact (unasked task rfl).elim
        | _ => rfl
      exact lineStep_same silent (granted_none unlooked) rfl

/-! ### Runs -/

/-- What is in the line and what is asked for later is served or still in the line, in the same
order, as far as those are concerned who never give up. -/
theorem play_order {stays : α → Bool} (kept : admission.Kept) (actions : List (Action α))
    (out : ∀ task, .quit task ∈ actions → stays task = false) :
    (grants actions admission ++ (play actions admission).line).filter stays =
      (admission.line ++ Action.asks actions).filter stays := by
  induction actions generalizing admission with
  | nil => simp [grants, play, Action.asks]
  | cons action rest induction =>
      have later := induction (act_kept kept action)
        fun task quits => out task (List.mem_cons_of_mem _ quits)
      have step := act_line kept action
      have now : ((admission.granted? action).toList ++ (admission.act action).line).filter stays =
          (admission.line ++ action.asked?.toList).filter stays := by
        generalize admission.granted? action = granted at step
        generalize (admission.act action).line = line at step
        cases step with
        | asked => rfl
        | left => simp [Action.asked?, filter_erase_out (out _ List.mem_cons_self)]
        | served silent first => simp [silent, first]
        | same silent => simp [silent]
      have asked : Action.asks (action :: rest) = action.asked?.toList ++ Action.asks rest := by
        cases action <;> rfl
      rw [grants, play, asked, List.append_assoc, List.filter_append, later, List.filter_append,
        ← List.append_assoc, ← List.filter_append, now, ← List.filter_append, List.append_assoc]

/-- Who stands behind another one in the line, or comes later, is served after it, unless that one
gives up. -/
theorem play_ahead {first second : α} (kept : admission.Kept)
    (ahead : Ahead first second admission.line) (apart : first ≠ second)
    {actions : List (Action α)} (stays : .quit first ∉ actions)
    (served : second ∈ grants actions admission) :
    [first, second].Sublist (grants actions admission) := by
  induction actions generalizing admission with
  | nil => cases served
  | cons action rest induction =>
      have laterStays : .quit first ∉ rest := fun quits => stays (List.mem_cons_of_mem _ quits)
      have later := @induction (admission.act action) (act_kept kept action)
      have step := act_line kept action
      rw [grants] at served ⊢
      generalize admission.granted? action = granted at step served ⊢
      generalize line (admission.act action) = line at step later
      cases step with
      | asked => exact later (ahead.append _) laterStays served
      | @left task =>
          have other : task ≠ first := by
            rintro rfl
            exact stays List.mem_cons_self
          exact later (ahead.erase other) laterStays served
      | same silent => exact later ahead laterStays served
      | @served _ task _ silent front =>
          rw [front] at ahead
          have notSecond := ahead.head apart
          have among : second ∈ grants rest (admission.act action) := by
            simpa [notSecond.symm] using served
          by_cases here : task = first
          · rw [here]
            exact (List.singleton_sublist.2 among).cons_cons first
          · have next := ahead.erase here
            rw [List.erase_cons_head] at next
            exact (later next laterStays among).cons task

/-- Some actions serve tasks in the order in which they came before the lock. -/
structure InOrder (admission : Admission α) (actions : List (Action α)) : Prop where
  /-- Those who never give up are served in the order in which they asked. -/
  order : ∀ stays : α → Bool, (∀ task, .quit task ∈ actions → stays task = false) →
    (grants actions admission ++ (play actions admission).line).filter stays =
      (admission.line ++ Action.asks actions).filter stays
  /-- Nobody overtakes a task that does not give up, whoever else does. -/
  ahead : ∀ first second, Ahead first second admission.line → first ≠ second →
    .quit first ∉ actions → second ∈ grants actions admission →
    [first, second].Sublist (grants actions admission)

end Admission

/-! ### Requests and streams -/

/-- A stream that has no slot gets one only by way of the line, once it is no new one. -/
theorem StreamTurn.slotless {dispatcher : Dispatcher} {index : Nat} {task turned : StreamTask}
    {budget : Budget TaskId} {transport : Transport} {statistics : Statistics}
    (turn : StreamTurn dispatcher index task turned budget transport statistics)
    (old : task.phase ≠ .starting) (without : task.holdsSlot = false) :
    (turned.phase ≠ .starting ∧ turned.holdsSlot = false) ∨
      ∃ asked, SlotInquiry dispatcher index task asked ∧ asked.2 = true := by
  cases turn with
  | rest => exact .inl ⟨old, without⟩
  | declined phase | admitted phase => exact (old phase).elim
  | readmitted inquiry granted => exact .inr ⟨_, inquiry, granted⟩
  | leftWait | expiredWait | queued | ended => exact .inl ⟨by simp, rfl⟩
  | opened phase =>
      rcases phase with phase | phase <;> simp [StreamTask.holdsSlot, phase] at without
  | left phase =>
      rcases phase with ⟨_, phase⟩ | ⟨_, _, phase⟩ | ⟨_, _, phase⟩ <;>
        simp [StreamTask.holdsSlot, phase] at without
  | expired phase =>
      rcases phase with phase | ⟨_, phase⟩ <;> simp [StreamTask.holdsSlot, phase] at without
  | @deserted _ held _ failing _ leaves | @failed _ held _ failing _ _ leaves =>
      cases held with
      | none =>
          subst leaves
          exact .inl ⟨by simp, rfl⟩
      | some body => simp [StreamTask.holdsSlot, failing] at without
  | opening phase | refused phase | skipped phase | rebalanced phase | exhausted phase
  | marked phase | forwarded phase | stalled phase | handed phase | overlong phase
  | finished phase | fed phase | drained phase | broken phase | awaited phase | reopening phase
  | reopenFailed phase | reopenCancelled phase | released phase =>
      simp [StreamTask.holdsSlot, phase] at without

namespace Dispatcher

variable {before after : Dispatcher} {event : Event} {index place : Nat} {context : Context}
  {deadline : Nat}

/-- The task that gets a slot by an event. -/
theorem entries_of_taken {task : TaskId} (effect : Effect before event after)
    (without : before.holds task = false) (holding : after.holds task = true) :
    (before.entries after).taken = [task] := by
  obtain ⟨other, shift⟩ := effect_shift effect
  by_cases same : task = other
  · subst same
    rw [entries_taken shift, without, holding]
    rfl
  · have unchanged := shift.others task same
    rw [without, holding] at unchanged
    cases unchanged

/-- A request waits, bounded by a context and a deadline, and a stream that is no new one has no
slot and does not stand before it in the line. -/
structure Behind (dispatcher : Dispatcher) (index place : Nat) (context : Context)
    (deadline : Nat) : Prop where
  inLine : InLine dispatcher
  request : ∃ task, dispatcher.requests[index]? = some task ∧ task.phase = .waiting ∧
    task.context = context ∧ task.deadline = deadline
  stream : ∃ task, dispatcher.streams[place]? = some task ∧ task.phase ≠ .starting ∧
    task.holdsSlot = false
  ahead : Ahead (.request index) (.stream place) dispatcher.budget.line

/-- A request that waits goes on waiting or is served, unless it is given up, cancelled or late. -/
theorem request_waits (effect : Effect before event after)
    (waits : ∃ task, before.requests[index]? = some task ∧ task.phase = .waiting ∧
      task.context = context ∧ task.deadline = deadline)
    (kept : event ≠ .abort index) (calm : after.isCancelled context = false)
    (early : after.now < deadline) :
    (∃ task, after.requests[index]? = some task ∧ task.phase = .waiting ∧
        task.context = context ∧ task.deadline = deadline) ∨
      (before.entries after).taken = [.request index] := by
  obtain ⟨task, found, phase, rfl, rfl⟩ := waits
  have without : before.holds (.request index) = false := by
    simp [holds, found, RequestTask.holdsSlot, phase]
  have change := effect.requestChange index
  rw [found] at change
  cases changed : after.requests[index]? with
  | none =>
      rw [changed] at change
      cases change
  | some turned =>
      rw [changed] at change
      cases change with
      | same => exact .inl ⟨_, rfl, phase, rfl, rfl⟩
      | aborted cause => exact (kept cause).elim
      | turned cause turn =>
          cases turn with
          | rest => exact .inl ⟨_, rfl, phase, rfl, rfl⟩
          | gaveUp waiver cause =>
              rcases cause with ⟨cancelled, _⟩ | ⟨late, _⟩
              · have still := effect.grows.isCancelled cancelled
                rw [isCancelled] at calm
                rw [still] at calm
                cases calm
              · have later := effect.now_le
                omega
          | admitted inquiry granted =>
              refine .inr (entries_of_taken effect without ?_)
              simp [holds, changed, RequestTask.holdsSlot]
          | queued inquiry granted => exact .inl ⟨_, rfl, rfl, rfl, rfl⟩
          | exchanged other | closed other | settled other =>
              rw [phase] at other
              cases other

/-- A stream that has no slot gets none while a request stands before it in the line. -/
theorem stream_waits (effect : Effect before event after) (inLine : InLine before)
    (waits : ∃ task, before.streams[place]? = some task ∧ task.phase ≠ .starting ∧
      task.holdsSlot = false)
    (ahead : Ahead (.request index) (.stream place) before.budget.line) :
    ∃ task, after.streams[place]? = some task ∧ task.phase ≠ .starting ∧
      task.holdsSlot = false := by
  obtain ⟨task, found, old, without⟩ := waits
  have change := effect.streamChange place
  rw [found] at change
  cases changed : after.streams[place]? with
  | none =>
      rw [changed] at change
      cases change
  | some turned =>
      rw [changed] at change
      cases change with
      | same | received | closed | dropped => exact ⟨_, rfl, old, without⟩
      | turned cause turn =>
          rcases turn.slotless old without with stays | ⟨asked, inquiry, granted⟩
          · exact ⟨_, rfl, stays⟩
          · cases inquiry with
            | queue phase due =>
                have absent : .stream place ∉ before.budget.line := by
                  rw [inLine.waiting]
                  simp [awaits, found, StreamTask.awaitsSlot, phase]
                obtain ⟨none, _⟩ :=
                  Budget.queueUp_granted inLine.rests.orderly absent granted
                obtain ⟨earlier, later, line, _⟩ := ahead
                rw [none] at line
                simp at line
            | again phase =>
                have front := Budget.poll_line (.stream place) before.budget
                rw [granted, if_pos rfl, List.singleton_append] at front
                rw [front] at ahead
                exact (ahead.head (by simp) rfl).elim

/-- While the request waits, the stream stays behind it. -/
theorem Behind.apply (behind : Behind before index place context deadline) (event : Event)
    (kept : event ≠ .abort index)
    (calm : (before.apply event).isCancelled context = false)
    (early : (before.apply event).now < deadline) :
    Behind (before.apply event) index place context deadline ∨
      (before.entries (before.apply event)).taken = [.request index] := by
  have effect := before.apply_effect event
  obtain ⟨inLine, request, stream, ahead⟩ := behind
  rcases request_waits effect request kept calm early with waits | served
  · refine .inl ⟨apply_inLine inLine event, waits, stream_waits effect inLine stream ahead, ?_⟩
    obtain ⟨task, shift⟩ := effect_lineShift inLine effect
    have queues := shift.queues
    have awaiting : (before.apply event).awaits (.request index) = true := by
      obtain ⟨turned, found, phase, _⟩ := waits
      simp [awaits, found, RequestTask.awaitsSlot, phase]
    cases awaited : before.awaits task <;> cases awaits : (before.apply event).awaits task <;>
      simp only [awaited, awaits, Budget.Queues] at queues
    case false.true => exact queues ▸ ahead.append _
    case true.false =>
      have other : task ≠ .request index := by
        rintro rfl
        rw [awaiting] at awaits
        cases awaits
      exact queues ▸ ahead.erase other
    all_goals exact queues ▸ ahead
  · exact .inr served

theorem Behind.notTaken (behind : Behind after index place context deadline) :
    .stream place ∉ (before.entries after).taken := by
  obtain ⟨task, found, _, without⟩ := behind.stream
  intro taken
  have holding := holds_of_taken taken
  simp [holds, found, without] at holding

/-- If the stream gets a slot at all, the request got one before. -/
theorem Behind.play (behind : Behind before index place context deadline) (events : List Event)
    (kept : .abort index ∉ events) (calm : (before.play events).isCancelled context = false)
    (early : (before.play events).now < deadline)
    (served : .stream place ∈ (before.ledger events).taken) :
    [.request index, .stream place].Sublist (before.ledger events).taken := by
  induction events generalizing before with
  | nil => cases served
  | cons event rest induction =>
      have laterKept : .abort index ∉ rest := fun aborts => kept (List.mem_cons_of_mem _ aborts)
      have here : event ≠ .abort index := by
        rintro rfl
        exact kept List.mem_cons_self
      -- What is not cancelled and not late at the end was so at no time before.
      have nowCalm : (before.apply event).isCancelled context = false := by
        by_contra cancelled
        have raised : (before.apply event).isCancelled context = true := by simpa using cancelled
        have still := (play_grows rest (before.apply event)).isCancelled raised
        rw [play, isCancelled, still] at calm
        cases calm
      have nowEarly : (before.apply event).now < deadline :=
        Nat.lt_of_le_of_lt (play_now_le rest _) early
      rw [ledger] at served ⊢
      rcases behind.apply event here nowCalm nowEarly with waits | taken
      · have later : .stream place ∈ ((before.apply event).ledger rest).taken :=
          (List.mem_append.1 served).resolve_left waits.notTaken
        exact (induction waits laterKept calm early later).trans (List.sublist_append_right _ _)
      · have later : .stream place ∈ ((before.apply event).ledger rest).taken := by
          refine (List.mem_append.1 served).resolve_left ?_
          rw [taken]
          simp
        rw [taken]
        exact (List.singleton_sublist.2 later).cons_cons _

/-- A request that waits already when a stream queues for a new slot gets one before the stream,
unless it is given up, cancelled or late. -/
def RequestsFirst (dispatcher : Dispatcher) (events : List Event) : Prop :=
  ∀ (index place : Nat) (request : RequestTask) (stream : StreamTask) (resume : Nat),
    dispatcher.requests[index]? = some request → request.phase = .waiting →
    dispatcher.streams[place]? = some stream → stream.phase = .backingOff resume →
    .abort index ∉ events → (dispatcher.play events).isCancelled request.context = false →
    (dispatcher.play events).now < request.deadline →
    .stream place ∈ (dispatcher.ledger events).taken →
      [.request index, .stream place].Sublist (dispatcher.ledger events).taken

theorem requestsFirst {dispatcher : Dispatcher} (inLine : InLine dispatcher)
    (events : List Event) : RequestsFirst dispatcher events := by
  intro index place request stream resume found phase streamFound resting kept calm early served
  have present : .request index ∈ dispatcher.budget.line := by
    rw [inLine.waiting]
    simp [awaits, found, RequestTask.awaitsSlot, phase]
  have absent : .stream place ∉ dispatcher.budget.line := by
    rw [inLine.waiting]
    simp [awaits, streamFound, StreamTask.awaitsSlot, resting]
  have behind : Behind dispatcher index place request.context request.deadline := by
    refine ⟨inLine, ⟨request, found, phase, rfl, rfl⟩, ⟨stream, streamFound, ?_, ?_⟩,
      ahead_of_absent present absent⟩
    · simp [resting]
    · simp [StreamTask.holdsSlot, resting]
  exact behind.play events kept calm early served

end Dispatcher

/-- Whatever happens in whatever order, those who come before the lock get their slots in the order
in which they came; and a stream that comes back for a slot gets none before a request that waited
then, even if one is free. -/
theorem served_in_order {α : Type} [DecidableEq α] (limit : Nat) (earlier later : List (Action α))
    (policy : Policy) (slots : Nat) (transport : Transport) (past future : List Event) :
    (Admission.play earlier (.ofLimit limit)).InOrder later ∧
      ((Dispatcher.start policy slots transport).play past).RequestsFirst future := by
  have kept := Admission.play_kept earlier (Admission.ofLimit_kept limit)
  have inLine := Dispatcher.play_inLine past (Dispatcher.start_inLine policy slots transport)
  refine ⟨⟨fun stays out => Admission.play_order kept later out, ?_⟩,
    Dispatcher.requestsFirst inLine future⟩
  intro first second ahead apart stays served
  exact Admission.play_ahead kept ahead apart stays served

/-- A response of one blank line whose body then stays open, and empty ones after it. -/
def blankThenEmpty : Transport :=
  .ofScript [.answer ⟨200, 0, ⟨[⟨#[lineFeed]⟩], 0, .held, none⟩⟩]
    (some (.answer ⟨200, 0, ⟨[], 0, .complete, none⟩⟩))

/-- A stream takes the only slot, a request waits for it, and a blank line makes the stream give it
up. -/
def slotGivenUp : List Event :=
  .openStream .background ⟨"/query", "SELECT;"⟩ :: List.replicate 4 (.step (.stream 0)) ++
    [.dispatch .background ⟨"/ksql", "LIST STREAMS;"⟩, .step (.request 0)] ++
      List.replicate 2 (.step (.stream 0))

def streamReturns : Dispatcher :=
  (Dispatcher.start ⟨1000, 0, 1, maximalBodySize, maximalLineLength⟩ 1 blankThenEmpty).play
    slotGivenUp

/-- The stream comes back at once, and goes on when the request has its response. -/
def slotAskedAgain : List Event :=
  .step (.stream 0) :: List.replicate 6 (.step (.request 0)) ++ [.step (.stream 0)]

/-- The slot is free when the stream comes back, and yet the request gets it first. -/
theorem returning_stream_last :
    streamReturns.budget.isSaturated = false ∧
      .stream 0 ∈ (streamReturns.ledger slotAskedAgain).taken ∧
      [.request 0, .stream 0].Sublist (streamReturns.ledger slotAskedAgain).taken := by
  have order : streamReturns.RequestsFirst slotAskedAgain :=
    (@served_in_order Nat _ 1 [] [] ⟨1000, 0, 1, maximalBodySize, maximalLineLength⟩ 1
      blankThenEmpty slotGivenUp slotAskedAgain).2
  have free : streamReturns.budget.isSaturated = false := by
    cbv
  have waits : streamReturns.requests[0]? =
      some ⟨.background, 1000, ⟨"/ksql", "LIST STREAMS;"⟩, .waiting⟩ := by
    cbv
  have rests : streamReturns.streams[0]? =
      some ⟨.background, ⟨"/query", "SELECT;"⟩, .backingOff 0, 1, .empty⟩ := by
    cbv
  have early : (streamReturns.play slotAskedAgain).now < 1000 := by
    have still : (streamReturns.play slotAskedAgain).now = 0 := by
      cbv
    rw [still]
    decide
  have taken : .stream 0 ∈ (streamReturns.ledger slotAskedAgain).taken := by
    have both : (streamReturns.ledger slotAskedAgain).taken = [.request 0, .stream 0] := by
      cbv
    rw [both]
    decide
  exact ⟨free, taken, order 0 0 _ _ 0 waits rfl rests rfl (by simp [slotAskedAgain]) rfl early taken⟩

end StreamQuery.Dispatch
