import StreamQuery.Proofs.Dispatch.Schedule
import StreamQuery.Proofs.Response.Lines
/-!
# Streams at a standstill

A stream that nobody wants any more, because it was cancelled or its deadline has passed, gives its
slot back by its own steps, with one exception: an error that it hands over while its response is
still open waits for room in the channel, and neither a cancellation nor a deadline ends that wait.
When no task can go on, such a stream is the only one that still has its slot.
-/

namespace StreamQuery.Dispatch

open Response

/-! ### The deadline of an exchange -/

/-- The exchange that opens a stream ends at the deadline of the stream's context, if it has one. -/
def StreamTask.MeetsDeadline (task : StreamTask) : Prop :=
  ∀ exchange deadline,
    task.phase = .opening exchange deadline ∨ task.phase = .reopening exchange deadline →
      ∀ limit, task.context.deadline = some limit → deadline = limit

theorem Context.deadlineOr_bounded {context : Context} {limit : Nat}
    (bounded : context.deadline = some limit) (now timeout : Nat) :
    context.deadlineOr now timeout = limit := by
  simp [deadlineOr, bounded]

theorem StreamTurn.meetsDeadline {dispatcher : Dispatcher} {index : Nat}
    {task turned : StreamTask} {budget : Budget TaskId} {transport : Transport}
    {statistics : Statistics}
    (turn : StreamTurn dispatcher index task turned budget transport statistics)
    (meets : task.MeetsDeadline) : turned.MeetsDeadline := by
  intro exchange deadline phase limit bounded
  cases turn with
  | rest => exact meets _ _ phase _ bounded
  | admitted _ _ bound | readmitted _ _ bound =>
      rcases phase with phase | phase <;> cases phase
      exact bound.trans (Context.deadlineOr_bounded bounded _ _)
  | opening earlier =>
      rcases phase with phase | phase <;> cases phase
      exact meets _ _ (.inl earlier) _ bounded
  | reopening earlier =>
      rcases phase with phase | phase <;> cases phase
      exact meets _ _ (.inr earlier) _ bounded
  | @released departure _ =>
      cases departure <;> rcases phase with phase | phase <;> cases phase
  | @deserted _ held _ _ _ leaves | @failed _ held _ _ _ _ leaves =>
      subst leaves
      cases held <;> rcases phase with phase | phase <;> cases phase
  | _ => rcases phase with phase | phase <;> cases phase

namespace Dispatcher

/-- Every stream meets its deadline. -/
def MeetsDeadlines (dispatcher : Dispatcher) : Prop :=
  ∀ (index : Nat) (task : StreamTask),
    dispatcher.streams[index]? = some task → task.MeetsDeadline

theorem effect_meets {before after : Dispatcher} {event : Event} (meets : MeetsDeadlines before)
    (effect : Effect before event after) : MeetsDeadlines after := by
  intro index task found
  have change := effect.streamChange index
  rw [found] at change
  generalize earlier : before.streams[index]? = task? at change
  cases change with
  | same => exact meets index task earlier
  | fresh => exact fun _ _ phase => by rcases phase with phase | phase <;> cases phase
  | turned _ turn => exact turn.meetsDeadline (meets index _ earlier)
  | @received task _ _ _ _ | @closed task _ | @dropped task _ =>
      have met := meets index task earlier
      exact met

theorem play_meets (events : List Event) (dispatcher : Dispatcher)
    (meets : dispatcher.MeetsDeadlines) : (dispatcher.play events).MeetsDeadlines := by
  induction events generalizing dispatcher with
  | nil => exact meets
  | cons event rest induction =>
      exact induction _ (effect_meets meets (dispatcher.apply_effect event))

/-! ### Standstill -/

/-- No task can go on: a step of any of them changes nothing. -/
def IsStill (dispatcher : Dispatcher) : Prop :=
  ∀ task, (dispatcher.step task).1 = dispatcher

/-- Nobody waits for the stream's rows any more. -/
def IsOver (dispatcher : Dispatcher) (task : StreamTask) : Prop :=
  dispatcher.isCancelled task.context = true ∨ dispatcher.isExpired task.context = true

end Dispatcher

/-- An error waits, with the response still open, for room in a channel that its consumer still
listens to. -/
def StreamTask.isStranded (task : StreamTask) : Bool :=
  match task.phase with
  | .failing _ (some _) => task.channel.isListening && !task.channel.hasRoom
  | _ => false

namespace Dispatcher

variable {dispatcher : Dispatcher} {index : Nat} {task : StreamTask}

theorem exchangeStep_onward_ne {post : Post} {exchange next : Exchange} {transport : Transport}
    (step : dispatcher.exchangeStep post exchange = (.onward next, transport)) :
    next ≠ exchange := by
  rintro rfl
  cases next with
  | unsent =>
      simp only [exchangeStep, Exchange.step] at step
      split at step <;> cases step
  | awaitingHead answer due =>
      rw [exchangeStep_awaiting] at step
      split at step <;> cases step
  | collecting status body collected =>
      simp only [exchangeStep, Exchange.step, Exchange.collect] at step
      cases arrival : body.poll dispatcher.now with
      | part bytes rest =>
          -- The part that was read is no longer among the parts to come.
          have follows := body.poll_follows dispatcher.now
          rw [arrival] at step follows
          have shorter := congrArg List.length follows.1
          simp only at step
          split at step <;> cases step
          simp at shorter
      | _ =>
          rw [arrival] at step
          cases step

/-- The head of a response comes before its body. -/
theorem exchangeStep_head_ne {post : Post} {exchange : Exchange} {status : Nat} {body : Body}
    {transport : Transport}
    (step : dispatcher.exchangeStep post exchange = (.head status body, transport)) :
    exchange ≠ .collecting status body .empty := by
  rintro rfl
  simp only [exchangeStep, Exchange.step, Exchange.collect] at step
  cases arrival : body.poll dispatcher.now with
  | part bytes rest =>
      rw [arrival] at step
      simp only at step
      split at step <;> cases step
  | _ =>
      rw [arrival] at step
      cases step

/-- A step that leaves a stream in another phase is not a standstill. -/
theorem moved_ne {after : Dispatcher} {turned : StreamTask}
    (found : dispatcher.streams[index]? = some task)
    (there : after.streams[index]? = some turned) (moved : turned.phase ≠ task.phase) :
    after ≠ dispatcher := by
  rintro rfl
  rw [found] at there
  cases there
  exact moved rfl

theorem setStream_ne {other : Dispatcher} {phase : StreamPhase}
    (found : dispatcher.streams[index]? = some task) (streams : other.streams = dispatcher.streams)
    (moved : phase ≠ task.phase) : other.setStream index phase ≠ dispatcher := by
  have bound := (List.getElem?_eq_some_iff.mp found).1
  have there : (other.setStream index phase).streams[index]? =
      some { task with phase := phase } := by
    simp only [setStream, modifyStream, streams, modify_found found]
    exact List.getElem?_set_self bound
  exact moved_ne found there moved

theorem forwardFrom_ne {other after : Dispatcher} (body : Body)
    (found : dispatcher.streams[index]? = some task) (streams : other.streams = dispatcher.streams)
    (same : after.streams = (other.forwardFrom index body).streams)
    (moved : ∀ reading, task.phase ≠ .forwarding reading) : after ≠ dispatcher := by
  have bound := (List.getElem?_eq_some_iff.mp found).1
  have there : after.streams[index]? = some { task with
      phase := .forwarding (.ofBody body), attempts := task.attempts + 1 } := by
    simp only [same, forwardFrom, count, modifyStream, streams, modify_found found]
    exact List.getElem?_set_self bound
  exact moved_ne found there (moved _).symm

theorem departStream_ne {other : Dispatcher} {departure : Departure}
    (found : dispatcher.streams[index]? = some task) (streams : other.streams = dispatcher.streams)
    (holds : task.holdsSlot = true) (stays : ∀ departure, task.phase ≠ .releasing departure) :
    other.departStream index task departure ≠ dispatcher := by
  rw [departStream, if_pos holds]
  exact setStream_ne found streams (stays departure).symm

/-- A stream that reads ends, or fails, as soon as it is over. -/
theorem reading_moves (found : dispatcher.streams[index]? = some task)
    (phase : (∃ reading, task.phase = .forwarding reading) ∨
      ∃ line reading, task.phase = .handing line reading)
    (ended : dispatcher.IsOver task) : (dispatcher.stepStream index).1 ≠ dispatcher := by
  have late (wanted : ¬ (dispatcher.isCancelled task.context || !task.channel.isListening) = true) :
      dispatcher.isExpired task.context = true := by
    rcases ended with cancelled | expired
    · simp [cancelled] at wanted
    · exact expired
  unfold stepStream
  rw [found]
  rcases phase with ⟨reading, phase⟩ | ⟨line, reading, phase⟩ <;> simp only [phase] <;> split
  · exact departStream_ne found rfl (by simp [StreamTask.holdsSlot, phase]) (by simp [phase])
  · next wanted =>
      rw [if_pos (late wanted)]
      exact setStream_ne found rfl (by simp [phase])
  · exact departStream_ne found rfl (by simp [StreamTask.holdsSlot, phase]) (by simp [phase])
  · next wanted =>
      rw [if_pos (late wanted)]
      exact setStream_ne found rfl (by simp [phase])

/-- An expired stream is past the deadline of its exchange. -/
theorem deadline_passed {exchange : Exchange} {deadline : Nat} (meets : task.MeetsDeadline)
    (phase : task.phase = .opening exchange deadline ∨ task.phase = .reopening exchange deadline)
    (expired : dispatcher.isExpired task.context = true) : deadline ≤ dispatcher.now := by
  unfold isExpired Context.isExpired at expired
  rw [Option.any_eq_true] at expired
  obtain ⟨limit, bounded, passed⟩ := expired
  rw [meets _ _ phase limit bounded]
  exact of_decide_eq_true passed

theorem opening_moves {exchange : Exchange} {deadline : Nat}
    (found : dispatcher.streams[index]? = some task) (meets : task.MeetsDeadline)
    (phase : task.phase = .opening exchange deadline) (ended : dispatcher.IsOver task) :
    (dispatcher.stepStream index).1 ≠ dispatcher := by
  have holds : task.holdsSlot = true := by simp [StreamTask.holdsSlot, phase]
  have departs {other : Dispatcher} {departure : Departure}
      (streams : other.streams = dispatcher.streams) :
      other.departStream index task departure ≠ dispatcher :=
    departStream_ne found streams holds (by simp [phase])
  unfold stepStream
  rw [found]
  simp only [phase]
  unfold stepOpening
  split
  · exact departs rfl
  · next calm =>
      have late : deadline ≤ dispatcher.now :=
        deadline_passed meets (.inl phase) (ended.resolve_left calm)
      obtain ⟨step, transport, same⟩ : ∃ step transport,
          dispatcher.exchangeStep task.post exchange = (step, transport) := ⟨_, _, rfl⟩
      have stepped := same
      unfold exchangeStep at stepped
      rw [stepped]
      cases step with
      | onward next =>
          refine setStream_ne found rfl ?_
          simpa [phase] using exchangeStep_onward_ne same
      | blocked next =>
          simp only [late, if_true]
          exact departs rfl
      | failed error | whole status bytes => exact departs rfl
      | head status body =>
          simp only
          split
          · have woken := congrArg Dispatcher.streams
              (wake_eq (.stream index)
                ({ dispatcher with transport := transport }.forwardFrom index body))
            exact forwardFrom_ne body found rfl woken (by simp [phase])
          · refine setStream_ne found rfl ?_
            simpa [phase, eq_comm] using exchangeStep_head_ne same

theorem reopening_moves {exchange : Exchange} {deadline : Nat}
    (found : dispatcher.streams[index]? = some task) (meets : task.MeetsDeadline)
    (phase : task.phase = .reopening exchange deadline) (ended : dispatcher.IsOver task) :
    (dispatcher.stepStream index).1 ≠ dispatcher := by
  have holds : task.holdsSlot = true := by simp [StreamTask.holdsSlot, phase]
  have departs {other : Dispatcher} {departure : Departure}
      (streams : other.streams = dispatcher.streams) :
      other.departStream index task departure ≠ dispatcher :=
    departStream_ne found streams holds (by simp [phase])
  unfold stepStream
  rw [found]
  simp only [phase]
  split
  · exact departs rfl
  · next wanted =>
      have calm : ¬ dispatcher.isCancelled task.context = true := by
        intro cancelled
        simp [cancelled] at wanted
      have late : deadline ≤ dispatcher.now :=
        deadline_passed meets (.inr phase) (ended.resolve_left calm)
      obtain ⟨step, transport, same⟩ : ∃ step transport,
          dispatcher.exchangeStep task.post exchange = (step, transport) := ⟨_, _, rfl⟩
      have stepped := same
      unfold exchangeStep at stepped
      unfold stepReopening
      rw [stepped]
      cases step with
      | onward next =>
          refine setStream_ne found rfl ?_
          simpa [phase] using exchangeStep_onward_ne same
      | blocked next =>
          simp only [late, if_true]
          exact departs rfl
      | failed error => cases error <;> exact departs rfl
      | whole status bytes => exact departs rfl
      | head status body =>
          simp only
          split
          · exact forwardFrom_ne body found rfl rfl (by simp [phase])
          · refine setStream_ne found rfl ?_
            simpa [phase, eq_comm] using exchangeStep_head_ne same

/-- A stream whose response is closed gives its slot back. -/
theorem releasing_moves {departure : Departure} (found : dispatcher.streams[index]? = some task)
    (phase : task.phase = .releasing departure) :
    (dispatcher.stepStream index).1 ≠ dispatcher := by
  have bound := (List.getElem?_eq_some_iff.mp found).1
  have there : (dispatcher.stepStream index).1.streams[index]? = some { task with
      phase := departure.phase dispatcher.now dispatcher.policy.rebalanceBackoff } := by
    unfold stepStream
    rw [found]
    simp only [phase, stepReleasing, release_eq, setStream, modifyStream, modify_found found]
    exact List.getElem?_set_self bound
  refine moved_ne found there ?_
  rw [phase]
  cases departure <;> simp [Departure.phase]

/-- A line that waits is handed over as soon as there is room for it. -/
theorem handing_moves {line : String} {reading : Reading}
    (found : dispatcher.streams[index]? = some task) (phase : task.phase = .handing line reading)
    (room : task.channel.hasRoom = true) : (dispatcher.stepStream index).1 ≠ dispatcher := by
  have bound := (List.getElem?_eq_some_iff.mp found).1
  unfold stepStream
  rw [found]
  simp only [phase]
  split
  · exact departStream_ne found rfl (by simp [StreamTask.holdsSlot, phase]) (by simp [phase])
  · split
    · exact setStream_ne found rfl (by simp [phase])
    · have pushed : (dispatcher.stepHanding index task line reading).1.streams[index]? =
          some { task with
            phase := .forwarding reading
            channel := task.channel.push (.ok line) } := by
        rw [stepHanding, if_pos room]
        simp only [modifyStream, modify_found found]
        exact List.getElem?_set_self bound
      exact moved_ne found pushed (by simp [phase])

/-- The error of a stream is handed over as soon as there is room for it or nobody listens. -/
theorem failing_moves {error : RequestError} {held : Option Body}
    (found : dispatcher.streams[index]? = some task) (phase : task.phase = .failing error held)
    (free : task.channel.isListening = true → task.channel.hasRoom = true) :
    (dispatcher.stepStream index).1 ≠ dispatcher := by
  have bound := (List.getElem?_eq_some_iff.mp found).1
  have leaves : (if held.isSome then .releasing .departing else .departing) ≠ task.phase := by
    rw [phase]
    split <;> simp
  unfold stepStream
  rw [found]
  simp only [phase, stepFailing]
  split
  · rw [endStream_failing found phase]
    exact moved_ne found (List.getElem?_set_self bound) leaves
  · next listening =>
      have room : task.channel.hasRoom = true := free (by simpa using listening)
      have pushed : (dispatcher.modifyStream index fun task =>
          { task with channel := task.channel.push (.error error) }).streams[index]? =
            some { task with channel := task.channel.push (.error error) } := by
        simp only [modifyStream, modify_found found]
        exact List.getElem?_set_self bound
      rw [if_pos room, endStream_failing pushed phase]
      refine moved_ne found (List.getElem?_set_self ?_) leaves
      exact (List.getElem?_eq_some_iff.mp pushed).1

/-- A stranded stream stays where it is, whatever becomes of its context. -/
theorem stranded_waits (found : dispatcher.streams[index]? = some task)
    (stranded : task.isStranded = true) : dispatcher.stepStream index = (dispatcher, false) := by
  unfold StreamTask.isStranded at stranded
  split at stranded
  · next error body phase =>
      rw [Bool.and_eq_true, Bool.not_eq_true'] at stranded
      simp [stepStream, found, phase, stepFailing, stranded]
  · cases stranded

theorem still_slot (found : dispatcher.streams[index]? = some task) (meets : task.MeetsDeadline)
    (ended : dispatcher.IsOver task) (still : dispatcher.IsStill) :
    task.holdsSlot = task.isStranded := by
  have waits : (dispatcher.stepStream index).1 = dispatcher := still (.stream index)
  cases phase : task.phase with
  | opening exchange deadline => exact absurd waits (opening_moves found meets phase ended)
  | reopening exchange deadline => exact absurd waits (reopening_moves found meets phase ended)
  | forwarding reading => exact absurd waits (reading_moves found (.inl ⟨_, phase⟩) ended)
  | handing line reading => exact absurd waits (reading_moves found (.inr ⟨_, _, phase⟩) ended)
  | releasing departure => exact absurd waits (releasing_moves found phase)
  | failing error held =>
      cases held with
      | none => simp [StreamTask.holdsSlot, StreamTask.isStranded, phase]
      | some body =>
          cases stranded : task.isStranded with
          | true => simp [StreamTask.holdsSlot, phase]
          | false =>
              refine absurd waits (failing_moves found phase fun listening => ?_)
              simpa [StreamTask.isStranded, phase, listening] using stranded
  | _ => simp [StreamTask.holdsSlot, StreamTask.isStranded, phase]

/-- One stream and nothing else, with some facts about it. -/
def isAlone (facts : StreamTask → Bool) (dispatcher : Dispatcher) : Bool :=
  dispatcher.requests.isEmpty && dispatcher.streams.map facts == [true] &&
    dispatcher.cancellation.signals.all fun signal => !signal.relaying

/-- A stream without company stands still when its own step changes nothing. -/
theorem alone_still (facts : StreamTask → Bool) (alone : dispatcher.isAlone facts = true)
    (waits : ∀ task, dispatcher.streams[0]? = some task → facts task = true →
      (dispatcher.stepStream 0).1 = dispatcher) :
    ∃ task, dispatcher.streams[0]? = some task ∧ facts task = true ∧ dispatcher.IsStill := by
  simp only [isAlone, Bool.and_eq_true, List.isEmpty_iff, beq_iff_eq, List.all_eq_true,
    Bool.not_eq_true'] at alone
  obtain ⟨⟨requests, streams⟩, relays⟩ := alone
  obtain ⟨task, rest, same, holds, none⟩ := List.map_eq_cons_iff.mp streams
  rw [List.map_eq_nil_iff] at none
  subst none
  have found : dispatcher.streams[0]? = some task := by simp [same]
  refine ⟨task, found, holds, fun id => ?_⟩
  cases id with
  | request index => simp [step, stepRequest, requests]
  | stream index =>
      cases index with
      | zero => exact waits task found holds
      | succ index => simp [step, stepStream, same]
  | relay signal =>
      have idle : dispatcher.cancellation.relay signal = (dispatcher.cancellation, false) := by
        unfold Cancellation.relay
        split
        · next raised handled watchers source present =>
            cases relays _ (List.mem_of_getElem? present)
        · rfl
      simp [step, stepRelay, idle]

end Dispatcher

/-- When no task can go on, a stream that was cancelled or whose deadline has passed holds a slot
exactly if an error of it waits, with the response still open, in front of a full channel. -/
theorem over_slot_stranded (policy : Policy) (slots : Nat) (transport : Transport)
    (events : List Event) {index : Nat} {task : StreamTask}
    (found : ((Dispatcher.start policy slots transport).play events).streams[index]? = some task)
    (ended : ((Dispatcher.start policy slots transport).play events).IsOver task)
    (still : ((Dispatcher.start policy slots transport).play events).IsStill) :
    task.holdsSlot = task.isStranded := by
  have begun : (Dispatcher.start policy slots transport).MeetsDeadlines := by
    intro index task found
    cases found
  exact Dispatcher.still_slot found (Dispatcher.play_meets events _ begun index task found)
    ended still

/-- An answer of as many lines as a channel keeps, whose body then stays open. -/
def fillingAnswer : Answer :=
  ⟨200, 0, ⟨[⟨(List.replicate channelCapacity [114, lineFeed]).flatten.toArray⟩], 0, .held, none⟩⟩

def fillingStart : Dispatcher :=
  .start ⟨1000, 1, 3, maximalBodySize, maximalLineLength⟩ 1 (.ofScript [.answer fillingAnswer] none)

/-- A stream fills the channel of a consumer that reads nothing, and something else happens then. -/
def fillingEvents (later : List Event) : List Event :=
  [.deriveContext .background, .openStream ⟨some 10, some 0⟩ ⟨"/query", "SELECT;"⟩] ++
    List.replicate 80 (.step (.stream 0)) ++ later

def filled (later : List Event) : Dispatcher :=
  fillingStart.play (fillingEvents later)

/-- The stream is cancelled while its channel is full. -/
def filledCancelled : Dispatcher :=
  filled (.cancel 0 :: List.replicate 3 (.step (.stream 0)))

/-- The deadline of the stream passes while its channel is full, and the stream is cancelled then. -/
def filledExpired : Dispatcher :=
  filled [.pass 10, .step (.stream 0), .cancel 0]

/-- A cancelled stream gives its slot back although its channel is full. -/
theorem filled_cancelled_slot :
    ∃ task, filledCancelled.streams[0]? = some task ∧ filledCancelled.IsOver task ∧
      filledCancelled.IsStill ∧ task.channel.hasRoom = false ∧
      task.holdsSlot = task.isStranded ∧ task.holdsSlot = false := by
  obtain ⟨task, found, facts, still⟩ := Dispatcher.alone_still
    (fun task => filledCancelled.isCancelled task.context && !task.isLive &&
      !task.channel.hasRoom && !task.holdsSlot)
    (show filledCancelled.isAlone _ = true by decide +kernel) (by
      intro task found facts
      simp only [Bool.and_eq_true, Bool.not_eq_true'] at facts
      have done := facts.1.1.2
      unfold StreamTask.isLive at done
      unfold Dispatcher.stepStream
      rw [found]
      split at done
      · next phase => simp [phase]
      · next phase => simp [phase]
      · cases done)
  simp only [Bool.and_eq_true, Bool.not_eq_true'] at facts
  have ended : filledCancelled.IsOver task := .inl facts.1.1.1
  exact ⟨task, found, ended, still, facts.1.2, over_slot_stranded _ _ _ _ found ended still,
    facts.2⟩

/-- A stream whose deadline passes while its channel is full keeps its slot until its consumer does
something, even if it is cancelled as well. -/
theorem filled_expired_slot :
    ∃ task, filledExpired.streams[0]? = some task ∧
      filledExpired.isCancelled task.context = true ∧
      filledExpired.isExpired task.context = true ∧ filledExpired.IsStill ∧
      task.holdsSlot = true := by
  obtain ⟨task, found, facts, still⟩ := Dispatcher.alone_still
    (fun task => filledExpired.isCancelled task.context &&
      filledExpired.isExpired task.context && task.isStranded && task.holdsSlot)
    (show filledExpired.isAlone _ = true by decide +kernel) (by
      intro task found facts
      simp only [Bool.and_eq_true] at facts
      rw [Dispatcher.stranded_waits found facts.1.2])
  simp only [Bool.and_eq_true] at facts
  exact ⟨task, found, facts.1.1.1, facts.1.1.2, still, facts.2⟩

end StreamQuery.Dispatch
