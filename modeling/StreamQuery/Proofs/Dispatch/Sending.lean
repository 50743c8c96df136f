import StreamQuery.Proofs.Dispatch.Schedule
/-!
# Statements that are sent at once

When nothing else is woken and a slot is free, a statement is sent as soon as its task is made, and
it gets the next answer of the transport. What happens from there on is told by other modules.
-/

namespace StreamQuery.Dispatch

theorem Budget.take_free {α : Type} [DecidableEq α] {budget : Budget α}
    (free : budget.isSaturated = false) :
    ∃ taken, budget.take? = some taken ∧ taken.runnable? = budget.runnable? := by
  have room : budget.inFlight < budget.limit := by simpa [isSaturated] using free
  exact ⟨_, if_pos room, rfl⟩

theorem Transport.send_next {transport : Transport} {answer : Answer}
    (next : transport.next?.1 = some (.answer answer)) (post : Post) :
    ∃ sent, transport.send post = (.ok answer, sent) := by
  obtain ⟨queue, standing, sends, failures, posts⟩ := transport
  unfold next? at next
  unfold send next?
  cases queue with
  | nil =>
      simp only at next ⊢
      rw [next]
      exact ⟨_, rfl⟩
  | cons scripted rest =>
      simp only at next ⊢
      cases next
      exact ⟨_, rfl⟩

namespace Dispatcher

theorem run_onward {dispatcher stepped : Dispatcher} {task : TaskId} {rest : List TaskId}
    (woken : dispatcher.ready = task :: rest)
    (step : { dispatcher with ready := rest }.step task = (stepped, true)) (fuel : Nat) :
    dispatcher.run (fuel + 1) = { stepped with ready := task :: stepped.ready }.run fuel := by
  rw [run, woken]
  simp only [step, if_true]

/-- A dispatcher that settles takes two steps at least, where there are two to take. -/
theorem settle_twice {dispatcher first second : Dispatcher} {task : TaskId}
    (woken : dispatcher.ready = [task])
    (one : { dispatcher with ready := [] }.step task = (first, true))
    (two : first.step task = (second, true)) :
    Leads { second with ready := task :: second.ready } dispatcher.settle := by
  have enough : 2 ≤ dispatcher.stepBound := by
    unfold stepBound
    refine Nat.le_trans (show 2 ≤ 16 * 1 * 1 by decide) (Nat.le_trans ?_ (Nat.le_add_right _ _))
    exact Nat.mul_le_mul (Nat.mul_le_mul_left 16 (Nat.le_add_left 1 _)) (Nat.le_add_left 1 _)
  obtain ⟨fuel, bound⟩ := Nat.exists_eq_add_of_le' enough
  have onward := @run_onward { first with ready := task :: first.ready } second task first.ready
    rfl two fuel
  rw [settle, bound, run_onward woken one, onward]
  exact run_leads _ _

theorem setBudget_quiet {dispatcher : Dispatcher} {budget : Budget TaskId}
    (same : budget.runnable? = dispatcher.budget.runnable?) :
    dispatcher.setBudget budget = { dispatcher with budget := budget } :=
  if_pos same

variable {dispatcher : Dispatcher} {answer : Answer} {context : Context} {index : Nat}

theorem request_admitted {task : RequestTask} {taken : Budget TaskId}
    (found : dispatcher.requests[index]? = some task) (phase : task.phase = .asking)
    (calm : dispatcher.isCancelled task.context = false) (early : dispatcher.now < task.deadline)
    (took : dispatcher.budget.take? = some taken)
    (quiet : taken.runnable? = dispatcher.budget.runnable?) :
    dispatcher.step (.request index) =
      ({ dispatcher with
        budget := taken
        requests := dispatcher.requests.set index { task with phase := .exchanging .unsent } },
        true) := by
  have asks : dispatcher.budget.acquire (.request index) = (taken, true) := by
    simp only [Budget.acquire, took]
  simp only [step, stepRequest, found, phase, calm, Nat.not_le.mpr early, asks, admitRequest,
    setBudget_quiet quiet, setRequest, modify_found found]
  rfl

theorem request_sent {task : RequestTask} {sent : Transport}
    (found : dispatcher.requests[index]? = some task) (phase : task.phase = .exchanging .unsent)
    (calm : dispatcher.isCancelled task.context = false)
    (sends : dispatcher.transport.send task.post = (.ok answer, sent)) :
    dispatcher.step (.request index) =
      ({ dispatcher with
        transport := sent
        requests := dispatcher.requests.set index { task with
          phase := .exchanging (.awaitingHead answer (dispatcher.now + answer.latency)) } },
        true) := by
  simp only [step, stepRequest, found, phase, calm, exchangeRequest, Exchange.step, sends,
    setRequest, modify_found found]
  rfl

/-- A request that meets a free slot is sent before anything else happens. -/
theorem request_sends {deadline : Nat} {post : Post}
    (found : dispatcher.requests[index]? = some ⟨context, deadline, post, .asking⟩)
    (woken : dispatcher.ready = [.request index])
    (calm : dispatcher.isCancelled context = false) (early : dispatcher.now < deadline)
    (free : dispatcher.budget.isSaturated = false)
    (next : dispatcher.transport.next?.1 = some (.answer answer)) :
    ∃ sent, Leads sent dispatcher.settle ∧ sent.policy = dispatcher.policy ∧
      sent.requests[index]? = some ⟨context, deadline, post,
        .exchanging (.awaitingHead answer (dispatcher.now + answer.latency))⟩ := by
  obtain ⟨taken, took, quiet⟩ := Budget.take_free free
  obtain ⟨transport, sends⟩ := Transport.send_next next post
  have bound := (List.getElem?_eq_some_iff.mp found).1
  have unsent : (dispatcher.requests.set index
      ⟨context, deadline, post, .exchanging .unsent⟩)[index]? =
        some ⟨context, deadline, post, .exchanging .unsent⟩ := List.getElem?_set_self bound
  have admitted := @request_admitted { dispatcher with ready := [] } index _ taken found rfl calm
    early took quiet
  have sent := @request_sent { dispatcher with budget := taken, requests := _, ready := [] } answer
    index _ transport unsent rfl calm sends
  exact ⟨_, settle_twice woken admitted sent, rfl, by simp [bound]⟩

theorem stream_admitted {task : StreamTask} {taken : Budget TaskId}
    (found : dispatcher.streams[index]? = some task) (phase : task.phase = .starting)
    (calm : dispatcher.isCancelled task.context = false)
    (took : dispatcher.budget.take? = some taken)
    (quiet : taken.runnable? = dispatcher.budget.runnable?) :
    dispatcher.step (.stream index) =
      ({ dispatcher with
        budget := taken
        streams := dispatcher.streams.set index { task with
          phase := .opening .unsent
            (task.context.deadlineOr dispatcher.now dispatcher.policy.requestTimeout) } },
        true) := by
  simp only [step, stepStream, found, phase, stepStarting, calm, took, setBudget_quiet quiet,
    setStream, modifyStream, modify_found found]
  rfl

theorem stream_sent {task : StreamTask} {deadline : Nat} {sent : Transport}
    (found : dispatcher.streams[index]? = some task)
    (phase : task.phase = .opening .unsent deadline)
    (calm : dispatcher.isCancelled task.context = false)
    (sends : dispatcher.transport.send task.post = (.ok answer, sent)) :
    dispatcher.step (.stream index) =
      ({ dispatcher with
        transport := sent
        streams := dispatcher.streams.set index { task with
          phase := .opening (.awaitingHead answer (dispatcher.now + answer.latency)) deadline } },
        true) := by
  simp only [step, stepStream, found, phase, stepOpening, calm, Exchange.step, sends, setStream,
    modifyStream, modify_found found]
  rfl

/-- A stream that meets a free slot sends its request before anything else happens. -/
theorem stream_sends {post : Post}
    (found : dispatcher.streams[index]? = some ⟨context, post, .starting, 0, .empty⟩)
    (woken : dispatcher.ready = [.stream index])
    (calm : dispatcher.isCancelled context = false)
    (free : dispatcher.budget.isSaturated = false)
    (next : dispatcher.transport.next?.1 = some (.answer answer)) :
    ∃ sent, Leads sent dispatcher.settle ∧ sent.policy = dispatcher.policy ∧
      sent.streams[index]? = some ⟨context, post,
        .opening (.awaitingHead answer (dispatcher.now + answer.latency))
          (context.deadlineOr dispatcher.now dispatcher.policy.requestTimeout), 0, .empty⟩ := by
  obtain ⟨taken, took, quiet⟩ := Budget.take_free free
  obtain ⟨transport, sends⟩ := Transport.send_next next post
  have bound := (List.getElem?_eq_some_iff.mp found).1
  have unsent {phase : StreamPhase} : (dispatcher.streams.set index
      ⟨context, post, phase, 0, .empty⟩)[index]? = some ⟨context, post, phase, 0, .empty⟩ :=
    List.getElem?_set_self bound
  have admitted := @stream_admitted { dispatcher with ready := [] } index _ taken found rfl calm
    took quiet
  have sent := @stream_sent { dispatcher with budget := taken, streams := _, ready := [] } answer
    index _ (context.deadlineOr dispatcher.now dispatcher.policy.requestTimeout) transport unsent
    rfl calm sends
  exact ⟨_, settle_twice woken admitted sent, rfl, by simp [bound]⟩

/-- A dispatcher whose tasks all wait, which has a free slot, and whose next answer is known. -/
structure Faces (answer : Answer) (dispatcher : Dispatcher) : Prop where
  idle : dispatcher.ready = []
  free : dispatcher.budget.isSaturated = false
  next : dispatcher.transport.next?.1 = some (.answer answer)

theorem dispatch_sends (faces : Faces answer dispatcher) (post : Post)
    (calm : dispatcher.isCancelled context = false)
    (early : dispatcher.now <
      context.deadlineOr dispatcher.now dispatcher.policy.requestTimeout) :
    ∃ sent, Leads sent (dispatcher.dispatch context post).1.settle ∧
      sent.policy = dispatcher.policy ∧
      sent.requests[dispatcher.requests.length]? = some
        ⟨context, context.deadlineOr dispatcher.now dispatcher.policy.requestTimeout, post,
          .exchanging (.awaitingHead answer (dispatcher.now + answer.latency))⟩ := by
  have started : (dispatcher.dispatch context post).1 =
      { dispatcher with
        requests := dispatcher.requests ++ [⟨context,
          context.deadlineOr dispatcher.now dispatcher.policy.requestTimeout, post, .asking⟩]
        ready := [.request dispatcher.requests.length] } := by
    simp [dispatch, wake, faces.idle]
  rw [started]
  exact request_sends List.getElem?_concat_length rfl calm early faces.free faces.next

theorem openStream_sends (faces : Faces answer dispatcher) (post : Post)
    (calm : dispatcher.isCancelled context = false) :
    ∃ sent, Leads sent (dispatcher.openStream context post).1.settle ∧
      sent.policy = dispatcher.policy ∧
      sent.streams[dispatcher.streams.length]? = some
        ⟨context, post, .opening (.awaitingHead answer (dispatcher.now + answer.latency))
          (context.deadlineOr dispatcher.now dispatcher.policy.requestTimeout), 0, .empty⟩ := by
  have started : (dispatcher.openStream context post).1 =
      { dispatcher with
        streams := dispatcher.streams ++ [⟨context, post, .starting, 0, .empty⟩]
        ready := [.stream dispatcher.streams.length] } := by
    simp [openStream, wake, faces.idle]
  rw [started]
  exact stream_sends List.getElem?_concat_length rfl calm faces.free faces.next

end Dispatcher

end StreamQuery.Dispatch
