import StreamQuery.Proofs.Dispatch.Schedule
import StreamQuery.Proofs.Response.Lines
/-!
# A response that is read whole

From the answer to its request on, a response that is complete, a success, and within the limit is
read to its last byte, whatever else the dispatcher does meanwhile. Only a cancellation or the
deadline of the request can keep it from that.
-/

namespace StreamQuery.Dispatch

open Response

/-- Some of a body was collected, and this is the rest. -/
structure Gathers (body rest : Body) (collected : Collected) : Prop where
  bytes : contents collected.bytes ++ rest.bytes = body.bytes
  ending : rest.ending = body.ending
  size : collected.size = collected.bytes.size

namespace Gathers

variable {body rest : Body} {collected : Collected} {limit : Nat}

theorem start (body : Body) : Gathers body body .empty := by
  refine ⟨?_, rfl, rfl⟩
  simp [Collected.bytes, Collected.empty, contents]

theorem bytes_push (collected : Collected) (part : ByteArray) (size : Nat) :
    Collected.bytes ⟨part :: collected.parts, size⟩ = collected.bytes ++ part := by
  simp [Collected.bytes]

/-- A part that fits is added to the bytes. -/
theorem added {grown : Collected} {more : Body} {now : Nat} {bytes : ByteArray}
    (gathers : Gathers body rest collected)
    (arrival : rest.poll now = .part bytes more) (fits : collected.add? limit bytes = some grown) :
    Gathers body more grown ∧ grown.size ≤ limit := by
  have follows := rest.poll_follows now
  rw [arrival] at follows
  obtain ⟨parts, ending⟩ := follows
  unfold Collected.add? at fits
  split at fits
  · cases fits
  · next short =>
      cases fits
      refine ⟨⟨?_, ending.trans gathers.ending, ?_⟩, Nat.not_lt.1 short⟩
      · rw [bytes_push, contents_append, List.append_assoc, ← gathers.bytes]
        simp [Body.bytes, parts]
      · rw [bytes_push, ByteArray.size_append, gathers.size]

/-- A part that does not fit makes the whole body too long. -/
theorem exceeded {more : Body} {now : Nat} {bytes : ByteArray}
    (gathers : Gathers body rest collected)
    (arrival : rest.poll now = .part bytes more) (exceeds : collected.add? limit bytes = none) :
    limit < body.bytes.length := by
  have follows := rest.poll_follows now
  rw [arrival] at follows
  have split : rest.bytes = contents bytes ++ more.bytes := by
    simp [Body.bytes, follows.1]
  have lengths := congrArg List.length gathers.bytes
  rw [split] at lengths
  simp only [List.length_append, length_contents] at lengths
  have long : limit < collected.size + bytes.size := by
    simpa [Collected.add?] using exceeds
  rw [gathers.size] at long
  omega

/-- When no part is left, all bytes of the body were collected. -/
theorem all (gathers : Gathers body rest collected) (none : rest.parts = []) :
    contents collected.bytes = body.bytes := by
  have nothing : rest.bytes = [] := by simp [Body.bytes, none]
  rw [← gathers.bytes, nothing, List.append_nil]

/-- A part is added, as the whole body is within the limit. -/
theorem part {bytes : ByteArray} {more : Body} {now : Nat} (gathers : Gathers body rest collected)
    (within : body.bytes.length ≤ limit) (arrival : rest.poll now = .part bytes more) :
    ∃ grown, collected.add? limit bytes = some grown ∧ Gathers body more grown := by
  cases fits : collected.add? limit bytes with
  | some grown => exact ⟨grown, rfl, (gathers.added arrival fits).1⟩
  | none => exact absurd (gathers.exceeded arrival fits) (Nat.not_lt.2 within)

theorem awaited {waiting : Body} {now : Nat} (gathers : Gathers body rest collected)
    (arrival : rest.poll now = .awaited waiting) : Gathers body waiting collected := by
  have follows := rest.poll_follows now
  rw [arrival] at follows
  obtain ⟨parts, ending⟩ := follows
  refine ⟨?_, ending.trans gathers.ending, gathers.size⟩
  rw [Body.bytes, parts]
  exact gathers.bytes

theorem finished {now : Nat} (gathers : Gathers body rest collected)
    (arrival : rest.poll now = .finished) : contents collected.bytes = body.bytes := by
  have follows := rest.poll_follows now
  rw [arrival] at follows
  exact gathers.all follows.1

end Gathers

/-- An answer that can be read whole. -/
structure Answer.IsWhole (limit : Nat) (answer : Answer) : Prop where
  success : isSuccess answer.status = true
  complete : answer.body.ending = .complete
  within : answer.body.bytes.length ≤ limit

/-- Where a request stands that was answered. -/
inductive Underway (answer : Answer) (dispatcher : Dispatcher) (task : RequestTask) : Prop where
  | awaiting {due} (phase : task.phase = .exchanging (.awaitingHead answer due))
  | collecting {rest collected}
      (phase : task.phase = .exchanging (.collecting answer.status rest collected))
      (gathers : Gathers answer.body rest collected)
  | whole {bytes} (phase : task.phase = .leaving (.ok bytes) ∨ task.phase = .finished (.ok bytes))
      (all : contents bytes = answer.body.bytes)
  /-- The request was cancelled, or its deadline is over. -/
  | disturbed (cause : dispatcher.isCancelled task.context = true ∨
      task.deadline ≤ dispatcher.now)

/-- What a step of its exchange makes of a request. -/
def ExchangeStep.phase : ExchangeStep → RequestPhase
  | .onward next | .blocked next => .exchanging next
  | .head status body => .exchanging (.collecting status body .empty)
  | .failed error => .leaving (.error error)
  | .whole status bytes => .leaving (wholeResult status bytes)

namespace RequestTurn

variable {dispatcher : Dispatcher} {index : Nat} {task turned : RequestTask}
  {budget : Budget TaskId} {transport : Transport}

theorem bounds (turn : RequestTurn dispatcher index task turned budget transport) :
    turned.context = task.context ∧ turned.deadline = task.deadline := by
  cases turn <;> exact ⟨rfl, rfl⟩

/-- A request goes on as its exchange says, unless it is disturbed. -/
theorem exchanging {exchange : Exchange} {step : ExchangeStep} {sent : Transport}
    (turn : RequestTurn dispatcher index task turned budget transport)
    (phase : task.phase = .exchanging exchange)
    (stepped : dispatcher.exchangeStep task.post exchange = (step, sent)) :
    turned = task ∨ turned.phase = step.phase ∨
      dispatcher.isCancelled task.context = true ∨ task.deadline ≤ dispatcher.now := by
  cases turn with
  | rest => exact .inl rfl
  | exchanged same next =>
      cases phase.symm.trans same
      refine .inr (.inl ?_)
      cases next with
      | onward same | blocked same | answered same =>
          cases stepped.symm.trans same
          rfl
  | closed same cause =>
      cases phase.symm.trans same
      cases cause with
      | cancelled raised => exact .inr (.inr (.inl raised))
      | late same due => exact .inr (.inr (.inr due))
      | failed same | whole same =>
          cases stepped.symm.trans same
          exact .inr (.inl rfl)
  | gaveUp waiver =>
      cases waiver with
      | unasked other | waiting other => cases phase.symm.trans other
  | admitted inquiry | queued inquiry =>
      cases inquiry with
      | first other | again other => cases phase.symm.trans other
  | settled other => cases phase.symm.trans other

/-- A request that has its result keeps it. -/
theorem resulting {result : Except RequestError ByteArray}
    (turn : RequestTurn dispatcher index task turned budget transport)
    (phase : task.phase = .leaving result ∨ task.phase = .finished result) :
    turned.phase = .leaving result ∨ turned.phase = .finished result := by
  have other {found : RequestPhase} (same : task.phase = found) :
      found = .leaving result ∨ found = .finished result := by
    rw [same] at phase
    exact phase
  cases turn with
  | rest => exact phase
  | settled same =>
      rcases other same with same | same <;> cases same
      exact .inr rfl
  | exchanged same | closed same => rcases other same with same | same <;> cases same
  | gaveUp waiver =>
      cases waiver with
      | unasked same | waiting same => rcases other same with same | same <;> cases same
  | admitted inquiry | queued inquiry =>
      cases inquiry with
      | first same | again same => rcases other same with same | same <;> cases same

end RequestTurn

namespace Underway

variable {answer : Answer} {before after : Dispatcher} {index : Nat} {task turned : RequestTask}
  {budget : Budget TaskId} {transport : Transport}

/-- The step of an exchange that collects the body of a whole answer. -/
theorem collect_step {rest : Body} {collected : Collected} {now limit : Nat}
    (whole : answer.IsWhole limit) (gathers : Gathers answer.body rest collected) :
    (∃ more grown, (Exchange.collect now limit answer.status rest collected).phase =
        .exchanging (.collecting answer.status more grown) ∧ Gathers answer.body more grown) ∨
      ((Exchange.collect now limit answer.status rest collected).phase =
        .leaving (.ok collected.bytes) ∧ contents collected.bytes = answer.body.bytes) := by
  unfold Exchange.collect
  cases arrival : rest.poll now with
  | part bytes more =>
      obtain ⟨grown, added, gathers⟩ := gathers.part whole.within arrival
      simp only [added]
      exact .inl ⟨more, grown, rfl, gathers⟩
  | finished =>
      have result : wholeResult answer.status collected.bytes = .ok collected.bytes :=
        if_pos whole.success
      exact .inr ⟨by simp only [ExchangeStep.phase, result], gathers.finished arrival⟩
  | broken cut =>
      have follows := rest.poll_follows now
      rw [arrival] at follows
      cases follows.2.symm.trans (gathers.ending.trans whole.complete)
  | awaited waiting => exact .inl ⟨waiting, collected, rfl, gathers.awaited arrival⟩

theorem turn (underway : Underway answer before task)
    (whole : answer.IsWhole before.policy.bodyLimit)
    (turn : RequestTurn before index task turned budget transport) :
    Underway answer before turned := by
  obtain ⟨context, deadline⟩ := turn.bounds
  cases underway with
  | @awaiting due phase =>
      have step := before.exchangeStep_awaiting task.post answer due
      rcases turn.exchanging phase step with rfl | next | disturbed
      · exact .awaiting phase
      · split at next
        · exact .collecting next (.start _)
        · exact .awaiting next
      · exact .disturbed (context ▸ deadline ▸ disturbed)
  | @collecting rest collected phase gathers =>
      have step : before.exchangeStep task.post (.collecting answer.status rest collected) =
          (Exchange.collect before.now before.policy.bodyLimit answer.status rest collected,
            before.transport) := rfl
      rcases turn.exchanging phase step with rfl | next | disturbed
      · exact .collecting phase gathers
      · rcases collect_step whole gathers with ⟨more, grown, same, gathers⟩ | ⟨same, all⟩
        · exact .collecting (next.trans same) gathers
        · exact .whole (.inl (next.trans same)) all
      · exact .disturbed (context ▸ deadline ▸ disturbed)
  | whole phase all => exact .whole (turn.resulting phase) all
  | disturbed cause => exact .disturbed (context ▸ deadline ▸ cause)

/-- Disturbances are not taken back. -/
theorem later (underway : Underway answer before task) (effect : Effect before event after) :
    Underway answer after task := by
  cases underway with
  | awaiting phase => exact .awaiting phase
  | collecting phase gathers => exact .collecting phase gathers
  | whole phase all => exact .whole phase all
  | disturbed cause =>
      exact .disturbed (cause.imp effect.grows.isCancelled fun late =>
        Nat.le_trans late effect.now_le)

/-- A request that is done, and was not disturbed, has all bytes of the answer. -/
theorem result (underway : Underway answer after task) (calm : after.isCancelled task.context = false)
    (early : after.now < task.deadline) (done : task.result?.isSome = true) :
    ∃ bytes, task.result? = some (.ok bytes) ∧ contents bytes = answer.body.bytes := by
  unfold RequestTask.result? at done ⊢
  cases underway with
  | awaiting phase | collecting phase => simp [phase] at done
  | whole phase all =>
      rcases phase with phase | phase
      · simp [phase] at done
      · exact ⟨_, by simp [phase], all⟩
  | disturbed cause =>
      rcases cause with cancelled | late
      · exact absurd (calm.symm.trans cancelled) Bool.false_ne_true
      · exact absurd early (Nat.not_lt.mpr late)

end Underway

namespace Dispatcher

variable {answer : Answer} {index : Nat}

/-- Through scheduled events, a request that was answered stays on its way. -/
theorem leads_underway {before after : Dispatcher} {task : RequestTask}
    (leads : Leads before after) (whole : answer.IsWhole before.policy.bodyLimit)
    (found : before.requests[index]? = some task) (underway : Underway answer before task) :
    ∃ turned, after.requests[index]? = some turned ∧ turned.context = task.context ∧
      turned.deadline = task.deadline ∧ Underway answer after turned := by
  obtain ⟨events, scheduled, rfl⟩ := leads
  induction events generalizing before task with
  | nil => exact ⟨task, found, rfl, rfl, underway⟩
  | cons event rest induction =>
      have effect := before.apply_effect event
      have change := effect.requestChange index
      have first := scheduled event List.mem_cons_self
      have others : ∀ event ∈ rest, event.isScheduled = true :=
        fun event member => scheduled event (List.mem_cons_of_mem _ member)
      rw [found] at change
      generalize later : (before.apply event).requests[index]? = new at change
      cases change with
      | same => exact induction (effect.policy ▸ whole) later (underway.later effect) others
      | @turned _ turned _ _ cause turn =>
          obtain ⟨context, deadline⟩ := turn.bounds
          have onward := (underway.turn whole turn).later effect
          obtain ⟨last, lastFound, lastContext, lastDeadline, lastUnderway⟩ :=
            induction (effect.policy ▸ whole) later onward others
          exact ⟨last, lastFound, lastContext.trans context, lastDeadline.trans deadline,
            lastUnderway⟩
      | aborted cause =>
          rw [cause] at first
          cases first

end Dispatcher

end StreamQuery.Dispatch
