import StreamQuery.Proofs.Dispatch.Collection
import StreamQuery.Proofs.Dispatch.Sending
/-!
# What a request gets for a response

A request that is answered reads the body of its response whole. What it gets for it depends on the
status, on the bytes that come before the body ends or is cut off, and on the limit, and not on the
parts that the bytes come in: too many bytes count before a cut, and a cut before the status. It has
its result after a number of turns that the number of parts bounds, and never keeps more bytes than
the limit allows.
-/

namespace StreamQuery

namespace Response

theorem contents_toByteArray (bytes : List UInt8) : contents bytes.toByteArray = bytes := by
  simp [contents]

/-- How a body ends that does not stay open: it is complete, or it is cut off for some cause. -/
def endingOf : Option String → Ending
  | none => .complete
  | some cause => .broken cause

theorem endingOf_ne_held (cut : Option String) : endingOf cut ≠ .held := by
  cases cut <;> exact nofun

theorem cut_of_complete {cut : Option String} (complete : endingOf cut = .complete) :
    cut = none := by
  cases cut with
  | none => rfl
  | some cause => cases complete

theorem cut_of_broken {cut : Option String} {cause : String}
    (broken : endingOf cut = .broken cause) : cut = some cause := by
  cases cut with
  | none => cases broken
  | some other =>
      cases broken
      rfl

namespace Body

/-- How often at most a reader has to ask a body for a part or for its end. -/
def turns (body : Body) : Nat :=
  2 * body.parts.length + if body.due.isSome then 1 else 2

theorem turns_pos (body : Body) : 0 < body.turns := by
  unfold turns
  split <;> omega

theorem turns_part {body rest : Body} {now : Nat} {bytes : ByteArray}
    (arrival : body.poll now = .part bytes rest) : rest.turns < body.turns := by
  have follows := body.poll_follows now
  rw [arrival] at follows
  unfold turns
  rw [follows.1, List.length_cons]
  split <;> split <;> omega

/-- A part is asked for once, and a reader that has waited until it is due gets it. -/
theorem turns_awaited {body waiting : Body} {now : Nat} (open_ : body.ending ≠ .held)
    (arrival : body.poll now = .awaited waiting) :
    waiting.turns ≤ body.turns - (body.due.all (· ≤ now)).toNat := by
  have follows := body.poll_follows now
  rw [arrival] at follows
  obtain ⟨later, asked⟩ := Body.poll_awaited arrival
  obtain ⟨due, waits, early⟩ := later.resolve_right fun held => open_ held.2
  have parts : waiting.parts = body.parts := follows.1
  unfold turns
  rcases asked with unasked | same
  · simp [parts, waits, unasked]
  · simp [parts, waits, same, Nat.not_le.2 early]

end Body

end Response

namespace Dispatch

open Response

/-- What a request gets for a response whose body consists of some bytes and then ends, or is cut
off. -/
def responseResult (limit status : Nat) (bytes : List UInt8) (cut : Option String) :
    Except RequestError ByteArray :=
  if limit < bytes.length then
    .error (.protocol (.bodyTooLong limit))
  else
    match cut with
    | some cause => .error (.cannotRead cause)
    | none =>
        if isSuccess status then .ok bytes.toByteArray
        else .error (.badStatus status (errorText bytes.toByteArray))

theorem responseResult_ok_iff (limit status : Nat) (bytes : List UInt8) (cut : Option String)
    (whole : ByteArray) :
    responseResult limit status bytes cut = .ok whole ↔
      isSuccess status = true ∧ cut = none ∧ bytes.length ≤ limit ∧ contents whole = bytes := by
  unfold responseResult
  split
  · next long =>
      constructor
      · intro result
        cases result
      · rintro ⟨-, -, short, -⟩
        exact absurd long (Nat.not_lt.2 short)
  · next short =>
      cases cut with
      | some cause => simp
      | none =>
          dsimp only
          split
          · next success =>
              constructor
              · intro result
                cases result
                exact ⟨success, rfl, Nat.not_lt.1 short, contents_toByteArray bytes⟩
              · rintro ⟨-, -, -, rfl⟩
                rw [toByteArray_contents]
          · next failure => simp [failure]

namespace Gathers

variable {body rest : Body} {collected : Collected} {limit : Nat}

theorem length_le (gathers : Gathers body rest collected) (none : rest.parts = [])
    (bounded : collected.size ≤ limit) : ¬ limit < body.bytes.length := by
  rw [← gathers.all none, length_contents, ← gathers.size]
  exact Nat.not_lt.2 bounded

end Gathers

/-! ### Turns -/

namespace RequestPhase

/-- How many turns at most an answered request takes until it has its result. -/
def turns : RequestPhase → Nat
  | .exchanging (.awaitingHead answer _) => answer.body.turns + 2
  | .exchanging (.collecting _ body _) => body.turns + 1
  | .leaving _ => 1
  | _ => 0

/-- False while a request waits for a point in time still to come. -/
def isDue (now : Nat) : RequestPhase → Bool
  | .exchanging exchange => exchange.due?.all (· ≤ now)
  | _ => true

end RequestPhase

/-- Where a request stands that was answered and is to get some result. -/
inductive Receiving (limit : Nat) (answer : Answer) (result : Except RequestError ByteArray) :
    RequestPhase → Prop where
  | awaiting {due} : Receiving limit answer result (.exchanging (.awaitingHead answer due))
  | collecting {rest collected} (gathers : Gathers answer.body rest collected)
      (bounded : collected.size ≤ limit) :
      Receiving limit answer result (.exchanging (.collecting answer.status rest collected))
  | leaving : Receiving limit answer result (.leaving result)
  | finished : Receiving limit answer result (.finished result)

namespace Receiving

variable {limit now : Nat} {answer : Answer} {cut : Option String}

/-- A request that collects a body goes on to the result, and a turn less is left to it. -/
theorem collect {rest : Body} {collected : Collected} (ends : answer.body.ending = endingOf cut)
    (gathers : Gathers answer.body rest collected) (bounded : collected.size ≤ limit) :
    Receiving limit answer (responseResult limit answer.status answer.body.bytes cut)
        (Exchange.collect now limit answer.status rest collected).phase ∧
      (Exchange.collect now limit answer.status rest collected).phase.turns ≤
        rest.turns + 1 - (rest.due.all (· ≤ now)).toNat := by
  have ending := gathers.ending.trans ends
  have follows := rest.poll_follows now
  have positive := rest.turns_pos
  have once := Bool.toNat_le (rest.due.all (· ≤ now))
  unfold Exchange.collect
  cases arrival : rest.poll now with
  | part bytes more =>
      have fewer := Body.turns_part arrival
      simp only
      cases fits : collected.add? limit bytes with
      | some grown =>
          obtain ⟨later, within⟩ := gathers.added arrival fits
          refine ⟨.collecting later within, ?_⟩
          simp only [ExchangeStep.phase, RequestPhase.turns]
          omega
      | none =>
          have result : responseResult limit answer.status answer.body.bytes cut =
              .error (.protocol (.bodyTooLong limit)) := if_pos (gathers.exceeded arrival fits)
          rw [result]
          refine ⟨.leaving, ?_⟩
          simp only [ExchangeStep.phase, RequestPhase.turns]
          omega
  | finished =>
      rw [arrival] at follows
      have whole : cut = none := cut_of_complete (ending.symm.trans follows.2)
      have result : responseResult limit answer.status answer.body.bytes cut =
          wholeResult answer.status collected.bytes := by
        unfold responseResult
        rw [if_neg (gathers.length_le follows.1 bounded), whole, ← gathers.all follows.1,
          toByteArray_contents]
        rfl
      rw [result]
      refine ⟨.leaving, ?_⟩
      simp only [ExchangeStep.phase, RequestPhase.turns]
      omega
  | broken cause =>
      rw [arrival] at follows
      have broken : cut = some cause := cut_of_broken (ending.symm.trans follows.2)
      have result : responseResult limit answer.status answer.body.bytes cut =
          .error (.cannotRead cause) := by
        unfold responseResult
        rw [if_neg (gathers.length_le follows.1 bounded), broken]
      rw [result]
      refine ⟨.leaving, ?_⟩
      simp only [ExchangeStep.phase, RequestPhase.turns]
      omega
  | awaited waiting =>
      have open_ : rest.ending ≠ .held := by
        rw [ending]
        exact endingOf_ne_held cut
      have fewer := Body.turns_awaited open_ arrival
      refine ⟨.collecting (gathers.awaited arrival) bounded, ?_⟩
      simp only [ExchangeStep.phase, RequestPhase.turns]
      omega

end Receiving

namespace Dispatcher

variable {dispatcher : Dispatcher} {index : Nat} {task : RequestTask}

/-- An undisturbed request goes on as its exchange says. -/
theorem stepRequest_exchanging {exchange : Exchange}
    (found : dispatcher.requests[index]? = some task) (phase : task.phase = .exchanging exchange)
    (calm : dispatcher.isCancelled task.context = false) (early : dispatcher.now < task.deadline) :
    (dispatcher.stepRequest index).1.requests[index]? =
      some { task with phase := (dispatcher.exchangeStep task.post exchange).1.phase } := by
  have bound := (List.getElem?_eq_some_iff.mp found).1
  obtain ⟨step, transport, same⟩ : ∃ step transport,
      dispatcher.exchangeStep task.post exchange = (step, transport) := ⟨_, _, rfl⟩
  have stepped := same
  unfold exchangeStep at stepped
  unfold stepRequest
  rw [found, same]
  simp only [phase, calm, Bool.false_eq_true, if_false]
  unfold exchangeRequest
  simp only
  rw [stepped]
  cases step with
  | blocked next =>
      simp only [Nat.not_le.2 early, if_false, setRequest, modify_found found]
      exact List.getElem?_set_self bound
  | _ =>
      simp only [closeRequest, setRequest, modify_found found]
      exact List.getElem?_set_self bound

theorem stepRequest_leaving {result : Except RequestError ByteArray}
    (found : dispatcher.requests[index]? = some task) (phase : task.phase = .leaving result) :
    (dispatcher.stepRequest index).1.requests[index]? =
      some { task with phase := .finished result } := by
  have bound := (List.getElem?_eq_some_iff.mp found).1
  unfold stepRequest
  rw [found]
  simp only [phase]
  unfold settleRequest
  cases result with
  | ok bytes =>
      simp only [finishRequest, release_eq, count, setRequest, modify_found found]
      exact List.getElem?_set_self bound
  | error error =>
      simp only [finishRequest, release_eq, setRequest, modify_found found]
      exact List.getElem?_set_self bound

/-- True for a step of a request that does not wait for a point in time still to come. -/
def takesTurn (index : Nat) (event : Event) (dispatcher : Dispatcher) : Bool :=
  match event with
  | .step (.request place) =>
      place = index &&
        (dispatcher.requests[index]?).all fun task => task.phase.isDue dispatcher.now
  | _ => false

/-- How many turns a request takes among some events. -/
def turns (index : Nat) : List Event → Dispatcher → Nat
  | [], _ => 0
  | event :: rest, dispatcher =>
      (dispatcher.takesTurn index event).toNat + turns index rest (dispatcher.apply event)

theorem takesTurn_own (found : dispatcher.requests[index]? = some task) :
    dispatcher.takesTurn index (.step (.request index)) = task.phase.isDue dispatcher.now := by
  simp [takesTurn, found]

theorem takesTurn_other {event : Event} (other : event ≠ .step (.request index)) :
    dispatcher.takesTurn index event = false := by
  unfold takesTurn
  split
  · next place =>
      have apart : place ≠ index := fun same => other (same ▸ rfl)
      simp [apart]
  · rfl

section Run

variable {answer : Answer} {cut : Option String}

/-- What a request is to get under the limit of its dispatcher. -/
def awaitedResult (answer : Answer) (cut : Option String) (dispatcher : Dispatcher) :
    Except RequestError ByteArray :=
  responseResult dispatcher.policy.bodyLimit answer.status answer.body.bytes cut

theorem step_receiving (found : dispatcher.requests[index]? = some task)
    (calm : dispatcher.isCancelled task.context = false) (early : dispatcher.now < task.deadline)
    (ends : answer.body.ending = endingOf cut)
    (receiving : Receiving dispatcher.policy.bodyLimit answer (dispatcher.awaitedResult answer cut)
      task.phase) :
    ∃ phase, (dispatcher.stepRequest index).1.requests[index]? =
        some { task with phase := phase } ∧
      Receiving dispatcher.policy.bodyLimit answer (dispatcher.awaitedResult answer cut) phase ∧
      phase.turns ≤ task.phase.turns - (task.phase.isDue dispatcher.now).toNat := by
  generalize current : task.phase = phase at receiving
  cases receiving with
  | @awaiting due =>
      refine ⟨_, stepRequest_exchanging found current calm early, ?_⟩
      rw [exchangeStep_awaiting]
      simp only
      split
      · next arrived =>
          refine ⟨.collecting (.start _) (Nat.zero_le _), ?_⟩
          have once := Bool.toNat_le (RequestPhase.isDue dispatcher.now
            (.exchanging (.awaitingHead answer due)))
          simp only [ExchangeStep.phase, RequestPhase.turns]
          omega
      · next early =>
          refine ⟨.awaiting, ?_⟩
          simp [ExchangeStep.phase, RequestPhase.turns, RequestPhase.isDue, Exchange.due?, early]
  | collecting gathers bounded =>
      exact ⟨_, stepRequest_exchanging found current calm early,
        Receiving.collect ends gathers bounded⟩
  | leaving => exact ⟨_, stepRequest_leaving found current, .finished, Nat.zero_le _⟩
  | finished =>
      refine ⟨_, ?_, .finished, Nat.zero_le _⟩
      unfold stepRequest
      rw [found]
      simp only [current]
      rw [found, ← current]

/-- No event but its own steps, and being given up, changes a request. -/
theorem apply_receiving {event : Event} (found : dispatcher.requests[index]? = some task)
    (calm : dispatcher.isCancelled task.context = false) (early : dispatcher.now < task.deadline)
    (kept : event ≠ .abort index) (ends : answer.body.ending = endingOf cut)
    (receiving : Receiving dispatcher.policy.bodyLimit answer (dispatcher.awaitedResult answer cut)
      task.phase) :
    ∃ phase, (dispatcher.apply event).requests[index]? = some { task with phase := phase } ∧
      Receiving dispatcher.policy.bodyLimit answer (dispatcher.awaitedResult answer cut) phase ∧
      phase.turns ≤ task.phase.turns - (dispatcher.takesTurn index event).toNat := by
  by_cases own : event = .step (.request index)
  · rw [own, takesTurn_own found]
    exact step_receiving found calm early ends receiving
  · have change := (dispatcher.apply_effect event).requestChange index
    rw [found] at change
    generalize later : (dispatcher.apply event).requests[index]? = new at change
    cases change with
    | same =>
        rw [takesTurn_other own]
        exact ⟨task.phase, rfl, receiving, Nat.le_refl _⟩
    | turned cause => exact absurd cause own
    | aborted cause => exact absurd cause kept

theorem play_receiving {events : List Event} (found : dispatcher.requests[index]? = some task)
    (calm : (dispatcher.play events).isCancelled task.context = false)
    (early : (dispatcher.play events).now < task.deadline)
    (kept : ∀ event ∈ events, event ≠ .abort index) (ends : answer.body.ending = endingOf cut)
    (receiving : Receiving dispatcher.policy.bodyLimit answer (dispatcher.awaitedResult answer cut)
      task.phase) :
    ∃ phase, (dispatcher.play events).requests[index]? = some { task with phase := phase } ∧
      Receiving dispatcher.policy.bodyLimit answer (dispatcher.awaitedResult answer cut) phase ∧
      phase.turns ≤ task.phase.turns - dispatcher.turns index events := by
  induction events generalizing dispatcher task with
  | nil => exact ⟨task.phase, found, receiving, Nat.le_refl _⟩
  | cons event rest induction =>
      have calmBefore : dispatcher.isCancelled task.context = false := by
        apply Bool.eq_false_iff.2
        intro cancelled
        have later := (play_grows (event :: rest) dispatcher).isCancelled cancelled
        exact Bool.false_ne_true (calm.symm.trans later)
      have earlyBefore := Nat.lt_of_le_of_lt (play_now_le (event :: rest) dispatcher) early
      obtain ⟨phase, stepped, onward, fewer⟩ := apply_receiving found calmBefore earlyBefore
        (kept event List.mem_cons_self) ends receiving
      have policy : (dispatcher.apply event).policy = dispatcher.policy :=
        (dispatcher.apply_effect event).policy
      have result : (dispatcher.apply event).awaitedResult answer cut =
          dispatcher.awaitedResult answer cut := by rw [awaitedResult, policy, awaitedResult]
      rw [← result, ← policy] at onward
      obtain ⟨last, lastFound, lastReceiving, lastFewer⟩ := induction stepped calm early
        (fun other member => kept other (List.mem_cons_of_mem event member)) onward
      rw [policy, result] at lastReceiving
      refine ⟨last, lastFound, lastReceiving, ?_⟩
      simp only [turns] at lastFewer ⊢
      omega

/-- An undisturbed request that meets an answer at the transport is answered by it. -/
theorem step_answered (found : dispatcher.requests[index]? = some task)
    (unsent : task.phase = .exchanging .unsent)
    (calm : dispatcher.isCancelled task.context = false) (early : dispatcher.now < task.deadline)
    (next : dispatcher.transport.next?.1 = some (.answer answer)) :
    (dispatcher.apply (.step (.request index))).requests[index]? =
      some { task with
        phase := .exchanging (.awaitingHead answer (dispatcher.now + answer.latency)) } := by
  obtain ⟨sent, sends⟩ := Transport.send_next next task.post
  have step : dispatcher.exchangeStep task.post .unsent =
      (.onward (.awaitingHead answer (dispatcher.now + answer.latency)), sent) := by
    simp only [exchangeStep, Exchange.step, sends]
  have turned := stepRequest_exchanging found unsent calm early
  rw [step] at turned
  exact turned

end Run

end Dispatcher

/-- Once a request has taken its slot, and the transport answers it, its result is the one that the
status, the bytes and the end of the body decide, with the limit. It is there after two turns for
each part and four more, and bytes past the limit are never kept. -/
theorem response_decided {dispatcher : Dispatcher} {index : Nat} {task : RequestTask}
    {answer : Answer} {cut : Option String} {events : List Event}
    (found : dispatcher.requests[index]? = some task)
    (unsent : task.phase = .exchanging .unsent)
    (next : dispatcher.transport.next?.1 = some (.answer answer))
    (ends : answer.body.ending = endingOf cut)
    (kept : ∀ event ∈ events, event ≠ .abort index)
    (calm : (dispatcher.play (.step (.request index) :: events)).isCancelled task.context = false)
    (early : (dispatcher.play (.step (.request index) :: events)).now < task.deadline) :
    ∃ turned,
      (dispatcher.play (.step (.request index) :: events)).requests[index]? = some turned ∧
      (∀ result, turned.result? = some result →
        result = responseResult dispatcher.policy.bodyLimit answer.status answer.body.bytes cut ∧
        ∀ whole, result = .ok whole ↔
          isSuccess answer.status = true ∧ cut = none ∧
            answer.body.bytes.length ≤ dispatcher.policy.bodyLimit ∧
            contents whole = answer.body.bytes) ∧
      (2 * answer.body.parts.length + 4 ≤
          (dispatcher.apply (.step (.request index))).turns index events →
        turned.result?.isSome = true) ∧
      ∀ status rest collected,
        turned.phase = .exchanging (.collecting status rest collected) →
          collected.bytes.size ≤ dispatcher.policy.bodyLimit := by
  have policy : (dispatcher.apply (.step (.request index))).policy = dispatcher.policy :=
    (dispatcher.apply_effect (.step (.request index))).policy
  have calmBefore : dispatcher.isCancelled task.context = false := by
    apply Bool.eq_false_iff.2
    intro cancelled
    have later := (Dispatcher.play_grows (.step (.request index) :: events) dispatcher).isCancelled
      cancelled
    exact Bool.false_ne_true (calm.symm.trans later)
  have earlyBefore := Nat.lt_of_le_of_lt
    (Dispatcher.play_now_le (.step (.request index) :: events) dispatcher) early
  have answered := Dispatcher.step_answered found unsent calmBefore earlyBefore next
  obtain ⟨phase, turned, receiving, fewer⟩ :=
    Dispatcher.play_receiving answered calm early kept ends .awaiting
  rw [policy, Dispatcher.awaitedResult, policy] at receiving
  dsimp only at fewer
  refine ⟨_, turned, ?_, ?_, ?_⟩
  · intro result has
    have decided : result = responseResult dispatcher.policy.bodyLimit answer.status
        answer.body.bytes cut := by
      cases receiving with
      | finished => exact (Option.some.inj has).symm
      | _ => cases has
    refine ⟨decided, fun whole => ?_⟩
    rw [decided]
    exact responseResult_ok_iff _ _ _ _ whole
  · intro enough
    have needed : RequestPhase.turns
        (.exchanging (.awaitingHead answer (dispatcher.now + answer.latency))) ≤
          2 * answer.body.parts.length + 4 := by
      simp only [RequestPhase.turns, Body.turns]
      split <;> omega
    have none : phase.turns = 0 := by omega
    cases receiving with
    | finished => rfl
    | awaiting | collecting | leaving => simp [RequestPhase.turns] at none
  · intro status rest collected same
    cases receiving with
    | collecting gathers bounded =>
        cases same
        rw [← gathers.size]
        exact bounded
    | _ => cases same

/-- Three bytes in two parts, as many as the limit allows. -/
def parted : Answer :=
  ⟨200, 5, ⟨[⟨#[111, 107]⟩, ⟨#[33]⟩], 0, .complete, none⟩⟩

/-- A statement that has its slot and is sent next. -/
def partedStart : Dispatcher :=
  ((Dispatcher.start ⟨1000, 0, 3, 3, maximalLineLength⟩ 1
    (.ofScript [.answer parted] none)).dispatch .background ⟨"/ksql", "LIST STREAMS;"⟩).1.apply
      (.step (.request 0))

def partedEvents : List Event :=
  .pass 5 :: List.replicate 8 (.step (.request 0))

theorem parted_read : ∃ turned,
    (partedStart.play (.step (.request 0) :: partedEvents)).requests[0]? = some turned ∧
      turned.result? = some (.ok ⟨#[111, 107, 33]⟩) := by
  have found : partedStart.requests[0]? =
      some ⟨.background, 1000, ⟨"/ksql", "LIST STREAMS;"⟩, .exchanging .unsent⟩ := by
    rfl
  have next : partedStart.transport.next?.1 = some (.answer parted) := by
    rfl
  have kept : ∀ event ∈ partedEvents, event ≠ .abort 0 := by
    simp [partedEvents]
  have time : (partedStart.play (.step (.request 0) :: partedEvents)).now = 5 := by
    rfl
  have turns : (partedStart.apply (.step (.request 0))).turns 0 partedEvents = 8 := by
    rfl
  have ends : parted.body.ending = endingOf none := rfl
  obtain ⟨turned, last, result, enough, _⟩ :=
    response_decided found rfl next ends kept rfl (by rw [time]; decide)
  obtain ⟨got, has⟩ := Option.isSome_iff_exists.1 (enough (by rw [turns]; decide))
  have whole : responseResult 3 200 parted.body.bytes none = .ok ⟨#[111, 107, 33]⟩ := by
    rfl
  refine ⟨turned, last, ?_⟩
  rw [has, (result got has).1]
  exact congrArg some whole

end Dispatch

end StreamQuery
