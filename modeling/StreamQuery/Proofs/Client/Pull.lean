import StreamQuery.Proofs.Client.Sheet
import StreamQuery.Proofs.Dispatch.Collection
import StreamQuery.Proofs.Dispatch.Sending
/-!
# Queries that are read whole

A client that pulls a query gets what the messages of the response amount to, unless it is cancelled
or too late.
-/

namespace StreamQuery.Client

open Dispatch Response Row

variable {client : Client} {context : Context} {answer : Answer}

/-- A response that is complete, a success, and within the limits of a policy. -/
structure Carries (text : List Char) (policy : Policy) (answer : Answer) : Prop where
  success : isSuccess answer.status = true
  complete : answer.body.ending = .complete
  bytes : answer.body.bytes = utf8 text
  pieces : ∀ piece ∈ answer.body.pieces, piece.length ≤ policy.lineLimit
  within : answer.body.bytes.length ≤ policy.bodyLimit

/-- Neither was a context cancelled, nor has a point in time come. -/
structure Untroubled (context : Context) (deadline : Nat) (dispatcher : Dispatcher) : Prop where
  calm : dispatcher.isCancelled context = false
  early : dispatcher.now < deadline

/-- A client asks with a slot free, is answered by a text, and is not troubled until it has what it
waits for. -/
structure Asks (text : List Char) (context : Context) (answer : Answer) (before after : Client) :
    Prop where
  faces : Dispatcher.Faces answer before.dispatcher
  carries : Carries text before.dispatcher.policy answer
  untroubled : Untroubled context (deadlineOf context before.dispatcher) after.dispatcher

/-- What is untroubled now has been so before. -/
theorem Untroubled.of_play {dispatcher : Dispatcher} {deadline : Nat} {events : List Event}
    (later : Untroubled context deadline (dispatcher.play events)) :
    Untroubled context deadline dispatcher := by
  constructor
  · refine Bool.eq_false_iff.mpr fun raised => ?_
    have cancelled := (Dispatcher.play_grows events dispatcher).isCancelled raised
    exact Bool.false_ne_true (later.calm.symm.trans cancelled)
  · exact Nat.lt_of_le_of_lt (Dispatcher.play_now_le events dispatcher) later.early

theorem Untroubled.of_leads {before after : Dispatcher} {deadline : Nat}
    (leads : Dispatcher.Leads before after) (later : Untroubled context deadline after) :
    Untroubled context deadline before := by
  obtain ⟨events, scheduled, rfl⟩ := leads
  exact later.of_play

/-- A request is sent, and the client waits for its result as long as it may. -/
theorem request_run (client : Client) (context : Context) (path statement : String) :
    ∃ done, (request context path statement).run client =
        ((resultOf? client.dispatcher.requests.length done).getD (.error .deadlineExceeded),
          { client with dispatcher := done }) ∧
      Dispatcher.Leads
        (client.dispatcher.dispatch context (client.post path statement)).1.settle done ∧
      ((resultOf? client.dispatcher.requests.length done).isSome = true ∨
        deadlineOf context client.dispatcher ≤ done.now) :=
  ⟨_, rfl, Dispatcher.settle_runUntil _ _ _,
    Dispatcher.runUntil_stops
      (fun dispatcher => (resultOf? client.dispatcher.requests.length dispatcher).isSome) _ _⟩

/-- A request that meets a free slot and a whole answer gets all bytes of it. -/
theorem request_answered (faces : Dispatcher.Faces answer client.dispatcher)
    (whole : answer.IsWhole client.dispatcher.policy.bodyLimit) {path statement : String}
    {result : Except RequestError ByteArray} {after : Client}
    (ran : (request context path statement).run client = (result, after))
    (untroubled : Untroubled context (deadlineOf context client.dispatcher) after.dispatcher) :
    ∃ bytes, result = .ok bytes ∧ contents bytes = answer.body.bytes := by
  obtain ⟨done, same, leads, stopped⟩ := request_run client context path statement
  cases same.symm.trans ran
  have started := untroubled.of_leads ((Dispatcher.settle_leads _).trans leads)
  have before : Untroubled context (deadlineOf context client.dispatcher) client.dispatcher :=
    @Untroubled.of_play _ _ _ [.dispatch context (client.post path statement)] started
  obtain ⟨sent, onward, policy, found⟩ := Dispatcher.dispatch_sends faces
    (client.post path statement) before.calm before.early
  obtain ⟨task, later, sameContext, deadline, underway⟩ := Dispatcher.leads_underway
    (onward.trans leads) (policy ▸ whole) found (.awaiting rfl)
  have result : task.result?.isSome = true := by
    have answered := stopped.resolve_right (Nat.not_le.mpr untroubled.early)
    simpa only [resultOf?, later, Option.bind_some] using answered
  obtain ⟨bytes, has, all⟩ := underway.result (sameContext ▸ untroubled.calm)
    (deadline ▸ untroubled.early) result
  refine ⟨bytes, ?_, all⟩
  simp only [resultOf?, later, Option.bind_some, has, Option.getD_some]

/-- A query is sent as a request, and the result of the request is decoded. -/
theorem pull_run (record : RecordType) {query : Select} {statement : String}
    (written : query.text = .ok statement) {between : Client}
    {answered : Except RequestError ByteArray}
    (asked : (request context queryEndpoint statement).run client = (answered, between)) :
    ∃ events, (pull context record query).run client =
      (answered >>= rowsOfBody record,
        { between with dispatcher := between.dispatcher.play events }) := by
  have given : (request context queryEndpoint statement).run client =
      (pure (answered, between) : Id _) := asked
  unfold pull
  rw [written]
  simp only [StateT.run_bind, given, pure_bind]
  cases answered >>= rowsOfBody record with
  | ok rows => exact ⟨[], rfl⟩
  | error error =>
      obtain ⟨events, counting, noted⟩ := noteFailure_run error between
      simp only [StateT.run_bind, noted]
      exact ⟨events, rfl⟩

theorem rowsOfBody_text (record : RecordType) (layout : Layout) (messages : List WrittenMessage)
    {bytes : ByteArray} (all : contents bytes = utf8 (layout.text messages)) :
    rowsOfBody record bytes =
      collect ((RowReader.ofRecord record).items (messages.map WrittenMessage.message)) := by
  have same : bytes = (utf8 (layout.text messages)).toByteArray := by
    rw [← all, toByteArray_contents]
  rw [rowsOfBody, same, parseBody_text, ← RowReader.readAll_collect]
  rfl

/-- A query that is pulled amounts to its messages: all rows, or the first failure. -/
theorem pull_collects (record : RecordType) {query : Select} {statement : String}
    (written : query.text = .ok statement) {layout : Layout} {messages : List WrittenMessage}
    {result : Except RequestError (List RecordValue)} {after : Client}
    (asks : Asks (layout.text messages) context answer client after)
    (ran : (pull context record query).run client = (result, after)) :
    result = collect ((RowReader.ofRecord record).items
      (messages.map WrittenMessage.message)) := by
  obtain ⟨faces, carries, untroubled⟩ := asks
  obtain ⟨answered, between, asked⟩ : ∃ answered between,
      (request context queryEndpoint statement).run client = (answered, between) := ⟨_, _, rfl⟩
  obtain ⟨events, pulled⟩ := pull_run record written asked
  cases pulled.symm.trans ran
  obtain ⟨bytes, rfl, all⟩ := request_answered faces
    ⟨carries.success, carries.complete, carries.within⟩ asked untroubled.of_play
  exact rowsOfBody_text record layout messages (all.trans carries.bytes)

end StreamQuery.Client
