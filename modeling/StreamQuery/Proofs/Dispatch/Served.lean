import StreamQuery.Proofs.Dispatch.Delivery
/-!
# Streams whose first answer is known

A stream that has sent its request is going to read the answer to it, whatever else the dispatcher
does meanwhile, as long as it is not cancelled, the answer is not late, and its consumer keeps the
channel. What the chronicle says of it from there on is about that answer first.
-/

namespace StreamQuery.Dispatch

open Response

theorem Channel.receive_receiver {α : Type} {channel rest : Channel α} {item : α}
    (taken : channel.receive = .item item rest) : rest.receiver = channel.receiver := by
  unfold Channel.receive at taken
  split at taken
  · cases taken
    rfl
  · split at taken <;> cases taken

/-- True for an event that neither closes nor drops the channel of a stream. -/
def Event.keepsChannel (index : Nat) : Event → Bool
  | .closeStream place | .dropStream place => place ≠ index
  | _ => true

/-- Where a stream stands whose request was answered. -/
inductive Meets (answer : Answer) (deadline : Nat) (dispatcher : Dispatcher) (task : StreamTask)
    (written : Chronicle) : Prop where
  | opening {due} (phase : task.phase = .opening (.awaitingHead answer due) deadline)
      (unseen : written.sightings = [])
  | reading (first : written.sightings.getLast?.map Sighting.body = some answer.body)
  /-- The stream was cancelled, or the answer was late. -/
  | missed (cause : dispatcher.isCancelled task.context = true ∨ deadline ≤ dispatcher.now)

theorem sight_first {full : Bool} {before after : Option Reading} {sightings : List Sighting}
    {body : Body} (first : sightings.getLast?.map Sighting.body = some body) :
    (sight full before after sightings).getLast?.map Sighting.body = some body := by
  cases sightings with
  | nil => cases first
  | cons last earlier =>
      unfold sight
      split
      · rw [List.getLast?_cons_cons]
        exact first
      · next same =>
          cases same
          cases earlier with
          | nil => exact first
          | cons other earlier => exact first
      · next same =>
          cases same
          cases earlier with
          | nil => exact first
          | cons other earlier => exact first
      · exact first

theorem StreamTurn.context {dispatcher : Dispatcher} {index : Nat} {task turned : StreamTask}
    {budget : Budget TaskId} {transport : Transport} {statistics : Statistics}
    (turn : StreamTurn dispatcher index task turned budget transport statistics) :
    turned.context = task.context ∧ turned.channel.receiver = task.channel.receiver := by
  cases turn <;> exact ⟨rfl, rfl⟩

/-- A stream that waits for the head of an answer reads it, waits on, or gives up for a cause. -/
theorem StreamTurn.awaiting {dispatcher : Dispatcher} {index : Nat} {task turned : StreamTask}
    {budget : Budget TaskId} {transport : Transport} {statistics : Statistics} {answer : Answer}
    {due deadline : Nat}
    (turn : StreamTurn dispatcher index task turned budget transport statistics)
    (success : isSuccess answer.status = true)
    (phase : task.phase = .opening (.awaitingHead answer due) deadline) :
    turned = task ∨ turned.phase = .opening (.awaitingHead answer due) deadline ∨
      turned.phase = .forwarding (.ofBody answer.body) ∨
      dispatcher.isCancelled task.context = true ∨ deadline ≤ dispatcher.now := by
  have step := dispatcher.exchangeStep_awaiting task.post answer due
  cases turn with
  | rest => exact .inl rfl
  | opening same exchanged =>
      cases phase.symm.trans same
      cases exchanged with
      | onward stepped =>
          rw [step] at stepped
          split at stepped <;> cases stepped
      | blocked stepped =>
          rw [step] at stepped
          split at stepped <;> cases stepped
          exact .inr (.inl rfl)
      | rejected stepped failure =>
          rw [step] at stepped
          split at stepped <;> cases stepped
          rw [success] at failure
          cases failure
  | refused same cause =>
      cases phase.symm.trans same
      rcases cause with ⟨cancelled, _⟩ | failure
      · exact .inr (.inr (.inr (.inl cancelled)))
      · cases failure with
        | failed stepped | rejected stepped =>
            rw [step] at stepped
            split at stepped <;> cases stepped
        | late stepped late => exact .inr (.inr (.inr (.inr late)))
  | opened same stepped =>
      rcases same with same | same
      · cases phase.symm.trans same
        rw [step] at stepped
        split at stepped <;> cases stepped
        exact .inr (.inr (.inl rfl))
      · cases phase.symm.trans same
  | left same =>
      rcases same with ⟨_, same⟩ | ⟨_, _, same⟩ | ⟨_, _, same⟩ <;> cases phase.symm.trans same
  | expired same => rcases same with same | ⟨_, same⟩ <;> cases phase.symm.trans same
  | leftWait waiver | expiredWait waiver =>
      cases waiver with
      | resting same | queued same => cases phase.symm.trans same
  | readmitted inquiry | queued inquiry =>
      cases inquiry with
      | queue same | again same => cases phase.symm.trans same
  | declined same | admitted same | skipped same | rebalanced same | exhausted same | marked same
  | forwarded same | stalled same | handed same | overlong same | finished same | fed same
  | drained same | broken same | awaited same | reopening same | reopenFailed same
  | reopenCancelled same | deserted same | failed same | released same | ended same =>
      cases phase.symm.trans same

namespace Meets

variable {answer : Answer} {deadline : Nat} {before after : Dispatcher} {task turned : StreamTask}
  {written later : Chronicle} {full : Bool}

/-- What was missed stays missed. -/
theorem pass {event : Event} (meets : Meets answer deadline before task written)
    (effect : Effect before event after) : Meets answer deadline after task written := by
  cases meets with
  | opening phase unseen => exact .opening phase unseen
  | reading first => exact .reading first
  | missed cause =>
      exact .missed (cause.imp effect.grows.isCancelled fun late =>
        Nat.le_trans late effect.now_le)

/-- A stream whose phase stays as it is. -/
theorem keep (meets : Meets answer deadline before task written)
    (phase : turned.phase = task.phase) (context : turned.context = task.context)
    (sightings : later.sightings = sight full task.reading? turned.reading? written.sightings) :
    Meets answer deadline before turned later := by
  cases meets with
  | opening opening unseen =>
      refine .opening (phase.trans opening) ?_
      rw [sightings, reading?_stage, reading?_stage, phase, opening, unseen]
      rfl
  | reading first =>
      refine .reading ?_
      rw [sightings]
      exact sight_first first
  | missed cause =>
      refine .missed ?_
      rw [context]
      exact cause

theorem turn {index : Nat} {budget : Budget TaskId} {transport : Transport}
    {statistics : Statistics}
    (meets : Meets answer deadline before task written) (success : isSuccess answer.status = true)
    (turn : StreamTurn before index task turned budget transport statistics)
    (sightings : later.sightings = sight full task.reading? turned.reading? written.sightings) :
    Meets answer deadline before turned later := by
  cases meets with
  | opening opening unseen =>
      rcases turn.awaiting success opening with rfl | phase | phase | cause
      · exact (Meets.opening opening unseen).keep rfl rfl sightings
      · exact (Meets.opening opening unseen).keep (phase.trans opening.symm) turn.context.1
          sightings
      · refine .reading ?_
        rw [sightings, reading?_stage, reading?_stage, phase, opening, unseen]
        rfl
      · refine .missed ?_
        rw [turn.context.1]
        exact cause
  | reading first =>
      refine .reading ?_
      rw [sightings]
      exact sight_first first
  | missed cause =>
      refine .missed ?_
      rw [turn.context.1]
      exact cause

end Meets

namespace Dispatcher

/-- A stream whose request was answered, whose channel is kept, and a chronicle of it since then. -/
structure Served (index : Nat) (answer : Answer) (context : Context) (deadline : Nat)
    (dispatcher : Dispatcher) (written : Chronicle) : Prop where
  follows : Follows index dispatcher written
  last : ChannelEndsLast index dispatcher
  found : ∃ task, dispatcher.streams[index]? = some task ∧ task.context = context ∧
    task.channel.receiver = .listening ∧ Meets answer deadline dispatcher task written
  stirred : written.disturbed = true →
    dispatcher.isCancelled context = true ∨ dispatcher.isExpired context = true

variable {index : Nat} {answer : Answer} {context : Context} {deadline : Nat}
  {dispatcher : Dispatcher} {written : Chronicle}

/-- A chronicle is begun as the stream waits for the head of the answer. -/
theorem served_begin {post : Post} {due : Nat}
    (found : dispatcher.streams[index]? = some
      ⟨context, post, .opening (.awaitingHead answer due) deadline, 0, .empty⟩) :
    Served index answer context deadline dispatcher .empty where
  follows := follows_found found ⟨[], [], [], 0, .nil, .unopened, .empty⟩
  last task same := by
    cases found.symm.trans same
    simp [Channel.empty]
  found := ⟨_, found, rfl, rfl, .opening rfl rfl⟩
  stirred disturbed := by cases disturbed

/-- What troubles a stream once, troubles it ever after. -/
theorem isExpired_later {later : Dispatcher} (passed : dispatcher.now ≤ later.now)
    (expired : dispatcher.isExpired context = true) : later.isExpired context = true := by
  unfold isExpired Context.isExpired at expired ⊢
  rw [Option.any_eq_true] at expired ⊢
  obtain ⟨due, same, late⟩ := expired
  exact ⟨due, same, decide_eq_true (Nat.le_trans (of_decide_eq_true late) passed)⟩

theorem apply_served {event : Event} (success : isSuccess answer.status = true)
    (served : Served index answer context deadline dispatcher written)
    (keeps : event.keepsChannel index = true) :
    Served index answer context deadline (dispatcher.apply event)
      (observe index event dispatcher (dispatcher.apply event) written) := by
  have effect := dispatcher.apply_effect event
  obtain ⟨task, found, same, listening, meets⟩ := served.found
  refine ⟨apply_follows served.follows served.last, effect_channel served.last effect, ?_, ?_⟩
  · have change := effect.streamChange index
    rw [found] at change
    generalize later : (dispatcher.apply event).streams[index]? = new at change
    cases change with
    | same =>
        exact ⟨task, rfl, same, listening,
          (meets.keep rfl rfl (observe_sightings found later)).pass effect⟩
    | @turned _ turned _ _ _ cause turn =>
        obtain ⟨sameContext, receiver⟩ := turn.context
        exact ⟨turned, rfl, sameContext.trans same, receiver.trans listening,
          (meets.turn success turn (observe_sightings found later)).pass effect⟩
    | @received _ item rest cause taken =>
        have kept : Meets answer deadline dispatcher { task with channel := rest }
            (observe index event dispatcher (dispatcher.apply event) written) :=
          meets.keep rfl rfl (observe_sightings found later)
        exact ⟨_, rfl, same, (Channel.receive_receiver taken).trans listening, kept.pass effect⟩
    | closed cause | dropped cause =>
        rw [cause] at keeps
        simp [Event.keepsChannel] at keeps
  · intro disturbed
    have past : dispatcher.isCancelled context = true ∨ dispatcher.isExpired context = true := by
      rcases Bool.or_eq_true_iff.mp disturbed with before | now
      · exact served.stirred before
      · have stirs : dispatcher.disturbs task = true := by
          simpa [found] using (Bool.and_eq_true_iff.mp now).2
        simpa [disturbs, same, Channel.isListening, listening] using
          (Bool.and_eq_true_iff.mp stirs).2
    exact past.imp effect.grows.isCancelled (isExpired_later effect.now_le)

theorem play_served (events : List Event) (success : isSuccess answer.status = true)
    (served : Served index answer context deadline dispatcher written)
    (keeps : ∀ event ∈ events, event.keepsChannel index = true) :
    Served index answer context deadline (dispatcher.play events)
      (dispatcher.chronicle index events written) := by
  induction events generalizing dispatcher written with
  | nil => exact served
  | cons event rest induction =>
      exact induction (apply_served success served (keeps event List.mem_cons_self))
        fun event member => keeps event (List.mem_cons_of_mem _ member)

/-- The first response that a stream has read stays the first. -/
theorem chronicle_first {body : Body} (events : List Event)
    (first : written.sightings.getLast?.map Sighting.body = some body) :
    (dispatcher.chronicle index events written).sightings.getLast?.map Sighting.body =
      some body := by
  induction events generalizing dispatcher written with
  | nil => exact first
  | cons event rest induction => exact induction (sight_first first)

/-- A stream that has read a response has been opened. -/
theorem Follows.opened {task : StreamTask} {body : Body}
    (follows : Follows index dispatcher written)
    (found : dispatcher.streams[index]? = some task)
    (first : written.sightings.getLast?.map Sighting.body = some body) :
    task.opened? = some (.ok ()) := by
  obtain ⟨attempts, errors, items, ends, records, stands, hears⟩ := follows.found task found
  have stage : task.phase.stage ≠ .unopened := by
    intro unopened
    rw [unopened] at stands
    cases stands
    generalize written.sightings = sightings at records first
    cases records
    cases first
  unfold StreamTask.opened?
  generalize task.phase = phase at stage
  cases phase with
  | releasing departure =>
      cases departure with
      | refused error => exact absurd rfl stage
      | _ => rfl
  | starting | opening | refused => exact absurd rfl stage
  | _ => rfl

/-- A stream that was answered, and was not troubled until it was open, reads the answer. -/
theorem Served.opened (served : Served index answer context deadline dispatcher written)
    (calm : dispatcher.isCancelled context = false) (early : dispatcher.now < deadline)
    (done : ((dispatcher.streams[index]?).bind StreamTask.opened?).isSome = true) :
    (dispatcher.streams[index]?).bind StreamTask.opened? = some (.ok ()) ∧
      written.sightings.getLast?.map Sighting.body = some answer.body := by
  obtain ⟨task, found, same, listening, meets⟩ := served.found
  rw [found] at done ⊢
  cases meets with
  | opening phase unseen => simp [StreamTask.opened?, phase] at done
  | reading first => exact ⟨served.follows.opened found first, first⟩
  | missed cause =>
      rcases cause with cancelled | late
      · rw [same, calm] at cancelled
        cases cancelled
      · exact absurd early (Nat.not_lt.mpr late)

end Dispatcher

end StreamQuery.Dispatch
