import StreamQuery.Proofs.Dispatch.RequestTurn
import StreamQuery.Proofs.Dispatch.StreamTurn
/-!
# What one event can do

Every event changes one request, or one stream, or neither. Time never goes back, and a signal that
was raised stays raised.
-/

namespace StreamQuery.Dispatch

/-- All signals that were raised still are. -/
def Cancellation.Grows (before after : Cancellation) : Prop :=
  ∀ signal, before.isRaised signal = true → after.isRaised signal = true

namespace Cancellation

theorem grows_refl (cancellation : Cancellation) : cancellation.Grows cancellation :=
  fun _ raised => raised

theorem grows_modify (cancellation : Cancellation) (id : Nat) {change : Signal → Signal}
    (keeps : ∀ signal, signal.raised = true → (change signal).raised = true) :
    cancellation.Grows (cancellation.modify id change) := by
  intro signal raised
  unfold isRaised at raised ⊢
  unfold modify
  rw [List.getElem?_modify]
  cases found : cancellation.signals[signal]? with
  | none => simp [found] at raised
  | some entry =>
      have entryRaised : entry.raised = true := by simpa [found] using raised
      by_cases same : id = signal
      · simpa [same] using keeps entry entryRaised
      · simpa [same] using entryRaised

theorem grows_derive (source : Option Nat) (cancellation : Cancellation) :
    cancellation.Grows (cancellation.derive source).1 := by
  intro signal raised
  unfold isRaised at raised ⊢
  unfold derive
  cases found : cancellation.signals[signal]? with
  | none => simp [found] at raised
  | some entry =>
      have bound := (List.getElem?_eq_some_iff.mp found).1
      rw [found] at raised
      simpa [List.getElem?_append_left bound, found] using raised

theorem grows_relay (id : Nat) (cancellation : Cancellation) :
    cancellation.Grows (cancellation.relay id).1 := by
  unfold relay
  split
  · split
    · exact grows_modify _ _ (fun _ _ => rfl)
    · split
      · exact grows_refl _
      · exact grows_modify _ _ (fun _ raised => raised)
  · exact grows_refl _

end Cancellation

/-- What was cancelled stays cancelled. -/
theorem Cancellation.Grows.isCancelled {before after : Cancellation} (grows : before.Grows after)
    {context : Context} (cancelled : before.isCancelled context = true) :
    after.isCancelled context = true := by
  unfold Cancellation.isCancelled at cancelled ⊢
  rw [Option.any_eq_true] at cancelled ⊢
  obtain ⟨signal, watched, raised⟩ := cancelled
  exact ⟨signal, watched, grows signal raised⟩

/-- A request is given up where it waits; what it holds of the budget goes back. -/
inductive RequestAbort (dispatcher : Dispatcher) (index : Nat) (task : RequestTask) :
    Budget TaskId → Prop where
  | unasked (phase : task.phase = .asking) :
      RequestAbort dispatcher index task dispatcher.budget
  | waiting (phase : task.phase = .waiting) :
      RequestAbort dispatcher index task (dispatcher.budget.abandon (.request index))
  | exchanging {exchange} (phase : task.phase = .exchanging exchange) :
      RequestAbort dispatcher index task dispatcher.budget.release

inductive Effect (dispatcher : Dispatcher) : Event → Dispatcher → Prop where
  /-- No task changes: the event is about signals, time or the queue of woken tasks, or the task
  that it names does not exist or has nothing to do. -/
  | aside {event now cancellation statistics ready} (later : dispatcher.now ≤ now)
      (grows : dispatcher.cancellation.Grows cancellation) :
      Effect dispatcher event
        { dispatcher with
          now := now
          cancellation := cancellation
          statistics := statistics
          ready := ready }
  | dispatched {context post deadline ready} :
      Effect dispatcher (.dispatch context post)
        { dispatcher with
          requests := dispatcher.requests ++ [⟨context, deadline, post, .asking⟩]
          ready := ready }
  | opened {context post ready} :
      Effect dispatcher (.openStream context post)
        { dispatcher with
          streams := dispatcher.streams ++ [⟨context, post, .starting, 0, .empty⟩]
          ready := ready }
  | requestTurned {index task after} (found : dispatcher.requests[index]? = some task)
      (turned : Dispatcher.RequestTurned index task dispatcher after) :
      Effect dispatcher (.step (.request index)) after
  | streamTurned {index task after} (found : dispatcher.streams[index]? = some task)
      (turned : Dispatcher.StreamTurned index task dispatcher after) :
      Effect dispatcher (.step (.stream index)) after
  | aborted {index task budget ready} (found : dispatcher.requests[index]? = some task)
      (abort : RequestAbort dispatcher index task budget) :
      Effect dispatcher (.abort index)
        { dispatcher with
          requests := dispatcher.requests.set index { task with phase := .aborted }
          budget := budget
          ready := ready }
  | received {index task item rest ready} (found : dispatcher.streams[index]? = some task)
      (item : task.channel.receive = .item item rest) :
      Effect dispatcher (.receive index)
        { dispatcher with
          streams := dispatcher.streams.set index { task with channel := rest }
          ready := ready }
  | closed {index task ready} (found : dispatcher.streams[index]? = some task) :
      Effect dispatcher (.closeStream index)
        { dispatcher with
          streams := dispatcher.streams.set index { task with channel := task.channel.close }
          ready := ready }
  | dropped {index task ready} (found : dispatcher.streams[index]? = some task) :
      Effect dispatcher (.dropStream index)
        { dispatcher with
          streams := dispatcher.streams.set index { task with channel := task.channel.drop }
          ready := ready }

/-- What becomes of the stream at an index by one event. -/
inductive StreamChange (dispatcher : Dispatcher) (index : Nat) (event : Event) :
    Option StreamTask → Option StreamTask → Prop where
  | missing : StreamChange dispatcher index event none none
  | same {task} : StreamChange dispatcher index event (some task) (some task)
  | fresh {context post} :
      StreamChange dispatcher index event none (some ⟨context, post, .starting, 0, .empty⟩)
  | turned {task turned budget transport statistics}
      (cause : event = .step (.stream index))
      (turn : StreamTurn dispatcher index task turned budget transport statistics) :
      StreamChange dispatcher index event (some task) (some turned)
  | received {task item rest} (cause : event = .receive index)
      (taken : task.channel.receive = .item item rest) :
      StreamChange dispatcher index event (some task) (some { task with channel := rest })
  | closed {task} (cause : event = .closeStream index) :
      StreamChange dispatcher index event (some task)
        (some { task with channel := task.channel.close })
  | dropped {task} (cause : event = .dropStream index) :
      StreamChange dispatcher index event (some task)
        (some { task with channel := task.channel.drop })

namespace StreamChange

variable {dispatcher : Dispatcher} {index : Nat} {event : Event}

theorem refl (task? : Option StreamTask) : StreamChange dispatcher index event task? task? := by
  cases task? with
  | none => exact .missing
  | some task => exact .same

/-- A change of the stream at one index, seen from any index. -/
theorem ofSet {place : Nat} {task turned : StreamTask}
    (found : dispatcher.streams[place]? = some task)
    (change : place = index → StreamChange dispatcher index event (some task) (some turned)) :
    StreamChange dispatcher index event dispatcher.streams[index]?
      (dispatcher.streams.set place turned)[index]? := by
  by_cases same : place = index
  · subst same
    rw [found, List.getElem?_set_self (List.getElem?_eq_some_iff.mp found).1]
    exact change rfl
  · rw [List.getElem?_set_ne same]
    exact refl _

end StreamChange

/-- What becomes of the request at an index by one event. -/
inductive RequestChange (dispatcher : Dispatcher) (index : Nat) (event : Event) :
    Option RequestTask → Option RequestTask → Prop where
  | missing : RequestChange dispatcher index event none none
  | same {task} : RequestChange dispatcher index event (some task) (some task)
  | fresh {context deadline post} :
      RequestChange dispatcher index event none (some ⟨context, deadline, post, .asking⟩)
  | turned {task turned budget transport} (cause : event = .step (.request index))
      (turn : RequestTurn dispatcher index task turned budget transport) :
      RequestChange dispatcher index event (some task) (some turned)
  | aborted {task} (cause : event = .abort index) :
      RequestChange dispatcher index event (some task) (some { task with phase := .aborted })

namespace RequestChange

variable {dispatcher : Dispatcher} {index : Nat} {event : Event}

theorem refl (task? : Option RequestTask) : RequestChange dispatcher index event task? task? := by
  cases task? with
  | none => exact .missing
  | some task => exact .same

/-- A change of the request at one index, seen from any index. -/
theorem ofSet {place : Nat} {task turned : RequestTask}
    (found : dispatcher.requests[place]? = some task)
    (change : place = index → RequestChange dispatcher index event (some task) (some turned)) :
    RequestChange dispatcher index event dispatcher.requests[index]?
      (dispatcher.requests.set place turned)[index]? := by
  by_cases same : place = index
  · subst same
    rw [found, List.getElem?_set_self (List.getElem?_eq_some_iff.mp found).1]
    exact change rfl
  · rw [List.getElem?_set_ne same]
    exact refl _

end RequestChange

namespace Effect

variable {dispatcher after : Dispatcher} {event : Event}

theorem now_le (effect : Effect dispatcher event after) : dispatcher.now ≤ after.now := by
  cases effect with
  | aside later grows => exact later
  | requestTurned found turned =>
      obtain ⟨_, _, _, _, _, _, rfl⟩ := turned
      exact Nat.le_refl _
  | streamTurned found turned =>
      obtain ⟨_, _, _, _, _, _, rfl⟩ := turned
      exact Nat.le_refl _
  | _ => exact Nat.le_refl _

theorem grows (effect : Effect dispatcher event after) :
    dispatcher.cancellation.Grows after.cancellation := by
  cases effect with
  | aside later grows => exact grows
  | requestTurned found turned =>
      obtain ⟨_, _, _, _, _, _, rfl⟩ := turned
      exact Cancellation.grows_refl _
  | streamTurned found turned =>
      obtain ⟨_, _, _, _, _, _, rfl⟩ := turned
      exact Cancellation.grows_refl _
  | _ => exact Cancellation.grows_refl _

theorem policy (effect : Effect dispatcher event after) : after.policy = dispatcher.policy := by
  cases effect with
  | requestTurned found turned =>
      obtain ⟨_, _, _, _, _, _, rfl⟩ := turned
      rfl
  | streamTurned found turned =>
      obtain ⟨_, _, _, _, _, _, rfl⟩ := turned
      rfl
  | _ => rfl

theorem requestChange (effect : Effect dispatcher event after) (index : Nat) :
    RequestChange dispatcher index event dispatcher.requests[index]? after.requests[index]? := by
  cases effect with
  | aside | opened | received | closed | dropped => exact .refl _
  | dispatched =>
      rcases Nat.lt_trichotomy index dispatcher.requests.length with inside | rfl | outside
      · rw [List.getElem?_append_left inside]
        exact .refl _
      · simp only [List.getElem?_concat_length, Nat.le_refl, List.getElem?_eq_none]
        exact .fresh
      · rw [List.getElem?_eq_none (Nat.le_of_lt outside), List.getElem?_eq_none (by simpa)]
        exact .missing
  | requestTurned found turned =>
      obtain ⟨_, _, _, _, _, turn, rfl⟩ := turned
      refine .ofSet found ?_
      rintro rfl
      exact .turned rfl turn
  | streamTurned found turned =>
      obtain ⟨_, _, _, _, _, _, rfl⟩ := turned
      exact .refl _
  | aborted found abort =>
      refine .ofSet found ?_
      rintro rfl
      exact .aborted rfl

theorem streamChange (effect : Effect dispatcher event after) (index : Nat) :
    StreamChange dispatcher index event dispatcher.streams[index]? after.streams[index]? := by
  cases effect with
  | aside | dispatched | aborted => exact .refl _
  | opened =>
      rcases Nat.lt_trichotomy index dispatcher.streams.length with inside | rfl | outside
      · rw [List.getElem?_append_left inside]
        exact .refl _
      · simp only [List.getElem?_concat_length, Nat.le_refl, List.getElem?_eq_none]
        exact .fresh
      · rw [List.getElem?_eq_none (Nat.le_of_lt outside), List.getElem?_eq_none (by simpa)]
        exact .missing
  | requestTurned found turned =>
      obtain ⟨_, _, _, _, _, _, rfl⟩ := turned
      exact .refl _
  | streamTurned found turned =>
      obtain ⟨_, _, _, _, _, turn, rfl⟩ := turned
      refine .ofSet found ?_
      rintro rfl
      exact .turned rfl turn
  | received found taken =>
      refine .ofSet found ?_
      rintro rfl
      exact .received rfl taken
  | closed found =>
      refine .ofSet found ?_
      rintro rfl
      exact .closed rfl
  | dropped found =>
      refine .ofSet found ?_
      rintro rfl
      exact .dropped rfl

end Effect

namespace Dispatcher

variable (dispatcher : Dispatcher)

theorem aside_ready (event : Event) (ready : List TaskId) :
    Effect dispatcher event { dispatcher with ready := ready } :=
  .aside (Nat.le_refl _) (Cancellation.grows_refl _)

theorem modifyStream_missing {index : Nat} (missing : dispatcher.streams[index]? = none)
    (change : StreamTask → StreamTask) : dispatcher.modifyStream index change = dispatcher := by
  unfold modifyStream
  rw [List.modify_eq_set_getElem?, missing]
  rfl

theorem abort_effect (index : Nat) :
    Effect dispatcher (.abort index) (dispatcher.abort index) := by
  unfold abort
  cases found : dispatcher.requests[index]? with
  | none => exact aside_ready dispatcher _ _
  | some task =>
      simp only
      split
      · exact aside_ready dispatcher _ _
      · exact aside_ready dispatcher _ _
      · exact aside_ready dispatcher _ _
      · next phase =>
          simp only [setRequest, modify_found found]
          exact .aborted found (.unasked phase)
      · next phase =>
          simp only [setBudget_eq, setRequest, modify_found found]
          exact .aborted found (.waiting phase)
      · next exchange phase =>
          simp only [release_eq, setRequest, modify_found found]
          exact .aborted found (.exchanging phase)

theorem receive_effect (index : Nat) :
    Effect dispatcher (.receive index) (dispatcher.receive index).2 := by
  unfold receive
  cases found : dispatcher.streams[index]? with
  | none => exact aside_ready dispatcher _ _
  | some task =>
      simp only
      split
      · next item rest taken =>
          simp only [modifyStream, modify_found found]
          split
          · rw [wake_eq]
            exact .received found taken
          · exact .received found taken
      · exact aside_ready dispatcher _ _

theorem closeStream_effect (index : Nat) :
    Effect dispatcher (.closeStream index) (dispatcher.closeStream index) := by
  unfold closeStream
  rw [wake_eq]
  cases found : dispatcher.streams[index]? with
  | none =>
      rw [modifyStream_missing dispatcher found]
      exact aside_ready dispatcher _ _
  | some task =>
      simp only [modifyStream, modify_found found]
      exact .closed found

theorem dropStream_effect (index : Nat) :
    Effect dispatcher (.dropStream index) (dispatcher.dropStream index) := by
  unfold dropStream
  rw [wake_eq]
  cases found : dispatcher.streams[index]? with
  | none =>
      rw [modifyStream_missing dispatcher found]
      exact aside_ready dispatcher _ _
  | some task =>
      simp only [modifyStream, modify_found found]
      exact .dropped found

theorem stepRelay_effect (signal : Nat) :
    Effect dispatcher (.step (.relay signal)) (dispatcher.stepRelay signal).1 := by
  have grows := Cancellation.grows_relay signal dispatcher.cancellation
  unfold stepRelay
  simp only
  split
  · rw [wakeAll_eq]
    exact .aside (Nat.le_refl _) grows
  · exact .aside (Nat.le_refl _) grows

theorem step_effect (task : TaskId) :
    Effect dispatcher (.step task) (dispatcher.step task).1 := by
  cases task with
  | request index =>
      cases found : dispatcher.requests[index]? with
      | none =>
          simp only [step, stepRequest, found]
          exact aside_ready dispatcher _ _
      | some task => exact .requestTurned found (stepRequest_turn found)
  | stream index =>
      cases found : dispatcher.streams[index]? with
      | none =>
          simp only [step, stepStream, found]
          exact aside_ready dispatcher _ _
      | some task => exact .streamTurned found (stepStream_turn found)
  | relay signal => exact stepRelay_effect dispatcher signal

/-- Every event has one of the effects. -/
theorem apply_effect (event : Event) : Effect dispatcher event (dispatcher.apply event) := by
  have keeps {change : Signal → Signal} (id : Nat)
      (raised : ∀ signal, signal.raised = true → (change signal).raised = true) :=
    Cancellation.grows_modify dispatcher.cancellation id raised
  cases event with
  | dispatch context post =>
      simp only [apply, dispatch, wake_eq]
      exact .dispatched
  | openStream context post =>
      simp only [apply, openStream, wake_eq]
      exact .opened
  | abort index => exact abort_effect dispatcher index
  | receive index => exact receive_effect dispatcher index
  | closeStream index => exact closeStream_effect dispatcher index
  | dropStream index => exact dropStream_effect dispatcher index
  | deriveContext context =>
      simp only [apply, deriveContext, wake_eq]
      exact .aside (Nat.le_refl _) (Cancellation.grows_derive _ _)
  | shareContext signal => exact .aside (Nat.le_refl _) (keeps signal fun _ raised => raised)
  | dropContext signal => exact .aside (Nat.le_refl _) (keeps signal fun _ raised => raised)
  | cancel signal =>
      simp only [apply, cancel, wakeAll_eq]
      exact .aside (Nat.le_refl _) (keeps signal fun _ _ => rfl)
  | dropHandle signal =>
      simp only [apply, dropHandle, wakeAll_eq]
      exact .aside (Nat.le_refl _) (keeps signal fun _ raised => raised)
  | step task => exact step_effect dispatcher task
  | pass time => exact .aside (Nat.le_max_left _ _) (Cancellation.grows_refl _)
  | arrange ready => exact aside_ready dispatcher _ _
  | countFailure => exact .aside (Nat.le_refl _) (Cancellation.grows_refl _)

end Dispatcher

end StreamQuery.Dispatch
