import StreamQuery.Proofs.Dispatch.Effect
/-!
# Channels are ended last

A stream ends its channel as the last thing that it does. A consumer that finds the end of a channel
which it has not closed itself therefore knows that the response is closed and the slot given back.
-/

namespace StreamQuery.Dispatch

theorem Channel.receive_finished {α : Type} {channel rest : Channel α} {item : α}
    (taken : channel.receive = .item item rest) : rest.finished = channel.finished := by
  unfold Channel.receive at taken
  split at taken
  · cases taken
    rfl
  · split at taken <;> cases taken

/-- A stream that has ended takes no step. -/
theorem StreamTurn.source {dispatcher : Dispatcher} {index : Nat} {task turned : StreamTask}
    {budget : Budget TaskId} {transport : Transport} {statistics : Statistics}
    (turn : StreamTurn dispatcher index task turned budget transport statistics) :
    turned = task ∨ task.phase ≠ .ended := by
  cases turn with
  | rest => exact .inl rfl
  | opened phase step success => rcases phase with phase | phase <;> simp [phase]
  | left phase gone => rcases phase with ⟨_, phase⟩ | ⟨_, _, phase⟩ | ⟨_, _, phase⟩ <;> simp [phase]
  | expired phase late => rcases phase with phase | ⟨_, phase⟩ <;> simp [phase]
  | leftWait waiver gone | expiredWait waiver gone =>
      cases waiver with
      | resting phase | queued phase => simp [phase]
  | readmitted inquiry granted | queued inquiry granted =>
      cases inquiry with
      | queue phase | again phase => simp [phase]
  | declined phase | admitted phase | opening phase | refused phase | skipped phase
  | rebalanced phase | exhausted phase | marked phase | forwarded phase | stalled phase
  | handed phase | overlong phase | finished phase | fed phase | drained phase | broken phase
  | awaited phase | reopening phase | reopenFailed phase | reopenCancelled phase
  | deserted phase | failed phase | released phase | ended phase => simp [phase]

/-- A step ends the channel of a stream as it ends the stream, and not otherwise. -/
theorem StreamTurn.target {dispatcher : Dispatcher} {index : Nat} {task turned : StreamTask}
    {budget : Budget TaskId} {transport : Transport} {statistics : Statistics}
    (turn : StreamTurn dispatcher index task turned budget transport statistics) :
    turned = task ∨ (turned.phase = .ended ∧ turned.channel.finished = true) ∨
      (turned.phase ≠ .ended ∧ turned.channel.finished = task.channel.finished) := by
  cases turn with
  | rest => exact .inl rfl
  | ended phase => exact .inr (.inl ⟨rfl, rfl⟩)
  | @released departure phase => exact .inr (.inr ⟨by cases departure <;> simp [Departure.phase], rfl⟩)
  | @deserted error held _ failing gone leaves =>
      exact .inr (.inr ⟨by subst leaves; cases held <;> simp, rfl⟩)
  | @failed error held _ failing listening room leaves =>
      exact .inr (.inr ⟨by subst leaves; cases held <;> simp, rfl⟩)
  | _ => exact .inr (.inr ⟨by simp, rfl⟩)

namespace Dispatcher

variable {before after : Dispatcher} {index : Nat}

/-- The channel of a stream is ended as the stream ends. -/
def ChannelEndsLast (index : Nat) (dispatcher : Dispatcher) : Prop :=
  ∀ task, dispatcher.streams[index]? = some task →
    (task.channel.finished = true ↔ task.phase = .ended)

theorem effect_channel {event : Event} (last : ChannelEndsLast index before)
    (effect : Effect before event after) : ChannelEndsLast index after := by
  intro task found
  have change := effect.streamChange index
  rw [found] at change
  generalize earlier : before.streams[index]? = task? at change
  cases change with
  | same => exact last task earlier
  | fresh => simp [Channel.empty]
  | @turned task _ _ _ _ cause turn =>
      have ended := last task earlier
      rcases turn.target with rfl | ⟨phase, finished⟩ | ⟨phase, same⟩
      · exact ended
      · simp [phase, finished]
      · rcases turn.source with rfl | alive
        · exact ended
        · simp [phase, same, ended, alive]
  | @received task item rest cause taken =>
      have ended := last task earlier
      rw [← Channel.receive_finished taken] at ended
      exact ended
  | @closed task cause =>
      have ended := last task earlier
      exact ended
  | @dropped task cause =>
      have ended := last task earlier
      exact ended

theorem play_channel (events : List Event) (dispatcher : Dispatcher)
    (last : ChannelEndsLast index dispatcher) :
    ChannelEndsLast index (dispatcher.play events) := by
  induction events generalizing dispatcher with
  | nil => exact last
  | cons event rest induction =>
      exact induction _ (effect_channel last (dispatcher.apply_effect event))

/-- A consumer that has not closed its channel finds the end of it only after the stream has closed
its response and given back its slot. -/
theorem ended_holds_none {dispatcher : Dispatcher} (last : ChannelEndsLast index dispatcher)
    {task : StreamTask} (found : dispatcher.streams[index]? = some task)
    (ended : (dispatcher.receive index).1 = some .ended)
    (listening : task.channel.receiver = .listening) :
    task.isOpen = false ∧ task.holdsSlot = false := by
  have finished : task.channel.finished = true := by
    unfold receive at ended
    rw [found] at ended
    simp only [Channel.receive] at ended
    cases kept : task.channel.kept with
    | cons item rest => simp [kept] at ended
    | nil =>
        cases state : task.channel.finished with
        | true => rfl
        | false => simp [kept, state, Channel.isListening, listening] at ended
  have phase := (last task found).mp finished
  simp [StreamTask.isOpen, StreamTask.holdsSlot, phase]

theorem start_channel (policy : Policy) (slots : Nat) (transport : Transport) (index : Nat) :
    ChannelEndsLast index (start policy slots transport) := by
  intro task found
  cases found

end Dispatcher

end StreamQuery.Dispatch
