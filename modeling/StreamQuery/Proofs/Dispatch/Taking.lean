import StreamQuery.Proofs.Dispatch.Schedule
import StreamQuery.Proofs.Dispatch.Served
/-!
# What a consumer takes from a stream

The chunks that a consumer takes by one list of events and those that it takes by the next add up.
Events that leave the channel of the stream alone give it nothing.
-/

namespace StreamQuery.Dispatch

/-- True for an event that leaves the channel of a stream alone. -/
def Event.spares (index : Nat) : Event → Bool
  | .receive place | .closeStream place | .dropStream place => place ≠ index
  | _ => true

theorem Event.spares_keeps {index : Nat} {event : Event} (spares : event.spares index = true) :
    event.keepsChannel index = true := by
  cases event <;> first | rfl | exact spares

theorem Event.scheduled_spares {event : Event} (scheduled : event.isScheduled = true)
    (index : Nat) : event.spares index = true := by
  cases event <;> first | rfl | cases scheduled

namespace Dispatcher

theorem chronicle_append (index : Nat) (first second : List Event) (dispatcher : Dispatcher)
    (written : Chronicle) :
    dispatcher.chronicle index (first ++ second) written =
      (dispatcher.play first).chronicle index second (dispatcher.chronicle index first written) := by
  induction first generalizing dispatcher written with
  | nil => rfl
  | cons event rest induction => exact induction _ _

theorem hears_spared {index : Nat} {event : Event} (spares : event.spares index = true)
    (dispatcher : Dispatcher) : dispatcher.hears index event = [] := by
  cases event with
  | receive place => exact if_neg (of_decide_eq_true spares)
  | _ => rfl

theorem heard_spared {index : Nat} {events : List Event}
    (spares : ∀ event ∈ events, event.spares index = true) (dispatcher : Dispatcher)
    (written : Chronicle) :
    (dispatcher.chronicle index events written).heard = written.heard := by
  induction events generalizing dispatcher written with
  | nil => rfl
  | cons event rest induction =>
      have quiet := hears_spared (spares event List.mem_cons_self) dispatcher
      rw [chronicle, induction fun event member => spares event (List.mem_cons_of_mem _ member)]
      simp [observe, quiet]

/-- A stream is never forgotten. -/
theorem play_present {index : Nat} (events : List Event) (dispatcher : Dispatcher)
    (present : (dispatcher.streams[index]?).isSome = true) :
    ((dispatcher.play events).streams[index]?).isSome = true := by
  induction events generalizing dispatcher with
  | nil => exact present
  | cons event rest induction =>
      refine induction _ ?_
      have change := (dispatcher.apply_effect event).streamChange index
      generalize dispatcher.streams[index]? = old at change present
      generalize (dispatcher.apply event).streams[index]? = new at change
      cases change <;> first | rfl | cases present

/-- The consumer of a stream gets an item, or the end, or nothing yet. -/
theorem receive_present {index : Nat} {dispatcher : Dispatcher}
    (present : (dispatcher.streams[index]?).isSome = true) :
    (∃ item rest, (dispatcher.receive index).1 = some (.item item rest) ∧
        dispatcher.hears index (.receive index) = [some item]) ∨
      ((dispatcher.receive index).1 = some .ended ∧
        dispatcher.hears index (.receive index) = [none]) ∨
      ((dispatcher.receive index).1 = some .pending ∧
        dispatcher.hears index (.receive index) = []) := by
  obtain ⟨task, found⟩ := Option.isSome_iff_exists.mp present
  rcases Hears.receive_cases task.channel with ⟨item, rest, _, taken⟩ | ⟨_, _, taken⟩ | taken
  · exact .inl ⟨item, { task.channel with kept := rest }, by simp [receive, found, taken],
      by simp [hears, receive, found, taken]⟩
  · exact .inr (.inl ⟨by simp [receive, found, taken], by simp [hears, receive, found, taken]⟩)
  · exact .inr (.inr ⟨by simp [receive, found, taken], by simp [hears, receive, found, taken]⟩)

end Dispatcher

/-- What a consumer got of a stream by some events, which kept the channel. -/
def Takes (index : Nat) (before : Dispatcher) (chunks : List (Except RequestError String))
    (ends : Nat) (after : Dispatcher) : Prop :=
  ∃ events, after = before.play events ∧
    (∀ event ∈ events, event.keepsChannel index = true) ∧
    ∀ written, (before.chronicle index events written).heard =
      written.heard ++ (chunks.map some ++ List.replicate ends none)

namespace Takes

variable {index : Nat} {before between after : Dispatcher}
  {first second : List (Except RequestError String)} {ends : Nat}

theorem spared {events : List Event} (spares : ∀ event ∈ events, event.spares index = true)
    (before : Dispatcher) : Takes index before [] 0 (before.play events) :=
  ⟨events, rfl, fun event member => Event.spares_keeps (spares event member), fun written => by
    simp [Dispatcher.heard_spared spares]⟩

theorem leads (leads : Dispatcher.Leads before after) : Takes index before [] 0 after := by
  obtain ⟨events, scheduled, rfl⟩ := leads
  exact spared (fun event member => Event.scheduled_spares (scheduled event member) index) before

theorem trans (left : Takes index before first 0 between)
    (right : Takes index between second ends after) :
    Takes index before (first ++ second) ends after := by
  obtain ⟨earlier, rfl, kept, got⟩ := left
  obtain ⟨later, rfl, keeps, gets⟩ := right
  refine ⟨earlier ++ later, (Dispatcher.play_append _ _ _).symm,
    List.forall_mem_append.mpr ⟨kept, keeps⟩, fun written => ?_⟩
  rw [Dispatcher.chronicle_append, gets, got]
  simp

theorem present (takes : Takes index before first ends after)
    (found : (before.streams[index]?).isSome = true) :
    (after.streams[index]?).isSome = true := by
  obtain ⟨events, rfl, _, _⟩ := takes
  exact Dispatcher.play_present events before found

end Takes

end StreamQuery.Dispatch
