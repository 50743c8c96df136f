import StreamQuery.Proofs.Dispatch.Family
/-!
# What a context inherits

A context has the earliest deadline given on the way to it. Only a handle made on that way cancels
it, and when the relays are done each of them does, whatever was dropped in between. A handle that
was made elsewhere makes no difference to it: where the same was done but for the use of that
handle, the context fares the same.
-/

namespace StreamQuery.Dispatch

namespace Family

variable {family : Family} {member : Descendant} {handle : Nat}

/-! ### Handles that make no difference -/

/-- Two families in which the same was done, but for the use of one handle. -/
structure Parallel (handle : Nat) (left right : Family) : Prop where
  now : left.dispatcher.now = right.dispatcher.now
  handled : left.dispatcher.cancellation.signals.map Signal.handled =
    right.dispatcher.cancellation.signals.map Signal.handled
  held : left.held = right.held
  cancelled : ∀ other, other ≠ handle → (other ∈ left.cancelled ↔ other ∈ right.cancelled)

theorem cancel_handled (handle : Nat) (family : Family) :
    (family.cancel handle).dispatcher.cancellation.signals.map Signal.handled =
      family.dispatcher.cancellation.signals.map Signal.handled := by
  unfold Family.cancel
  split
  · rw [Dispatcher.apply_cancel]
    apply Cancellation.map_modify
    exact fun _ => rfl
  · rfl

theorem cancel_parallel (handle : Nat) (family : Family) :
    Parallel handle (family.cancel handle) family := by
  refine ⟨?_, cancel_handled handle family, ?_, ?_⟩
  · unfold Family.cancel
    split
    · exact Dispatcher.apply_now _ _
    · rfl
  · unfold Family.cancel
    split <;> rfl
  · intro other apart
    unfold Family.cancel
    split
    · simp [apart]
    · rfl

namespace Parallel

variable {left right : Family}

theorem applyEvent {event : Event} (parallel : Parallel handle left right)
    (foreign : event.isForeign = true) :
    Parallel handle (left.applyEvent event) (right.applyEvent event) := by
  have handled (family : Family) : (family.applyEvent event).dispatcher.cancellation.signals.map
      Signal.handled = family.dispatcher.cancellation.signals.map Signal.handled := by
    unfold Family.applyEvent
    rcases Dispatcher.apply_foreign foreign family.dispatcher with same | ⟨signal, -, same⟩
    · rw [same]
    · rw [same]
      exact Cancellation.map_relay (fun _ _ => rfl) _ _
  refine ⟨?_, ?_, parallel.held, parallel.cancelled⟩
  · unfold Family.applyEvent
    rw [Dispatcher.apply_now, Dispatcher.apply_now, parallel.now]
  · rw [handled, handled, parallel.handled]

theorem dropHandle (parallel : Parallel handle left right) (other : Nat) :
    Parallel handle (left.applyEvent (.dropHandle other))
      (right.applyEvent (.dropHandle other)) := by
  have handled (family : Family) :
      (family.applyEvent (.dropHandle other)).dispatcher.cancellation.signals.map Signal.handled =
        (family.dispatcher.cancellation.signals.map Signal.handled).modify other
          fun _ => false := by
    unfold Family.applyEvent
    rw [Dispatcher.apply_dropHandle]
    apply Cancellation.map_modify_as
    exact fun _ => rfl
  refine ⟨?_, ?_, parallel.held, parallel.cancelled⟩
  · unfold Family.applyEvent
    rw [Dispatcher.apply_now, Dispatcher.apply_now, parallel.now]
  · rw [handled, handled, parallel.handled]

theorem bound (parallel : Parallel handle left right) (place deadline : Nat) :
    Parallel handle (left.bound place deadline) (right.bound place deadline) := by
  refine ⟨parallel.now, parallel.handled, ?_, parallel.cancelled⟩
  unfold Family.bound
  rw [parallel.held]

theorem keeps_eq (parallel : Parallel handle left right) (other : Nat) :
    left.keeps other = right.keeps other := by
  have kept (family : Family) : family.keeps other =
      ((family.dispatcher.cancellation.signals.map Signal.handled)[other]?).any fun kept => kept := by
    unfold keeps
    rw [List.getElem?_map, Option.any_map]
  rw [kept, kept, parallel.handled]

theorem cancel (parallel : Parallel handle left right) (other : Nat) :
    Parallel handle (left.cancel other) (right.cancel other) := by
  have handled := parallel.handled
  rw [← cancel_handled other left, ← cancel_handled other right] at handled
  refine ⟨?_, handled, ?_, ?_⟩
  all_goals
    unfold Family.cancel
    rw [parallel.keeps_eq other]
    split
  · rw [Dispatcher.apply_now, Dispatcher.apply_now, parallel.now]
  · exact parallel.now
  · exact parallel.held
  · exact parallel.held
  · intro used apart
    rw [List.mem_cons, List.mem_cons, parallel.cancelled used apart]
  · exact parallel.cancelled

theorem derive (parallel : Parallel handle left right) (place : Nat) :
    Parallel handle (left.derive place) (right.derive place) := by
  have lengths := congrArg List.length parallel.handled
  rw [List.length_map, List.length_map] at lengths
  unfold Family.derive
  rw [parallel.held]
  split
  · next member found =>
      refine ⟨?_, ?_, ?_, parallel.cancelled⟩
      · rw [Dispatcher.apply_now, Dispatcher.apply_now, parallel.now]
      · rw [Dispatcher.apply_deriveContext, Dispatcher.apply_deriveContext]
        unfold Cancellation.derive
        rw [List.map_append, List.map_append, parallel.handled]
      · unfold Descendant.child Dispatcher.deriveContext Cancellation.derive
        dsimp only
        rw [lengths]
  · exact parallel

/-- To share or drop a context changes neither the time nor what handles are kept. -/
theorem signalled_keeps {event : Nat → Event}
    (about : event = .shareContext ∨ event = .dropContext) (member : Descendant)
    (dispatcher : Dispatcher) :
    (signalled event member dispatcher).now = dispatcher.now ∧
      (signalled event member dispatcher).cancellation.signals.map Signal.handled =
        dispatcher.cancellation.signals.map Signal.handled := by
  unfold signalled
  split
  · rcases about with rfl | rfl
    all_goals
      refine ⟨rfl, ?_⟩
      apply Cancellation.map_modify
      exact fun _ => rfl
  · exact ⟨rfl, rfl⟩

theorem clone (parallel : Parallel handle left right) (place : Nat) :
    Parallel handle (left.clone place) (right.clone place) := by
  unfold Family.clone
  rw [parallel.held]
  split
  · next member found =>
      have keeps := signalled_keeps (.inl rfl) member
      refine ⟨?_, ?_, rfl, parallel.cancelled⟩
      · rw [(keeps _).1, (keeps _).1, parallel.now]
      · rw [(keeps _).2, (keeps _).2, parallel.handled]
  · exact parallel

theorem drop (parallel : Parallel handle left right) (place : Nat) :
    Parallel handle (left.drop place) (right.drop place) := by
  unfold Family.drop
  rw [parallel.held]
  split
  · next member found =>
      have keeps := signalled_keeps (.inr rfl) member
      refine ⟨?_, ?_, rfl, parallel.cancelled⟩
      · rw [(keeps _).1, (keeps _).1, parallel.now]
      · rw [(keeps _).2, (keeps _).2, parallel.handled]
  · exact parallel

theorem apply (parallel : Parallel handle left right) (usage : Usage) :
    Parallel handle (left.apply usage) (right.apply usage) := by
  cases usage with
  | withDeadline place deadline => exact parallel.bound place deadline
  | withTimeout place timeout =>
      unfold Family.apply
      rw [parallel.now]
      exact parallel.bound place _
  | withCancel place => exact (parallel.derive place).drop place
  | clone place => exact parallel.clone place
  | drop place => exact parallel.drop place
  | cancel other => exact parallel.cancel other
  | dropHandle other => exact parallel.dropHandle other
  | other event =>
      unfold Family.apply
      dsimp only
      split
      · next foreign => exact parallel.applyEvent foreign
      · exact parallel

theorem play (parallel : Parallel handle left right) (usages : List Usage) :
    Parallel handle (left.play usages) (right.play usages) := by
  induction usages generalizing left right with
  | nil => exact parallel
  | cons usage rest induction => exact induction (parallel.apply usage)

end Parallel

/-! ### Relays that get done -/

/-- The relays on the way to a context have nothing to pass on. -/
def IsForwarded (member : Descendant) (family : Family) : Prop :=
  ∀ handle ∈ member.handles, family.dispatcher.cancellation.IsSettled handle

/-- One look of each of some relays. -/
def looksAt (signals : List Nat) : List Usage :=
  signals.map fun signal => .other (.step (.relay signal))

/-- One look of each relay, the oldest one first. -/
def looks (family : Family) : List Usage :=
  looksAt (List.range family.dispatcher.cancellation.signals.length)

section Settled

variable {bound total : Nat}

theorem Kept.derive_settled (kept : family.Kept) (place : Nat)
    (settled : family.dispatcher.cancellation.SettledTo bound total) :
    (family.derive place).dispatcher.cancellation.SettledTo bound total := by
  unfold Family.derive
  split
  · rw [Dispatcher.apply_deriveContext]
    exact kept.sound.settled_derive _ settled
  · exact settled

theorem Kept.signalled_settled {event : Nat → Event} (kept : family.Kept)
    (about : event = .shareContext ∨ event = .dropContext) (member : Descendant)
    (settled : family.dispatcher.cancellation.SettledTo bound total) :
    (signalled event member family.dispatcher).cancellation.SettledTo bound total := by
  unfold signalled
  split
  · rcases about with rfl | rfl
    all_goals
      apply kept.sound.settled_adjust _ _ settled
      · exact fun entry => entry.watchers_evolves _
      · exact fun _ => rfl
  · exact settled

theorem Kept.clone_settled (kept : family.Kept) (place : Nat)
    (settled : family.dispatcher.cancellation.SettledTo bound total) :
    (family.clone place).dispatcher.cancellation.SettledTo bound total := by
  unfold Family.clone
  split
  · exact kept.signalled_settled (.inl rfl) _ settled
  · exact settled

theorem Kept.drop_settled (kept : family.Kept) (place : Nat)
    (settled : family.dispatcher.cancellation.SettledTo bound total) :
    (family.drop place).dispatcher.cancellation.SettledTo bound total := by
  unfold Family.drop
  split
  · exact kept.signalled_settled (.inr rfl) _ settled
  · exact settled

/-- As long as no handle is used, relays that are done stay done. -/
theorem Kept.apply_settled (kept : family.Kept) {usage : Usage}
    (quiet : ∀ handle, usage ≠ .cancel handle)
    (settled : family.dispatcher.cancellation.SettledTo bound total) :
    (family.apply usage).dispatcher.cancellation.SettledTo bound total := by
  cases usage with
  | withDeadline | withTimeout => exact settled
  | withCancel place =>
      exact (kept.derive place).drop_settled place (kept.derive_settled place settled)
  | clone place => exact kept.clone_settled place settled
  | drop place => exact kept.drop_settled place settled
  | cancel handle => exact absurd rfl (quiet handle)
  | dropHandle handle =>
      unfold Family.apply Family.applyEvent
      dsimp only
      rw [Dispatcher.apply_dropHandle]
      exact kept.sound.settled_adjust (fun entry => entry.dropHandle_evolves) (fun _ => rfl) settled
  | other event =>
      unfold Family.apply
      dsimp only
      split
      · next foreign =>
          unfold Family.applyEvent
          rcases Dispatcher.apply_foreign foreign family.dispatcher with same | ⟨signal, -, same⟩
          · rw [same]
            exact settled
          · rw [same]
            exact kept.sound.settled_relay signal settled
      · exact settled

/-- Each relay has looked after those of all older signals; what else happens does not matter, as
long as no handle is used. -/
theorem Kept.play_settled {count : Nat} {later : List Usage} (kept : family.Kept)
    (quiet : ∀ usage ∈ later, ∀ handle, usage ≠ .cancel handle)
    (settled : family.dispatcher.cancellation.SettledTo bound (bound + count))
    (looked : (looksAt (List.range' bound count)).Sublist later) :
    (family.play later).dispatcher.cancellation.SettledTo (bound + count) (bound + count) := by
  induction later generalizing family bound count with
  | nil =>
      have none : count = 0 := by simpa [looksAt] using looked
      rw [none] at settled ⊢
      exact settled
  | cons usage rest induction =>
      obtain ⟨first, others⟩ := List.forall_mem_cons.1 quiet
      have skipped (left : (looksAt (List.range' bound count)).Sublist rest) :=
        induction (kept.apply usage) others (kept.apply_settled first settled) left
      cases count with
      | zero => exact skipped (List.nil_sublist rest)
      | succ count =>
          rcases List.cons_sublist_cons'.1 looked with left | ⟨rfl, left⟩
          · exact skipped left
          · have next : (family.apply (.other (.step (.relay bound)))).dispatcher.cancellation =
                (family.dispatcher.cancellation.relay bound).1 :=
              Dispatcher.step_relay bound family.dispatcher
            have total : bound + (count + 1) = bound + 1 + count := by omega
            have onward := kept.sound.settled_next settled (by omega)
            rw [← next, total] at onward
            rw [total]
            exact induction (kept.apply _) others onward left

end Settled

/-! ### Inheritance -/

def isCancelled (member : Descendant) (family : Family) : Bool :=
  family.dispatcher.isCancelled member.context

/-- Bounds go down from a context to the contexts made from it, and nowhere else. -/
structure Inherits (family : Family) : Prop where
  deadline : ∀ member ∈ family.held, member.context.deadline = member.deadlines.min?
  caused : ∀ member ∈ family.held, family.isCancelled member = true →
    ∃ handle ∈ member.handles, handle ∈ family.cancelled
  cancelled : ∀ member ∈ family.held, family.IsForwarded member →
    (family.isCancelled member = true ↔ ∃ handle ∈ member.handles, handle ∈ family.cancelled)
  /-- The relays get done by one look each, whatever else happens but the use of a handle. -/
  forwards : ∀ later, (∀ usage ∈ later, ∀ handle, usage ≠ .cancel handle) →
    family.looks.Sublist later → ∀ member ∈ (family.play later).held,
      (∀ handle ∈ member.handles, handle < family.dispatcher.cancellation.signals.length) →
        (family.play later).IsForwarded member
  /-- The use of a handle makes no difference to contexts that were not made under it: not at once,
  and not to what becomes of them. -/
  apart : ∀ handle, ∀ member ∈ family.held, handle ∉ member.handles →
    (family.cancel handle).isCancelled member = family.isCancelled member
  unaffected : ∀ handle later,
    ((family.cancel handle).play later).held = (family.play later).held ∧
      ∀ member ∈ (family.play later).held, handle ∉ member.handles →
        ((family.cancel handle).play later).IsForwarded member →
          (family.play later).IsForwarded member →
            ((family.cancel handle).play later).isCancelled member =
              (family.play later).isCancelled member

theorem Kept.caused (kept : family.Kept) (held : member ∈ family.held)
    (cancelled : family.isCancelled member = true) :
    ∃ handle ∈ member.handles, handle ∈ family.cancelled := by
  unfold isCancelled Dispatcher.isCancelled Cancellation.isCancelled at cancelled
  rw [Option.any_eq_true] at cancelled
  obtain ⟨signal, watches, raised⟩ := cancelled
  have lineage := kept.lineage member held
  rw [watches] at lineage
  exact (kept.sound.caused signal raised).handle lineage

theorem Kept.cancelled_iff (kept : family.Kept) (held : member ∈ family.held)
    (forwarded : family.IsForwarded member) : family.isCancelled member = true ↔
      ∃ handle ∈ member.handles, handle ∈ family.cancelled := by
  constructor
  · exact kept.caused held
  · rintro ⟨handle, made, used⟩
    exact kept.sound.inherited (kept.lineage member held) forwarded made used
      fun signal watches => kept.isWatched held watches

theorem Kept.apart (kept : family.Kept) (held : member ∈ family.held)
    (elsewhere : handle ∉ member.handles) :
    (family.cancel handle).isCancelled member = family.isCancelled member := by
  have lineage := kept.lineage member held
  unfold Family.cancel
  split
  · unfold isCancelled Dispatcher.isCancelled Cancellation.isCancelled
    rw [Dispatcher.apply_cancel]
    generalize member.context.signal = signal at lineage ⊢
    generalize member.handles = handles at lineage elsewhere
    cases lineage with
    | background => rfl
    | derived =>
        exact Cancellation.isRaised_modify
          (Ne.symm (List.ne_of_not_mem_cons elsewhere))
  · rfl

theorem Kept.inherits (kept : family.Kept) : family.Inherits where
  deadline := kept.deadline
  caused := fun member held => kept.caused held
  cancelled := fun member held => kept.cancelled_iff held
  forwards := by
    intro later quiet looked member held known handle made
    have start : family.dispatcher.cancellation.SettledTo 0
        (0 + family.dispatcher.cancellation.signals.length) :=
      ⟨Nat.zero_le _, Nat.le_of_eq (Nat.zero_add _),
        fun older inside => absurd inside (Nat.not_lt_zero older)⟩
    unfold looks at looked
    rw [List.range_eq_range'] at looked
    have done := kept.play_settled quiet start looked
    rw [Nat.zero_add] at done
    exact done.settled handle (known handle made)
  apart := fun handle member held => kept.apart held
  unaffected := by
    intro handle later
    have parallel := (cancel_parallel handle family).play later
    refine ⟨parallel.held, fun member held elsewhere left right => ?_⟩
    have leftKept := play_kept later (kept.cancel handle)
    have rightKept := play_kept later kept
    rw [Bool.eq_iff_iff, leftKept.cancelled_iff (parallel.held ▸ held) left,
      rightKept.cancelled_iff held right]
    refine exists_congr fun other => and_congr_right fun made => ?_
    exact parallel.cancelled other fun same => elsewhere (same ▸ made)

end Family

/-- Whatever is done with the contexts and the handles of a family, and in whatever order. -/
theorem contexts_inherit (policy : Policy) (slots : Nat) (transport : Transport)
    (usages : List Usage) : ((Family.start policy slots transport).play usages).Inherits :=
  (Family.play_kept usages (Family.start_kept policy slots transport)).inherits

/-- The handle of a context is used after the context made from it was dropped with its handle. The
one made from that context in turn is cancelled nevertheless. -/
example :
    let family := (Family.start ⟨1000, 0, 1, 3, 3⟩ 1 (.ofScript [] none)).play
      [.withCancel 0, .clone 0, .withCancel 1, .clone 1, .withCancel 2, .dropHandle 1, .drop 1,
        .cancel 0]
    (family.play family.looks).held.map (fun member =>
      (member.handles, (family.play family.looks).isCancelled member)) =
        [([0], true), ([2, 1, 0], true)] := by
  decide

end StreamQuery.Dispatch
