import StreamQuery.Proofs.Dispatch.Schedule
import StreamQuery.Proofs.Dispatch.Signals
import Mathlib.Data.List.Perm.Basic
/-!
# Families of contexts

The contexts of a family come from one background context. They get deadlines, handles and copies,
handles are used and dropped, contexts are dropped, and the dispatcher goes on meanwhile, all in any
order. For each context that is held the family keeps the deadlines and the handles given on the way
to it, and what holds of deadlines and signals in terms of these is kept by everything that is done.
-/

namespace StreamQuery.Dispatch

/-- A context that somebody holds, with the deadlines and the handles given on the way to it, the
latest ones first. A handle goes by the number of its signal. -/
structure Descendant where
  context : Context
  deadlines : List Nat
  handles : List Nat

/-- A dispatcher, the contexts that are held, and the handles that were used. -/
structure Family where
  dispatcher : Dispatcher
  held : List Descendant
  cancelled : List Nat

/-- What can be done with the contexts and handles of a family. Methods that consume a context leave
the new one in its place or at the end. -/
inductive Usage where
  | withDeadline (place deadline : Nat)
  | withTimeout (place timeout : Nat)
  | withCancel (place : Nat)
  | clone (place : Nat)
  | drop (place : Nat)
  | cancel (handle : Nat)
  | dropHandle (handle : Nat)
  /-- Something else happens to the dispatcher, such as a step of a relay. -/
  | other (event : Event)

/-- True for the events that leave all contexts and handles alone. -/
def Event.isForeign : Event → Bool
  | .deriveContext _ | .shareContext _ | .dropContext _ | .cancel _ | .dropHandle _ => false
  | _ => true

namespace Descendant

/-- Keeps the earlier of two deadlines. -/
def withDeadline (deadline : Nat) (member : Descendant) : Descendant :=
  ⟨member.context.withDeadline deadline, deadline :: member.deadlines, member.handles⟩

/-- A context made from this one with a signal of its own. -/
def child (dispatcher : Dispatcher) (member : Descendant) : Descendant :=
  ⟨(dispatcher.deriveContext member.context).2, member.deadlines,
    dispatcher.cancellation.signals.length :: member.handles⟩

end Descendant

namespace Family

def start (policy : Policy) (slots : Nat) (transport : Transport) : Family :=
  ⟨.start policy slots transport, [⟨.background, [], []⟩], []⟩

/-- An event at the signal of a context, if it has one. -/
def signalled (event : Nat → Event) (member : Descendant) (dispatcher : Dispatcher) : Dispatcher :=
  match member.context.signal with
  | some signal => dispatcher.apply (event signal)
  | none => dispatcher

def bound (place : Nat) (deadline : Nat) (family : Family) : Family :=
  { family with held := family.held.modify place (Descendant.withDeadline deadline) }

def clone (place : Nat) (family : Family) : Family :=
  match family.held[place]? with
  | some member =>
      { family with
        dispatcher := signalled .shareContext member family.dispatcher
        held := family.held ++ [member] }
  | none => family

def drop (place : Nat) (family : Family) : Family :=
  match family.held[place]? with
  | some member =>
      { family with
        dispatcher := signalled .dropContext member family.dispatcher
        held := family.held.eraseIdx place }
  | none => family

/-- A context made from one that is kept. -/
def derive (place : Nat) (family : Family) : Family :=
  match family.held[place]? with
  | some member =>
      { family with
        dispatcher := family.dispatcher.apply (.deriveContext member.context)
        held := family.held ++ [member.child family.dispatcher] }
  | none => family

/-- True while a handle is kept. -/
def keeps (handle : Nat) (family : Family) : Bool :=
  (family.dispatcher.cancellation.signals[handle]?).any Signal.handled

def cancel (handle : Nat) (family : Family) : Family :=
  if family.keeps handle then
    { family with
      dispatcher := family.dispatcher.apply (.cancel handle)
      cancelled := handle :: family.cancelled }
  else family

def applyEvent (event : Event) (family : Family) : Family :=
  { family with dispatcher := family.dispatcher.apply event }

def apply (usage : Usage) (family : Family) : Family :=
  match usage with
  | .withDeadline place deadline => family.bound place deadline
  | .withTimeout place timeout => family.bound place (family.dispatcher.now + timeout)
  | .withCancel place => (family.derive place).drop place
  | .clone place => family.clone place
  | .drop place => family.drop place
  | .cancel handle => family.cancel handle
  | .dropHandle handle => family.applyEvent (.dropHandle handle)
  | .other event => if event.isForeign then family.applyEvent event else family

def play : List Usage → Family → Family
  | [], family => family
  | usage :: rest, family => play rest (family.apply usage)

end Family

/-! ### Events and signals -/

/-- The time after an event. -/
def Event.nowAfter (now : Nat) : Event → Nat
  | .pass time => max now time
  | _ => now

namespace Dispatcher

variable {dispatcher : Dispatcher}

theorem abort_keeps (index : Nat) (dispatcher : Dispatcher) :
    (dispatcher.abort index).now = dispatcher.now ∧
      (dispatcher.abort index).cancellation = dispatcher.cancellation := by
  unfold abort
  split
  · exact ⟨rfl, rfl⟩
  · split <;> simp [setRequest, setBudget_eq, release_eq]

theorem receive_keeps (index : Nat) (dispatcher : Dispatcher) :
    (dispatcher.receive index).2.now = dispatcher.now ∧
      (dispatcher.receive index).2.cancellation = dispatcher.cancellation := by
  unfold receive
  split
  · exact ⟨rfl, rfl⟩
  · split
    · dsimp only
      split
      · simp [modifyStream, wake_eq]
      · exact ⟨rfl, rfl⟩
    · exact ⟨rfl, rfl⟩

theorem apply_now (event : Event) (dispatcher : Dispatcher) :
    (dispatcher.apply event).now = event.nowAfter dispatcher.now := by
  cases event with
  | abort index => exact (abort_keeps index dispatcher).1
  | receive index => exact (receive_keeps index dispatcher).1
  | step task => exact now_step task dispatcher
  | shareContext | dropContext | pass | arrange | countFailure => rfl
  | _ =>
      rw [apply]
      simp [dispatch, openStream, closeStream, dropStream, modifyStream, deriveContext, cancel,
        dropHandle, wake_eq, wakeAll_eq, Event.nowAfter]

theorem step_relay (signal : Nat) (dispatcher : Dispatcher) :
    (dispatcher.step (.relay signal)).1.cancellation =
      (dispatcher.cancellation.relay signal).1 := by
  simp only [step, stepRelay, wakeAll_eq]
  split <;> rfl

/-- A foreign event lets a relay look at its source, or leaves all signals alone. -/
theorem apply_foreign {event : Event} (foreign : event.isForeign = true)
    (dispatcher : Dispatcher) :
    (dispatcher.apply event).cancellation = dispatcher.cancellation ∨
      ∃ signal, event = .step (.relay signal) ∧
        (dispatcher.apply event).cancellation = (dispatcher.cancellation.relay signal).1 := by
  cases event with
  | deriveContext | shareContext | dropContext | cancel | dropHandle => cases foreign
  | abort index => exact .inl (abort_keeps index dispatcher).2
  | receive index => exact .inl (receive_keeps index dispatcher).2
  | pass | arrange | countFailure => exact .inl rfl
  | dispatch | openStream | closeStream | dropStream =>
      left
      rw [apply]
      simp [dispatch, openStream, closeStream, dropStream, modifyStream, wake_eq]
  | step task =>
      cases task with
      | request index =>
          left
          cases found : dispatcher.requests[index]? with
          | none => simp only [apply, step, stepRequest, found]
          | some task =>
              obtain ⟨_, _, _, _, _, _, same⟩ := stepRequest_turn found
              simp only [apply, step, same]
      | stream index =>
          left
          cases found : dispatcher.streams[index]? with
          | none => simp only [apply, step, stepStream, found]
          | some task =>
              obtain ⟨_, _, _, _, _, _, same⟩ := stepStream_turn found
              simp only [apply, step, same]
      | relay signal => exact .inr ⟨signal, rfl, step_relay signal dispatcher⟩

theorem apply_deriveContext (context : Context) (dispatcher : Dispatcher) :
    (dispatcher.apply (.deriveContext context)).cancellation =
      (dispatcher.cancellation.derive context.signal).1 := by
  simp only [apply, deriveContext, wake_eq]

theorem apply_cancel (handle : Nat) (dispatcher : Dispatcher) :
    (dispatcher.apply (.cancel handle)).cancellation = dispatcher.cancellation.raise handle := by
  simp only [apply, cancel, wakeAll_eq]

theorem apply_dropHandle (handle : Nat) (dispatcher : Dispatcher) :
    (dispatcher.apply (.dropHandle handle)).cancellation =
      dispatcher.cancellation.dropHandle handle := by
  simp only [apply, dropHandle, wakeAll_eq]

end Dispatcher

/-! ### What holds of a family -/

namespace Family

variable {family : Family} {member : Descendant} {place handle : Nat}

/-- The signals of the contexts that are held. -/
def signals (family : Family) : List (Option Nat) :=
  family.held.map fun member => member.context.signal

/-- What holds whatever was done. -/
structure Kept (family : Family) : Prop where
  sound : family.dispatcher.cancellation.Sound family.cancelled
  deadline : ∀ member ∈ family.held, member.context.deadline = member.deadlines.min?
  lineage : ∀ member ∈ family.held,
    family.dispatcher.cancellation.Lineage member.context.signal member.handles
  /-- Every signal knows how many contexts watch it. -/
  watchers : ∀ (id : Nat) (entry : Signal),
    family.dispatcher.cancellation.signals[id]? = some entry →
      entry.watchers = family.signals.count (some id)

theorem start_kept (policy : Policy) (slots : Nat) (transport : Transport) :
    (start policy slots transport).Kept where
  sound := Cancellation.empty_sound
  deadline := List.forall_mem_singleton.2 rfl
  lineage := List.forall_mem_singleton.2 .background
  watchers := fun _ _ found => by simp [start, Dispatcher.start, Cancellation.empty] at found

namespace Kept

/-- The signal of a context that is held is watched. -/
theorem watched (kept : family.Kept) (held : member ∈ family.held) {signal : Nat}
    (watches : member.context.signal = some signal) : ∃ entry,
      family.dispatcher.cancellation.signals[signal]? = some entry ∧ 0 < entry.watchers := by
  have lineage := kept.lineage member held
  rw [watches] at lineage
  generalize member.handles = handles at lineage
  cases lineage with
  | @derived _ entry _ found _ =>
      refine ⟨entry, found, ?_⟩
      rw [kept.watchers signal entry found]
      exact List.count_pos_iff.2 (List.mem_map.2 ⟨member, held, watches⟩)

theorem isWatched (kept : family.Kept) (held : member ∈ family.held) {signal : Nat}
    (watches : member.context.signal = some signal) :
    family.dispatcher.cancellation.isWatched signal = true :=
  Cancellation.isWatched_iff.2 (.inl (kept.watched held watches))

end Kept

theorem min_withDeadline (deadline : Nat) {context : Context} {deadlines : List Nat}
    (same : context.deadline = deadlines.min?) :
    (context.withDeadline deadline).deadline = (deadline :: deadlines).min? := by
  rw [List.min?_cons, ← same]
  unfold Context.withDeadline
  cases context.deadline <;> rfl

theorem Kept.bound (kept : family.Kept) (place deadline : Nat) :
    (family.bound place deadline).Kept := by
  have member_cases {later : Descendant} (held : later ∈ (family.bound place deadline).held) :
      later ∈ family.held ∨ ∃ member ∈ family.held, later = member.withDeadline deadline := by
    unfold Family.bound at held
    obtain ⟨index, found⟩ := List.mem_iff_getElem?.1 held
    rw [List.getElem?_modify] at found
    obtain ⟨member, earlier, rfl⟩ := Option.map_eq_some_iff.1 found
    have old := List.mem_of_getElem? earlier
    by_cases own : place = index
    · exact .inr ⟨member, old, by simp [own]⟩
    · exact .inl (by simpa [own] using old)
  have signals : (family.bound place deadline).signals = family.signals := by
    unfold Family.signals Family.bound
    apply List.ext_getElem?
    intro index
    rw [List.getElem?_map, List.getElem?_map, List.getElem?_modify]
    cases family.held[index]? with
    | none => rfl
    | some member =>
        by_cases own : place = index <;>
          simp [own, Descendant.withDeadline, Context.withDeadline]
  refine ⟨kept.sound, ?_, ?_, ?_⟩
  · intro later held
    rcases member_cases held with old | ⟨member, old, rfl⟩
    · exact kept.deadline later old
    · exact min_withDeadline deadline (kept.deadline member old)
  · intro later held
    rcases member_cases held with old | ⟨member, old, rfl⟩
    · exact kept.lineage later old
    · exact kept.lineage member old
  · intro id entry found
    rw [signals]
    exact kept.watchers id entry found

/-- Something happens that neither makes nor drops contexts. -/
theorem Kept.evolve {dispatcher : Dispatcher} {cancelled : List Nat} (kept : family.Kept)
    (evolves : family.dispatcher.cancellation.Evolves dispatcher.cancellation)
    (sound : dispatcher.cancellation.Sound cancelled)
    (same : dispatcher.cancellation.signals.map Signal.watchers =
      family.dispatcher.cancellation.signals.map Signal.watchers) :
    Kept ⟨dispatcher, family.held, cancelled⟩ := by
  refine ⟨sound, kept.deadline, fun member held => evolves.lineage (kept.lineage member held), ?_⟩
  intro id entry found
  have watchers : (family.dispatcher.cancellation.signals.map Signal.watchers)[id]? =
      some entry.watchers := by
    rw [← same, List.getElem?_map, found]
    rfl
  rw [List.getElem?_map, Option.map_eq_some_iff] at watchers
  obtain ⟨old, earlier, count⟩ := watchers
  exact count.symm.trans (kept.watchers id old earlier)

theorem Kept.applyEvent {event : Event} (kept : family.Kept) (foreign : event.isForeign = true) :
    (family.applyEvent event).Kept := by
  rcases Dispatcher.apply_foreign foreign family.dispatcher with same | ⟨signal, -, same⟩
  · apply kept.evolve <;> rw [same]
    · exact fun id entry found => ⟨entry, found, entry.evolves_refl⟩
    · exact kept.sound
  · apply kept.evolve <;> rw [same]
    · exact Cancellation.evolves_relay _ _
    · exact kept.sound.relay signal
    · exact Cancellation.map_relay (fun _ _ => rfl) _ _

theorem Kept.dropHandle (kept : family.Kept) (handle : Nat) :
    (family.applyEvent (.dropHandle handle)).Kept := by
  apply kept.evolve <;> rw [Dispatcher.apply_dropHandle]
  · exact Cancellation.evolves_modify fun entry _ => entry.dropHandle_evolves
  · exact kept.sound.dropHandle
  · apply Cancellation.map_modify
    exact fun _ => rfl

theorem Kept.cancel (kept : family.Kept) (handle : Nat) : (family.cancel handle).Kept := by
  unfold Family.cancel
  split
  · next keeps =>
      unfold Family.keeps at keeps
      rw [Option.any_eq_true] at keeps
      obtain ⟨entry, found, handled⟩ := keeps
      apply kept.evolve <;> rw [Dispatcher.apply_cancel]
      · apply Cancellation.evolves_modify
        intro other same
        cases found.symm.trans same
        exact Signal.raise_evolves handled
      · exact kept.sound.raise found handled
      · apply Cancellation.map_modify
        exact fun _ => rfl
  · exact kept

/-! ### Contexts that come and go -/

theorem watchers_modify {cancellation : Cancellation} {change : Signal → Signal} {signal id : Nat}
    {entry : Signal} (found : (cancellation.modify signal change).signals[id]? = some entry) :
    ∃ old, cancellation.signals[id]? = some old ∧
      entry.watchers = if signal = id then (change old).watchers else old.watchers := by
  obtain ⟨old, earlier, ⟨rfl, rfl⟩ | ⟨apart, rfl⟩⟩ := Cancellation.modify_entry found
  · exact ⟨old, earlier, by simp⟩
  · exact ⟨_, earlier, by simp [Ne.symm apart]⟩

theorem count_concat (members : List Descendant) (member : Descendant) (id : Nat) :
    ((members ++ [member]).map fun member => member.context.signal).count (some id) =
      (members.map fun member => member.context.signal).count (some id) +
        if member.context.signal = some id then 1 else 0 := by
  rw [List.map_append, List.count_append, List.map_singleton, List.count_singleton]
  simp

theorem count_eraseIdx {members : List Descendant} (found : members[place]? = some member)
    (id : Nat) :
    ((members.eraseIdx place).map fun member => member.context.signal).count (some id) +
        (if member.context.signal = some id then 1 else 0) =
      (members.map fun member => member.context.signal).count (some id) := by
  obtain ⟨bound, rfl⟩ := List.getElem?_eq_some_iff.1 found
  have same := (List.getElem_cons_eraseIdx_perm bound).map fun member => member.context.signal
  rw [← same.count_eq, List.map_cons, List.count_cons]
  simp

theorem Kept.clone (kept : family.Kept) (place : Nat) : (family.clone place).Kept := by
  unfold Family.clone
  split
  · next member found =>
      have held := List.mem_of_getElem? found
      have deadline : ∀ other ∈ family.held ++ [member],
          other.context.deadline = other.deadlines.min? := by
        rw [List.forall_mem_append]
        exact ⟨kept.deadline, List.forall_mem_singleton.2 (kept.deadline member held)⟩
      have lineage : ∀ other ∈ family.held ++ [member],
          family.dispatcher.cancellation.Lineage other.context.signal other.handles := by
        rw [List.forall_mem_append]
        exact ⟨kept.lineage, List.forall_mem_singleton.2 (kept.lineage member held)⟩
      unfold signalled
      split
      · next signal watches =>
          have evolves : family.dispatcher.cancellation.Evolves
              (family.dispatcher.cancellation.shareContext signal) :=
            Cancellation.evolves_modify fun entry _ => entry.watchers_evolves _
          refine ⟨kept.sound.shareContext (kept.isWatched held watches), deadline,
            fun other member => evolves.lineage (lineage other member), ?_⟩
          intro id entry later
          obtain ⟨old, earlier, watchers⟩ := watchers_modify later
          rw [watchers, signals, count_concat, watches]
          have counted := kept.watchers id old earlier
          unfold signals at counted
          simp only [Option.some.injEq]
          split <;> omega
      · next unbound =>
          refine ⟨kept.sound, deadline, lineage, ?_⟩
          intro id entry later
          rw [kept.watchers id entry later, signals, signals, count_concat, unbound]
          rfl
  · exact kept

theorem Kept.drop (kept : family.Kept) (place : Nat) : (family.drop place).Kept := by
  unfold Family.drop
  split
  · next member found =>
      have deadline : ∀ other ∈ family.held.eraseIdx place,
          other.context.deadline = other.deadlines.min? :=
        fun other left => kept.deadline other (List.mem_of_mem_eraseIdx left)
      have lineage : ∀ other ∈ family.held.eraseIdx place,
          family.dispatcher.cancellation.Lineage other.context.signal other.handles :=
        fun other left => kept.lineage other (List.mem_of_mem_eraseIdx left)
      unfold signalled
      split
      · next signal watches =>
          have evolves : family.dispatcher.cancellation.Evolves
              (family.dispatcher.cancellation.dropContext signal) :=
            Cancellation.evolves_modify fun entry _ => entry.watchers_evolves _
          refine ⟨kept.sound.dropContext, deadline,
            fun other member => evolves.lineage (lineage other member), ?_⟩
          intro id entry later
          obtain ⟨old, earlier, watchers⟩ := watchers_modify later
          have counted := count_eraseIdx found id
          have before := kept.watchers id old earlier
          simp only [watches, Option.some.injEq] at counted
          unfold signals at before ⊢
          rw [watchers]
          by_cases own : signal = id
          · rw [if_pos own] at counted ⊢
            dsimp only
            omega
          · rw [if_neg own] at counted ⊢
            dsimp only
            omega
      · next unbound =>
          refine ⟨kept.sound, deadline, lineage, ?_⟩
          intro id entry later
          have counted := count_eraseIdx found id
          rw [unbound] at counted
          rw [kept.watchers id entry later, signals, signals]
          exact counted.symm
  · exact kept

theorem Kept.derive (kept : family.Kept) (place : Nat) : (family.derive place).Kept := by
  unfold Family.derive
  split
  · next member found =>
      have held := List.mem_of_getElem? found
      have same := family.dispatcher.apply_deriveContext member.context
      have evolves := Cancellation.evolves_derive member.context.signal
        family.dispatcher.cancellation
      have before {other : Descendant} (old : other ∈ family.held) :=
        evolves.lineage (kept.lineage other old)
      refine ⟨?_, ?_, ?_, ?_⟩
      · rw [same]
        exact kept.sound.derive fun origin watches => kept.watched held watches
      · rw [List.forall_mem_append]
        exact ⟨kept.deadline, List.forall_mem_singleton.2 (kept.deadline member held)⟩
      · rw [same, List.forall_mem_append]
        refine ⟨fun other => before, List.forall_mem_singleton.2 ?_⟩
        exact .derived List.getElem?_concat_length (before held)
      · intro id entry later
        rw [same] at later
        rw [signals, count_concat]
        rcases Cancellation.derive_entry later with old | ⟨rfl, rfl⟩
        · have bound := (List.getElem?_eq_some_iff.1 old).1
          have apart : (member.child family.dispatcher).context.signal ≠ some id :=
            fun own => Nat.lt_irrefl _ ((Option.some.inj own).symm ▸ bound)
          rw [if_neg apart]
          exact kept.watchers id entry old
        · have fresh : family.signals.count
              (some family.dispatcher.cancellation.signals.length) = 0 := by
            apply List.count_eq_zero.2
            intro watches
            obtain ⟨other, old, signal⟩ := List.mem_map.1 watches
            obtain ⟨entry, present, -⟩ := kept.watched old signal
            exact Nat.lt_irrefl _ (List.getElem?_eq_some_iff.1 present).1
          have own : (member.child family.dispatcher).context.signal =
              some family.dispatcher.cancellation.signals.length := rfl
          rw [signals] at fresh
          rw [fresh, if_pos own]
  · exact kept

theorem Kept.apply (kept : family.Kept) (usage : Usage) : (family.apply usage).Kept := by
  cases usage with
  | withDeadline place deadline => exact kept.bound place deadline
  | withTimeout place timeout => exact kept.bound place _
  | withCancel place => exact (kept.derive place).drop place
  | clone place => exact kept.clone place
  | drop place => exact kept.drop place
  | cancel handle => exact kept.cancel handle
  | dropHandle handle => exact kept.dropHandle handle
  | other event =>
      unfold Family.apply
      dsimp only
      split
      · next foreign => exact kept.applyEvent foreign
      · exact kept

theorem play_kept (usages : List Usage) (kept : family.Kept) : (family.play usages).Kept := by
  induction usages generalizing family with
  | nil => exact kept
  | cons usage rest induction => exact induction (kept.apply usage)

end Family

end StreamQuery.Dispatch
