import StreamQuery.Dispatch.Context
import Mathlib.Data.List.Basic
/-!
# Signals that are handed on

A signal is raised by its handle, or by its relay after the signal that it was made from. However
handles and contexts are dropped, the relay of a signal that is still watched runs until it has
passed the source on, or until neither the source nor anything the source was made from can be
raised any more. When the relays on the way to a watched signal have passed on what they saw, it is
therefore raised just if its own handle, or that of a signal on the way, was used.
-/

namespace StreamQuery.Dispatch

/-- How a signal changes: its source stays, a handle that was dropped and a relay that has ended do
not come back, and only a handle or a relay raises it. -/
structure Signal.Evolves (before after : Signal) : Prop where
  source : after.source = before.source
  handled : after.handled = true → before.handled = true
  relaying : after.relaying = true → before.relaying = true
  raised : before.raised = true → after.raised = true
  cause : after.raised = true →
    before.raised = true ∨ before.handled = true ∨ before.relaying = true

namespace Signal

variable {signal : Signal}

theorem evolves_refl (signal : Signal) : signal.Evolves signal :=
  ⟨rfl, fun has => has, fun runs => runs, fun up => up, fun up => .inl up⟩

theorem raise_evolves (handled : signal.handled = true) :
    signal.Evolves { signal with raised := true } :=
  ⟨rfl, fun has => has, fun runs => runs, fun _ => rfl, fun _ => .inr (.inl handled)⟩

theorem dropHandle_evolves (signal : Signal) : signal.Evolves { signal with handled := false } :=
  ⟨rfl, nofun, fun runs => runs, fun up => up, fun up => .inl up⟩

theorem watchers_evolves (signal : Signal) (count : Nat) :
    signal.Evolves { signal with watchers := count } :=
  ⟨rfl, fun has => has, fun runs => runs, fun up => up, fun up => .inl up⟩

/-- The relay passes on that its source is raised, and ends. -/
theorem pass_evolves (runs : signal.relaying = true) :
    signal.Evolves { signal with raised := true, relaying := false } :=
  ⟨rfl, fun has => has, nofun, fun _ => rfl, fun _ => .inr (.inr runs)⟩

theorem end_evolves (signal : Signal) : signal.Evolves { signal with relaying := false } :=
  ⟨rfl, fun has => has, nofun, fun up => up, fun up => .inl up⟩

end Signal

namespace Cancellation

/-- The signals on the way from a background context, the latest one first. -/
inductive Lineage (cancellation : Cancellation) : Option Nat → List Nat → Prop where
  | background : Lineage cancellation none []
  | derived {id : Nat} {entry : Signal} {earlier : List Nat}
      (found : cancellation.signals[id]? = some entry)
      (way : Lineage cancellation entry.source earlier) :
      Lineage cancellation (some id) (id :: earlier)

/-- Nothing on the way is raised, and nothing can raise it any more. -/
inductive Silent (cancellation : Cancellation) : Option Nat → Prop where
  | background : Silent cancellation none
  | derived {id : Nat} {entry : Signal} (found : cancellation.signals[id]? = some entry)
      (unraised : entry.raised = false) (unhandled : entry.handled = false)
      (ended : entry.relaying = false) (way : Silent cancellation entry.source) :
      Silent cancellation (some id)

/-- The handle of a signal was used, or that of one on the way to it. -/
inductive Caused (cancellation : Cancellation) (cancelled : List Nat) : Nat → Prop where
  | own {id : Nat} (used : id ∈ cancelled) : Caused cancellation cancelled id
  | inherited {id origin : Nat} {entry : Signal} (found : cancellation.signals[id]? = some entry)
      (source : entry.source = some origin) (earlier : Caused cancellation cancelled origin) :
      Caused cancellation cancelled id

/-- The relay of a signal has nothing to pass on. -/
def IsSettled (cancellation : Cancellation) (id : Nat) : Prop :=
  ∀ (entry : Signal) (origin : Nat), cancellation.signals[id]? = some entry → entry.relaying = true →
    entry.source = some origin → cancellation.isRaised origin = false

/-- Of some signals, the relays of the oldest ones have nothing to pass on. -/
structure SettledTo (bound total : Nat) (cancellation : Cancellation) : Prop where
  inside : bound ≤ total
  known : total ≤ cancellation.signals.length
  settled : ∀ older < bound, cancellation.IsSettled older

/-- Signals change as they may, and none gets lost. -/
def Evolves (before after : Cancellation) : Prop :=
  ∀ (id : Nat) (entry : Signal), before.signals[id]? = some entry →
    ∃ later, after.signals[id]? = some later ∧ entry.Evolves later

variable {cancellation before after : Cancellation} {cancelled : List Nat} {id : Nat}

theorem isRaised_found {entry : Signal} (found : cancellation.signals[id]? = some entry) :
    cancellation.isRaised id = entry.raised := by
  simp [isRaised, found]

theorem isRaised_entry (raised : cancellation.isRaised id = true) :
    ∃ entry, cancellation.signals[id]? = some entry ∧ entry.raised = true := by
  simpa [isRaised, Option.any_eq_true] using raised

/-- A signal is watched by a context, or by a running relay that it is the source of. -/
theorem isWatched_iff : cancellation.isWatched id = true ↔
    (∃ entry, cancellation.signals[id]? = some entry ∧ 0 < entry.watchers) ∨
      ∃ (other : Nat) (entry : Signal), cancellation.signals[other]? = some entry ∧
        entry.relaying = true ∧ entry.source = some id := by
  unfold isWatched
  rw [Bool.or_eq_true, Option.any_eq_true, List.any_eq_true]
  apply or_congr
  · simp
  · constructor
    · rintro ⟨entry, member, watches⟩
      obtain ⟨other, found⟩ := List.mem_iff_getElem?.1 member
      exact ⟨other, entry, found, by simpa using watches⟩
    · rintro ⟨other, entry, found, watches⟩
      exact ⟨entry, List.mem_of_getElem? found, by simpa using watches⟩

namespace Evolves

theorem isRaised (evolves : before.Evolves after) (raised : before.isRaised id = true) :
    after.isRaised id = true := by
  obtain ⟨entry, found, has⟩ := isRaised_entry raised
  obtain ⟨later, same, change⟩ := evolves id entry found
  rw [isRaised_found same]
  exact change.raised has

theorem length_le (evolves : before.Evolves after) :
    before.signals.length ≤ after.signals.length := by
  rcases Nat.eq_zero_or_pos before.signals.length with none | some
  · omega
  · have last := List.getElem?_eq_getElem (Nat.sub_lt some Nat.one_pos)
    obtain ⟨later, found, -⟩ := evolves _ _ last
    have bound := (List.getElem?_eq_some_iff.1 found).1
    omega

theorem lineage {signal : Option Nat} {way : List Nat} (evolves : before.Evolves after)
    (lineage : before.Lineage signal way) : after.Lineage signal way := by
  induction lineage with
  | background => exact .background
  | derived found _ induction =>
      obtain ⟨later, same, change⟩ := evolves _ _ found
      exact .derived same (change.source ▸ induction)

theorem silent {signal : Option Nat} (evolves : before.Evolves after)
    (silent : before.Silent signal) : after.Silent signal := by
  induction silent with
  | background => exact .background
  | @derived id entry found unraised unhandled ended _ induction =>
      obtain ⟨later, same, change⟩ := evolves _ _ found
      have still : later.raised = false := by
        apply Bool.eq_false_iff.2
        intro raised
        rcases change.cause raised with cause | cause | cause
        · exact Bool.false_ne_true (unraised.symm.trans cause)
        · exact Bool.false_ne_true (unhandled.symm.trans cause)
        · exact Bool.false_ne_true (ended.symm.trans cause)
      have dropped : later.handled = false := by
        apply Bool.eq_false_iff.2
        exact fun handled => Bool.false_ne_true (unhandled.symm.trans (change.handled handled))
      have stopped : later.relaying = false := by
        apply Bool.eq_false_iff.2
        exact fun relaying => Bool.false_ne_true (ended.symm.trans (change.relaying relaying))
      exact .derived same still dropped stopped (change.source ▸ induction)

theorem caused {more : List Nat} (evolves : before.Evolves after) (grown : cancelled ⊆ more)
    (caused : before.Caused cancelled id) : after.Caused more id := by
  induction caused with
  | own used => exact .own (grown used)
  | inherited found source _ induction =>
      obtain ⟨later, same, change⟩ := evolves _ _ found
      exact .inherited same (change.source.trans source) induction

end Evolves

theorem modify_entry {change : Signal → Signal} {place : Nat} {later : Signal}
    (found : (cancellation.modify id change).signals[place]? = some later) :
    ∃ entry, cancellation.signals[place]? = some entry ∧
      ((place = id ∧ later = change entry) ∨ (place ≠ id ∧ later = entry)) := by
  unfold modify at found
  rw [List.getElem?_modify] at found
  obtain ⟨entry, same, rfl⟩ := Option.map_eq_some_iff.1 found
  refine ⟨entry, same, ?_⟩
  by_cases own : id = place
  · exact .inl ⟨own.symm, by simp [own]⟩
  · exact .inr ⟨Ne.symm own, by simp [own]⟩

theorem evolves_modify {change : Signal → Signal}
    (stays : ∀ entry, cancellation.signals[id]? = some entry → entry.Evolves (change entry)) :
    cancellation.Evolves (cancellation.modify id change) := by
  intro place entry found
  unfold modify
  rw [List.getElem?_modify, found]
  by_cases own : id = place
  · subst own
    exact ⟨_, rfl, by simpa using stays entry found⟩
  · refine ⟨_, rfl, ?_⟩
    simpa only [own, if_false] using entry.evolves_refl

/-! ### One look of a relay -/

/-- What one look of a relay does. -/
inductive Look (cancellation : Cancellation) (id : Nat) : Cancellation → Prop where
  | idle (settled : cancellation.IsSettled id) : Look cancellation id cancellation
  | passed {entry : Signal} {origin : Nat} (found : cancellation.signals[id]? = some entry)
      (runs : entry.relaying = true) (source : entry.source = some origin)
      (up : cancellation.isRaised origin = true) :
      Look cancellation id
        (cancellation.modify id fun signal => { signal with raised := true, relaying := false })
  | ended {entry : Signal} {origin : Nat} (found : cancellation.signals[id]? = some entry)
      (runs : entry.relaying = true) (source : entry.source = some origin)
      (down : cancellation.isRaised origin = false)
      (done : cancellation.canBeRaised origin = false ∨ cancellation.isWatched id = false) :
      Look cancellation id
        (cancellation.modify id fun signal => { signal with relaying := false })

theorem relay_look (id : Nat) (cancellation : Cancellation) :
    Look cancellation id (cancellation.relay id).1 := by
  unfold relay
  split
  · next raised handled watchers origin found =>
      split
      · next up => exact .passed found rfl rfl up
      · next down =>
          rw [Bool.not_eq_true] at down
          split
          · refine .idle fun entry other same runs source => ?_
            cases found.symm.trans same
            cases source
            exact down
          · next done =>
              rw [Bool.and_eq_true, not_and_or, Bool.not_eq_true, Bool.not_eq_true] at done
              exact .ended found rfl rfl down done
  · next none =>
      refine .idle fun entry origin found runs source => ?_
      obtain ⟨raised, handled, watchers, made, relaying⟩ := entry
      cases runs
      cases source
      exact absurd found (none raised handled watchers origin)

theorem evolves_relay (id : Nat) (cancellation : Cancellation) :
    cancellation.Evolves (cancellation.relay id).1 := by
  have look := cancellation.relay_look id
  generalize (cancellation.relay id).1 = after at look
  cases look with
  | idle => exact fun id entry found => ⟨entry, found, entry.evolves_refl⟩
  | passed found runs =>
      apply evolves_modify
      intro entry same
      cases found.symm.trans same
      exact Signal.pass_evolves runs
  | ended => exact evolves_modify fun entry _ => entry.end_evolves

/-- A change of one signal, seen in one part of all signals. -/
theorem map_modify_as {Value : Type} {change : Signal → Signal} {part : Signal → Value}
    {alter : Value → Value} (same : ∀ entry, part (change entry) = alter (part entry)) (id : Nat)
    (cancellation : Cancellation) :
    (cancellation.modify id change).signals.map part =
      (cancellation.signals.map part).modify id alter := by
  unfold modify
  apply List.ext_getElem?
  intro place
  rw [List.getElem?_map, List.getElem?_modify, List.getElem?_modify, List.getElem?_map]
  cases cancellation.signals[place]? with
  | none => rfl
  | some entry => by_cases own : id = place <;> simp [own, same]

/-- What a change of one signal leaves alone. -/
theorem map_modify {Value : Type} {change : Signal → Signal} {part : Signal → Value}
    (same : ∀ entry, part (change entry) = part entry) (id : Nat) (cancellation : Cancellation) :
    (cancellation.modify id change).signals.map part = cancellation.signals.map part := by
  rw [@map_modify_as _ _ _ (fun value => value) same]
  exact List.modify_id id _

/-- A relay leaves handles and contexts alone. -/
theorem map_relay {Value : Type} {part : Signal → Value}
    (same : ∀ (entry : Signal) raised, part { entry with raised := raised, relaying := false } =
      part entry) (id : Nat) (cancellation : Cancellation) :
    (cancellation.relay id).1.signals.map part = cancellation.signals.map part := by
  have look := cancellation.relay_look id
  generalize (cancellation.relay id).1 = after at look
  cases look with
  | idle => rfl
  | passed => exact map_modify (fun entry => same entry true) id cancellation
  | ended => exact map_modify (fun entry => same entry entry.raised) id cancellation

/-! ### What is known of the signals -/

/-- What holds of all signals, whatever was done with their contexts and handles. -/
structure Sound (cancelled : List Nat) (cancellation : Cancellation) : Prop where
  older : ∀ (id : Nat) (entry : Signal) (origin : Nat),
    cancellation.signals[id]? = some entry → entry.source = some origin → origin < id
  caused : ∀ id, cancellation.isRaised id = true → cancellation.Caused cancelled id
  raised : ∀ id ∈ cancelled, cancellation.isRaised id = true
  /-- The relay of a signal runs on unless it is no longer needed. -/
  linked : ∀ (id : Nat) (entry : Signal), cancellation.signals[id]? = some entry →
    entry.raised = true ∨ entry.relaying = true ∨ cancellation.Silent entry.source ∨
      cancellation.isWatched id = false

theorem empty_sound : empty.Sound [] where
  older := fun _ _ _ found => by simp [empty] at found
  caused := fun _ raised => by simp [isRaised, empty] at raised
  raised := fun _ used => by simp at used
  linked := fun _ _ found => by simp [empty] at found

/-- A change of one signal does not bring watchers back. -/
theorem isWatched_modify {change : Signal → Signal} {place : Nat}
    (stays : ∀ entry, cancellation.signals[id]? = some entry → entry.Evolves (change entry))
    (watched : ∀ entry, cancellation.signals[id]? = some entry → 0 < (change entry).watchers →
      cancellation.isWatched id = true)
    (later : (cancellation.modify id change).isWatched place = true) :
    cancellation.isWatched place = true := by
  rcases isWatched_iff.1 later with ⟨after, found, watches⟩ | ⟨other, after, found, runs, source⟩
  · obtain ⟨entry, same, ⟨rfl, rfl⟩ | ⟨-, rfl⟩⟩ := modify_entry found
    · exact watched entry same watches
    · exact isWatched_iff.2 (.inl ⟨_, same, watches⟩)
  · obtain ⟨entry, same, ⟨rfl, rfl⟩ | ⟨-, rfl⟩⟩ := modify_entry found
    · have change := stays entry same
      exact isWatched_iff.2
        (.inr ⟨_, entry, same, change.relaying runs, change.source.symm.trans source⟩)
    · exact isWatched_iff.2 (.inr ⟨_, _, same, runs, source⟩)

theorem derive_entry {source : Option Nat} {entry : Signal}
    (found : (cancellation.derive source).1.signals[id]? = some entry) :
    cancellation.signals[id]? = some entry ∨
      (id = cancellation.signals.length ∧ entry = ⟨false, true, 1, source, source.isSome⟩) := by
  unfold derive at found
  rcases Nat.lt_or_ge id cancellation.signals.length with old | new
  · rw [List.getElem?_append_left old] at found
    exact .inl found
  · rw [List.getElem?_append_right new, List.getElem?_singleton] at found
    split at found
    · next first => exact .inr ⟨by omega, (Option.some.inj found).symm⟩
    · cases found

theorem derive_old {source : Option Nat} {entry : Signal}
    (found : cancellation.signals[id]? = some entry) :
    (cancellation.derive source).1.signals[id]? = some entry := by
  unfold derive
  rw [List.getElem?_append_left (List.getElem?_eq_some_iff.1 found).1]
  exact found

theorem evolves_derive (source : Option Nat) (cancellation : Cancellation) :
    cancellation.Evolves (cancellation.derive source).1 := by
  intro id entry found
  exact ⟨entry, derive_old found, entry.evolves_refl⟩

/-- A new signal watches its source, which is watched already. -/
theorem isWatched_derive {source : Option Nat} (old : id < cancellation.signals.length)
    (held : ∀ origin, source = some origin → ∃ entry,
      cancellation.signals[origin]? = some entry ∧ 0 < entry.watchers)
    (later : (cancellation.derive source).1.isWatched id = true) :
    cancellation.isWatched id = true := by
  rcases isWatched_iff.1 later with ⟨entry, found, watches⟩ | ⟨other, entry, found, runs, made⟩
  · rcases derive_entry found with same | ⟨rfl, -⟩
    · exact isWatched_iff.2 (.inl ⟨entry, same, watches⟩)
    · exact absurd old (Nat.lt_irrefl _)
  · rcases derive_entry found with same | ⟨-, rfl⟩
    · exact isWatched_iff.2 (.inr ⟨other, entry, same, runs, made⟩)
    · exact isWatched_iff.2 (.inl (held id made))

namespace Sound

/-- One signal changes. -/
theorem modify {change : Signal → Signal} {more : List Nat} (sound : cancellation.Sound cancelled)
    (stays : ∀ entry, cancellation.signals[id]? = some entry → entry.Evolves (change entry))
    (watched : ∀ entry, cancellation.signals[id]? = some entry → 0 < (change entry).watchers →
      cancellation.isWatched id = true)
    (cause : ∀ entry, cancellation.signals[id]? = some entry → (change entry).raised = true →
      cancellation.Caused more id)
    (linked : ∀ entry, cancellation.signals[id]? = some entry →
      (change entry).raised = true ∨ (change entry).relaying = entry.relaying ∨
        cancellation.Silent entry.source ∨ cancellation.isWatched id = false)
    (grown : cancelled ⊆ more)
    (raised : ∀ other ∈ more, other ∈ cancelled ∨
      (cancellation.modify id change).isRaised other = true) :
    (cancellation.modify id change).Sound more := by
  have evolves := evolves_modify stays
  refine ⟨?_, ?_, ?_, ?_⟩
  · intro place later origin found source
    obtain ⟨entry, same, ⟨rfl, rfl⟩ | ⟨-, rfl⟩⟩ := modify_entry found
    · exact sound.older _ _ _ same ((stays entry same).source.symm.trans source)
    · exact sound.older _ _ _ same source
  · intro place has
    obtain ⟨later, found, up⟩ := isRaised_entry has
    obtain ⟨entry, same, ⟨rfl, rfl⟩ | ⟨-, rfl⟩⟩ := modify_entry found
    · exact evolves.caused (List.Subset.refl more) (cause entry same up)
    · exact evolves.caused grown (sound.caused place ((isRaised_found same).trans up))
  · intro other used
    rcases raised other used with old | new
    · exact evolves.isRaised (sound.raised other old)
    · exact new
  · intro place later found
    have unwatched (was : cancellation.isWatched place = false) :
        (cancellation.modify id change).isWatched place = false := by
      apply Bool.eq_false_iff.2
      intro now
      exact Bool.false_ne_true (was.symm.trans (isWatched_modify stays watched now))
    obtain ⟨entry, same, ⟨rfl, rfl⟩ | ⟨-, rfl⟩⟩ := modify_entry found
    · have change := stays entry same
      have quiet (silent : cancellation.Silent entry.source) :=
        change.source ▸ evolves.silent silent
      rcases sound.linked _ _ same with up | runs | silent | alone
      · exact .inl (change.raised up)
      · rcases linked entry same with up | kept | silent | alone
        · exact .inl up
        · exact .inr (.inl (kept.trans runs))
        · exact .inr (.inr (.inl (quiet silent)))
        · exact .inr (.inr (.inr (unwatched alone)))
      · exact .inr (.inr (.inl (quiet silent)))
      · exact .inr (.inr (.inr (unwatched alone)))
    · exact (sound.linked _ _ same).imp_right
        (Or.imp_right (Or.imp evolves.silent unwatched))

/-- A change that is about the handle or the contexts of a signal only. -/
theorem adjust {change : Signal → Signal} (sound : cancellation.Sound cancelled)
    (stays : ∀ entry : Signal, entry.Evolves (change entry))
    (unraised : ∀ entry : Signal, (change entry).raised = entry.raised)
    (relays : ∀ entry : Signal, (change entry).relaying = entry.relaying)
    (watched : ∀ entry, cancellation.signals[id]? = some entry → 0 < (change entry).watchers →
      cancellation.isWatched id = true) :
    (cancellation.modify id change).Sound cancelled := by
  apply sound.modify (fun entry _ => stays entry) watched
  · intro entry found up
    apply sound.caused
    rw [isRaised_found found, ← unraised]
    exact up
  · exact fun entry _ => .inr (.inl (relays entry))
  · exact List.Subset.refl _
  · exact fun other used => .inl used

theorem dropHandle (sound : cancellation.Sound cancelled) :
    (cancellation.dropHandle id).Sound cancelled := by
  apply sound.adjust
  · exact fun entry => entry.dropHandle_evolves
  · exact fun entry => rfl
  · exact fun entry => rfl
  · exact fun entry found watches => isWatched_iff.2 (.inl ⟨entry, found, watches⟩)

theorem dropContext (sound : cancellation.Sound cancelled) :
    (cancellation.dropContext id).Sound cancelled := by
  apply sound.adjust
  · exact fun entry => entry.watchers_evolves _
  · exact fun entry => rfl
  · exact fun entry => rfl
  · intro entry found watches
    exact isWatched_iff.2 (.inl ⟨entry, found, Nat.lt_of_lt_of_le watches (Nat.sub_le _ _)⟩)

theorem shareContext (sound : cancellation.Sound cancelled)
    (watched : cancellation.isWatched id = true) :
    (cancellation.shareContext id).Sound cancelled := by
  apply sound.adjust
  · exact fun entry => entry.watchers_evolves _
  · exact fun entry => rfl
  · exact fun entry => rfl
  · exact fun _ _ _ => watched

/-- A handle is used that is still kept. -/
theorem raise {entry : Signal} (sound : cancellation.Sound cancelled)
    (found : cancellation.signals[id]? = some entry) (handled : entry.handled = true) :
    (cancellation.raise id).Sound (id :: cancelled) := by
  apply sound.modify
  · intro other same
    cases found.symm.trans same
    exact Signal.raise_evolves handled
  · exact fun other same watches => isWatched_iff.2 (.inl ⟨other, same, watches⟩)
  · exact fun _ _ _ => .own List.mem_cons_self
  · exact fun _ _ => .inl rfl
  · exact List.subset_cons_self id cancelled
  · intro other used
    rcases List.mem_cons.1 used with rfl | old
    · right
      simp [isRaised, Cancellation.modify, found]
    · exact .inl old

/-- A relay ends that cannot pass anything on any more: its source is silent then. -/
theorem silent_source {entry : Signal} {origin : Nat} (sound : cancellation.Sound cancelled)
    (found : cancellation.signals[id]? = some entry) (runs : entry.relaying = true)
    (source : entry.source = some origin) (unraised : cancellation.isRaised origin = false)
    (never : cancellation.canBeRaised origin = false) : cancellation.Silent (some origin) := by
  have bound := (List.getElem?_eq_some_iff.1 found).1
  have older := sound.older _ _ _ found source
  have present := List.getElem?_eq_getElem (Nat.lt_trans older bound)
  have watched : cancellation.isWatched origin = true :=
    isWatched_iff.2 (.inr ⟨id, entry, found, runs, source⟩)
  rw [isRaised_found present] at unraised
  simp only [canBeRaised, present, Option.any_some, Bool.or_eq_false_iff] at never
  refine .derived present unraised never.1 never.2 ?_
  rcases sound.linked _ _ present with up | on | silent | alone
  · exact absurd (unraised.symm.trans up) Bool.false_ne_true
  · exact absurd (never.2.symm.trans on) Bool.false_ne_true
  · exact silent
  · exact absurd (alone.symm.trans watched) Bool.false_ne_true

theorem relay (sound : cancellation.Sound cancelled) (id : Nat) :
    (cancellation.relay id).1.Sound cancelled := by
  have watched (entry : Signal) (same : cancellation.signals[id]? = some entry)
      (watches : 0 < entry.watchers) : cancellation.isWatched id = true :=
    isWatched_iff.2 (.inl ⟨entry, same, watches⟩)
  have look := cancellation.relay_look id
  generalize (cancellation.relay id).1 = after at look
  cases look with
  | idle => exact sound
  | passed found runs source up =>
      apply sound.modify
      · intro other same
        cases found.symm.trans same
        exact Signal.pass_evolves runs
      · exact watched
      · exact fun _ _ _ => .inherited found source (sound.caused _ up)
      · exact fun _ _ => .inl rfl
      · exact List.Subset.refl _
      · exact fun other used => .inl used
  | ended found runs source down done =>
      apply sound.modify
      · exact fun entry _ => entry.end_evolves
      · exact watched
      · intro entry same up
        apply sound.caused
        rw [isRaised_found same]
        exact up
      · intro other same
        cases found.symm.trans same
        rcases done with never | alone
        · rw [source]
          exact .inr (.inr (.inl (sound.silent_source found runs source down never)))
        · exact .inr (.inr (.inr alone))
      · exact List.Subset.refl _
      · exact fun other used => .inl used

/-- A context that is watched gets a signal of its own. -/
theorem derive {source : Option Nat} (sound : cancellation.Sound cancelled)
    (held : ∀ origin, source = some origin → ∃ entry,
      cancellation.signals[origin]? = some entry ∧ 0 < entry.watchers) :
    (cancellation.derive source).1.Sound cancelled := by
  have evolves := evolves_derive source cancellation
  refine ⟨?_, ?_, ?_, ?_⟩
  · intro id later origin found made
    rcases derive_entry found with old | ⟨rfl, rfl⟩
    · exact sound.older _ _ _ old made
    · obtain ⟨entry, present, -⟩ := held origin made
      exact (List.getElem?_eq_some_iff.1 present).1
  · intro id raised
    obtain ⟨later, found, up⟩ := isRaised_entry raised
    rcases derive_entry found with old | ⟨rfl, rfl⟩
    · exact evolves.caused (List.Subset.refl _) (sound.caused id ((isRaised_found old).trans up))
    · cases up
  · exact fun id used => evolves.isRaised (sound.raised id used)
  · intro id later found
    rcases derive_entry found with old | ⟨rfl, rfl⟩
    · have unwatched (was : cancellation.isWatched id = false) :
          (cancellation.derive source).1.isWatched id = false := by
        apply Bool.eq_false_iff.2
        intro now
        exact Bool.false_ne_true (was.symm.trans
          (isWatched_derive (List.getElem?_eq_some_iff.1 old).1 held now))
      exact (sound.linked _ _ old).imp_right (Or.imp_right (Or.imp evolves.silent unwatched))
    · cases source with
      | none => exact .inr (.inr (.inl .background))
      | some origin => exact .inr (.inl rfl)

end Sound

/-! ### Whose handle was used -/

theorem Caused.handle {way : List Nat} (caused : cancellation.Caused cancelled id)
    (lineage : cancellation.Lineage (some id) way) : ∃ handle ∈ way, handle ∈ cancelled := by
  induction caused generalizing way with
  | own used =>
      cases lineage with
      | derived found onward => exact ⟨_, List.mem_cons_self, used⟩
  | inherited found source _ induction =>
      cases lineage with
      | derived same onward =>
          cases found.symm.trans same
          rw [source] at onward
          obtain ⟨handle, member, used⟩ := induction onward
          exact ⟨handle, List.mem_cons_of_mem _ member, used⟩

theorem Silent.unraised {signal : Option Nat} {way : List Nat} (silent : cancellation.Silent signal)
    (lineage : cancellation.Lineage signal way) : ∀ id ∈ way, cancellation.isRaised id = false := by
  induction lineage with
  | background => exact List.forall_mem_nil _
  | derived found _ induction =>
      cases silent with
      | derived same unraised _ _ way =>
          cases found.symm.trans same
          exact List.forall_mem_cons.2 ⟨(isRaised_found found).trans unraised, induction way⟩

/-- When the relays on the way are done, a signal that is watched is raised after each signal on the
way to it whose handle was used. -/
theorem Sound.inherited {signal : Option Nat} {way : List Nat} {handle : Nat}
    (sound : cancellation.Sound cancelled) (lineage : cancellation.Lineage signal way)
    (settled : ∀ id ∈ way, cancellation.IsSettled id) (member : handle ∈ way)
    (used : handle ∈ cancelled)
    (watched : ∀ id, signal = some id → cancellation.isWatched id = true) :
    signal.any cancellation.isRaised = true := by
  induction lineage with
  | background => cases member
  | @derived id entry earlier found way induction =>
      rw [Option.any_some, isRaised_found found]
      rcases List.mem_cons.1 member with rfl | before
      · exact (isRaised_found found).symm.trans (sound.raised handle used)
      · rcases sound.linked _ _ found with up | runs | silent | alone
        · exact up
        · -- The relay still runs, so that its source is watched and, by induction, raised.
          cases source : entry.source with
          | none =>
              rw [source] at way
              cases way
              cases before
          | some origin =>
              obtain ⟨own, others⟩ := List.forall_mem_cons.1 settled
              have up := induction others before fun other same => by
                cases source.symm.trans same
                exact isWatched_iff.2 (.inr ⟨id, entry, found, runs, source⟩)
              rw [source, Option.any_some] at up
              have down := own entry origin found runs source
              exact absurd (down.symm.trans up) Bool.false_ne_true
        · have down := silent.unraised way handle before
          exact absurd (down.symm.trans (sound.raised handle used)) Bool.false_ne_true
        · exact absurd (alone.symm.trans (watched id rfl)) Bool.false_ne_true

/-! ### Relays that are done -/

theorem isRaised_modify {change : Signal → Signal} {place : Nat} (other : place ≠ id) :
    (cancellation.modify id change).isRaised place = cancellation.isRaised place := by
  simp [isRaised, modify, Ne.symm other]

namespace Sound

variable {bound total : Nat}

/-- The relays of the oldest signals stay settled as long as none of these signals is raised. -/
theorem settled_stays (sound : before.Sound cancelled) (evolves : before.Evolves after)
    (calm : ∀ older < bound, after.isRaised older = true → before.isRaised older = true)
    (settled : before.SettledTo bound total) : after.SettledTo bound total := by
  refine ⟨settled.inside, Nat.le_trans settled.known evolves.length_le, ?_⟩
  intro older inside later origin found runs source
  have old := Nat.lt_of_lt_of_le inside (Nat.le_trans settled.inside settled.known)
  have present := List.getElem?_eq_getElem old
  obtain ⟨same, there, change⟩ := evolves older _ present
  cases found.symm.trans there
  have made := change.source.symm.trans source
  have first := sound.older _ _ _ present made
  have down := settled.settled older inside _ origin present (change.relaying runs) made
  apply Bool.eq_false_iff.2
  intro up
  exact Bool.false_ne_true (down.symm.trans (calm origin (Nat.lt_trans first inside) up))

theorem settled_adjust {change : Signal → Signal} (sound : cancellation.Sound cancelled)
    (stays : ∀ entry : Signal, entry.Evolves (change entry))
    (unraised : ∀ entry : Signal, (change entry).raised = entry.raised)
    (settled : cancellation.SettledTo bound total) :
    (cancellation.modify id change).SettledTo bound total := by
  refine sound.settled_stays (evolves_modify fun entry _ => stays entry) ?_ settled
  intro older _ raised
  obtain ⟨later, found, up⟩ := isRaised_entry raised
  obtain ⟨entry, same, ⟨rfl, rfl⟩ | ⟨-, rfl⟩⟩ := modify_entry found
  · exact (isRaised_found same).trans ((unraised entry).symm.trans up)
  · exact (isRaised_found same).trans up

theorem settled_derive (sound : cancellation.Sound cancelled) (source : Option Nat)
    (settled : cancellation.SettledTo bound total) :
    (cancellation.derive source).1.SettledTo bound total := by
  refine sound.settled_stays (evolves_derive source cancellation) ?_ settled
  intro older inside raised
  obtain ⟨later, found, up⟩ := isRaised_entry raised
  rcases derive_entry found with old | ⟨rfl, -⟩
  · exact (isRaised_found old).trans up
  · exact absurd inside (Nat.not_lt.2 (Nat.le_trans settled.inside settled.known))

/-- No relay that looks disturbs the settled relays of the oldest signals. -/
theorem settled_relay (sound : cancellation.Sound cancelled) (id : Nat)
    (settled : cancellation.SettledTo bound total) : (cancellation.relay id).1.SettledTo bound total := by
  have look := cancellation.relay_look id
  have evolves := evolves_relay id cancellation
  generalize (cancellation.relay id).1 = after at look evolves
  cases look with
  | idle => exact settled
  | passed found runs source up =>
      refine sound.settled_stays evolves (fun older inside raised => ?_) settled
      rcases eq_or_ne older id with rfl | apart
      · have down := settled.settled older inside _ _ found runs source
        exact absurd (down.symm.trans up) Bool.false_ne_true
      · exact (isRaised_modify apart).symm.trans raised
  | ended => exact sound.settled_adjust (fun entry => entry.end_evolves) (fun _ => rfl) settled

end Sound

/-- A relay that has looked is settled. -/
theorem relay_settled (id : Nat) (cancellation : Cancellation) :
    (cancellation.relay id).1.IsSettled id := by
  have look := cancellation.relay_look id
  generalize (cancellation.relay id).1 = after at look
  cases look with
  | idle settled => exact settled
  | passed | ended =>
      intro later origin found runs
      obtain ⟨entry, same, ⟨-, rfl⟩ | ⟨apart, -⟩⟩ := modify_entry found
      · cases runs
      · exact absurd rfl apart

/-- The relay of the next signal looks. -/
theorem Sound.settled_next {bound total : Nat} (sound : cancellation.Sound cancelled)
    (settled : cancellation.SettledTo bound total) (more : bound < total) :
    (cancellation.relay bound).1.SettledTo (bound + 1) total := by
  have before := sound.settled_relay bound settled
  refine ⟨more, before.known, fun older inside => ?_⟩
  rcases Nat.lt_succ_iff_lt_or_eq.1 inside with earlier | rfl
  · exact before.settled older earlier
  · exact relay_settled older cancellation

end Cancellation

end StreamQuery.Dispatch
