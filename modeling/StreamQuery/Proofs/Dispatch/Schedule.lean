import StreamQuery.Dispatch.Schedule
import StreamQuery.Proofs.Dispatch.Effect
/-!
# Schedules are events

Whatever a dispatcher does by its own schedule, the woken tasks in their order and time from timer
to timer, is one of the lists of events. What holds after every list of events therefore holds
whenever a schedule is followed.
-/

namespace StreamQuery.Dispatch

/-- The events that a schedule consists of. -/
def Event.isScheduled : Event → Bool
  | .step _ | .pass _ | .arrange _ => true
  | _ => false

namespace Dispatcher

/-- One state comes from another by scheduled events. -/
def Leads (before after : Dispatcher) : Prop :=
  ∃ events, (∀ event ∈ events, event.isScheduled = true) ∧ after = before.play events

theorem play_append (first second : List Event) (dispatcher : Dispatcher) :
    dispatcher.play (first ++ second) = (dispatcher.play first).play second := by
  induction first generalizing dispatcher with
  | nil => rfl
  | cons event rest induction => exact induction (dispatcher.apply event)

theorem play_grows (events : List Event) (dispatcher : Dispatcher) :
    dispatcher.cancellation.Grows (dispatcher.play events).cancellation := by
  induction events generalizing dispatcher with
  | nil => exact Cancellation.grows_refl _
  | cons event rest induction =>
      exact fun signal raised =>
        induction _ signal ((dispatcher.apply_effect event).grows signal raised)

theorem play_now_le (events : List Event) (dispatcher : Dispatcher) :
    dispatcher.now ≤ (dispatcher.play events).now := by
  induction events generalizing dispatcher with
  | nil => exact Nat.le_refl _
  | cons event rest induction =>
      exact Nat.le_trans (dispatcher.apply_effect event).now_le (induction _)

theorem leads_refl (dispatcher : Dispatcher) : Leads dispatcher dispatcher :=
  ⟨[], List.forall_mem_nil _, rfl⟩

theorem Leads.trans {first second third : Dispatcher} (left : Leads first second)
    (right : Leads second third) : Leads first third := by
  obtain ⟨earlier, before, rfl⟩ := left
  obtain ⟨later, after, rfl⟩ := right
  exact ⟨earlier ++ later, List.forall_mem_append.mpr ⟨before, after⟩,
    (play_append earlier later first).symm⟩

theorem leads_apply {event : Event} (scheduled : event.isScheduled = true)
    (dispatcher : Dispatcher) : Leads dispatcher (dispatcher.apply event) :=
  ⟨[event], List.forall_mem_singleton.mpr scheduled, rfl⟩

theorem run_leads (fuel : Nat) (dispatcher : Dispatcher) :
    Leads dispatcher (dispatcher.run fuel) := by
  induction fuel generalizing dispatcher with
  | zero => exact leads_refl dispatcher
  | succ fuel induction =>
      unfold run
      split
      · exact leads_refl dispatcher
      · next task rest woken =>
          have arranged (ready : List TaskId) : (Event.arrange ready).isScheduled = true := rfl
          have taken := leads_apply (arranged rest) dispatcher
          have turn : (Event.step task).isScheduled = true := rfl
          have stepped := taken.trans (leads_apply turn _)
          simp only
          split
          · exact (stepped.trans (leads_apply (arranged _) _)).trans (induction _)
          · exact stepped.trans (induction _)

theorem settle_leads (dispatcher : Dispatcher) : Leads dispatcher dispatcher.settle :=
  run_leads _ dispatcher

theorem pass_leads (time : Nat) (dispatcher : Dispatcher) :
    Leads dispatcher { dispatcher with now := max dispatcher.now time } :=
  leads_apply (show (Event.pass time).isScheduled = true from rfl) dispatcher

theorem jump_leads {time : Nat} {dispatcher : Dispatcher} (later : dispatcher.now ≤ time) :
    Leads dispatcher (dispatcher.jump time) := by
  refine ⟨[.arrange (dispatcher.jump time).ready, .pass time], by simp [Event.isScheduled], ?_⟩
  have passed : max dispatcher.now time = time := Nat.max_eq_right later
  simp only [play, apply, passed, jump, wakeAll_eq]

/-- Time stands still while a task takes a step. -/
theorem now_step (task : TaskId) (dispatcher : Dispatcher) :
    (dispatcher.step task).1.now = dispatcher.now := by
  cases task with
  | request index =>
      cases found : dispatcher.requests[index]? with
      | none => simp only [step, stepRequest, found]
      | some task =>
          obtain ⟨_, _, _, _, _, _, same⟩ := stepRequest_turn found
          simp only [step, same]
  | stream index =>
      cases found : dispatcher.streams[index]? with
      | none => simp only [step, stepStream, found]
      | some task =>
          obtain ⟨_, _, _, _, _, _, same⟩ := stepStream_turn found
          simp only [step, same]
  | relay signal =>
      simp only [step, stepRelay, wakeAll_eq]
      split <;> rfl

theorem now_run (fuel : Nat) (dispatcher : Dispatcher) :
    (dispatcher.run fuel).now = dispatcher.now := by
  induction fuel generalizing dispatcher with
  | zero => rfl
  | succ fuel induction =>
      unfold run
      split
      · rfl
      · next task rest woken =>
          have stepped := now_step task { dispatcher with ready := rest }
          simp only
          split <;> rw [induction] <;> exact stepped

/-- A dispatcher that runs settles first, and goes on from there. -/
theorem settle_runUntil (stop : Dispatcher → Bool) (target : Nat) (dispatcher : Dispatcher) :
    Leads dispatcher.settle (dispatcher.runUntil stop target) := by
  induction dispatcher using runUntil.induct stop target with
  | case1 dispatcher settled stopped =>
      unfold runUntil
      simp only [settled, stopped, if_true]
      exact leads_refl _
  | case2 dispatcher settled running time timer later induction =>
      have still : settled.now = dispatcher.now := now_run _ _
      have jumped := jump_leads (show settled.now ≤ time by omega)
      unfold runUntil
      simp only [settled] at running timer
      simp only [running, timer]
      simp only [later, and_self, dif_pos, Bool.false_eq_true, if_false]
      exact (jumped.trans (settle_leads _)).trans induction
  | case3 dispatcher settled running time timer late =>
      unfold runUntil
      simp only [settled] at running timer
      simp only [running, timer, late]
      exact pass_leads target _
  | case4 dispatcher settled running timer =>
      unfold runUntil
      simp only [settled] at running timer
      simp only [running, timer]
      exact pass_leads target _

theorem runUntil_leads (stop : Dispatcher → Bool) (target : Nat) (dispatcher : Dispatcher) :
    Leads dispatcher (dispatcher.runUntil stop target) :=
  (settle_leads dispatcher).trans (settle_runUntil stop target dispatcher)

/-- A run ends where it is to stop, or with its time over. -/
theorem runUntil_stops (stop : Dispatcher → Bool) (target : Nat) (dispatcher : Dispatcher) :
    stop (dispatcher.runUntil stop target) = true ∨
      target ≤ (dispatcher.runUntil stop target).now := by
  induction dispatcher using runUntil.induct stop target with
  | case1 dispatcher settled stopped =>
      unfold runUntil
      simp only [settled] at stopped
      simp [stopped]
  | case2 dispatcher settled running time timer later induction =>
      unfold runUntil
      simp only [settled] at running timer
      simp only [running, timer]
      simp only [later, and_self, dif_pos, Bool.false_eq_true, if_false]
      exact induction
  | case3 dispatcher settled running time timer late =>
      unfold runUntil
      simp only [settled] at running timer
      simp only [running, timer, late]
      exact .inr (Nat.le_max_right _ _)
  | case4 dispatcher settled running timer =>
      unfold runUntil
      simp only [settled] at running timer
      simp only [running, timer]
      exact .inr (Nat.le_max_right _ _)

theorem advance_leads (span : Nat) (dispatcher : Dispatcher) :
    Leads dispatcher (dispatcher.advance span) :=
  runUntil_leads _ _ dispatcher

end Dispatcher

end StreamQuery.Dispatch
