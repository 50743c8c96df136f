import StreamQuery.Dispatch.Budget
/-!
# How the operations of a budget move its counter

Every operation either leaves the counter alone, takes one slot, or gives one back, and which of
them it is can be told from whether its task holds a slot before and after it. Waiting, the
admission lock and the notifications never touch the counter or its peak.
-/

namespace StreamQuery.Dispatch.Budget

variable {α : Type}

/-- Counter, peak and limit are the same; only who waits differs. -/
structure Quiet (before after : Budget α) : Prop where
  limit : after.limit = before.limit
  inFlight : after.inFlight = before.inFlight
  peak : after.peak = before.peak

/-- One free slot was taken, and the peak follows the counter. -/
structure Taken (before after : Budget α) : Prop where
  limit : after.limit = before.limit
  free : before.inFlight < before.limit
  inFlight : after.inFlight = before.inFlight + 1
  peak : after.peak = max before.peak after.inFlight

/-- One slot was given back. -/
structure Returned (before after : Budget α) : Prop where
  limit : after.limit = before.limit
  inFlight : after.inFlight = before.inFlight - 1
  peak : after.peak = before.peak

/-- The move of the counter when one task goes from `held` to `holds`. -/
def Moves (held holds : Bool) (before after : Budget α) : Prop :=
  match held, holds with
  | false, true => Taken before after
  | true, false => Returned before after
  | _, _ => Quiet before after

theorem Quiet.refl (budget : Budget α) : Quiet budget budget :=
  ⟨rfl, rfl, rfl⟩

theorem Quiet.trans {first second third : Budget α} (left : Quiet first second)
    (right : Quiet second third) : Quiet first third :=
  ⟨right.limit.trans left.limit, right.inFlight.trans left.inFlight,
    right.peak.trans left.peak⟩

theorem Taken.trans_quiet {first second third : Budget α} (taken : Taken first second)
    (quiet : Quiet second third) : Taken first third where
  limit := quiet.limit.trans taken.limit
  free := taken.free
  inFlight := quiet.inFlight.trans taken.inFlight
  peak := by rw [quiet.peak, quiet.inFlight, taken.peak]

theorem Quiet.trans_taken {first second third : Budget α} (quiet : Quiet first second)
    (taken : Taken second third) : Taken first third where
  limit := taken.limit.trans quiet.limit
  free := by rw [← quiet.inFlight, ← quiet.limit]; exact taken.free
  inFlight := by rw [taken.inFlight, quiet.inFlight]
  peak := by rw [taken.peak, quiet.peak]

theorem moves_same (holds : Bool) {before after : Budget α} (quiet : Quiet before after) :
    Moves holds holds before after := by
  cases holds with
  | false => exact quiet
  | true => exact quiet

theorem notify_quiet (budget : Budget α) : Quiet budget budget.notify := by
  unfold notify
  split <;> exact ⟨rfl, rfl, rfl⟩

theorem unlock_quiet (budget : Budget α) : Quiet budget budget.unlock := by
  unfold unlock
  split <;> exact ⟨rfl, rfl, rfl⟩

theorem enter_quiet (task : α) (budget : Budget α) : Quiet budget (budget.enter task) := by
  unfold enter
  split <;> exact ⟨rfl, rfl, rfl⟩

theorem release_returned (budget : Budget α) : Returned budget budget.release := by
  have told := notify_quiet { budget with inFlight := budget.inFlight - 1 }
  exact ⟨told.limit, told.inFlight, told.peak⟩

theorem take_taken {budget taken : Budget α} (took : budget.take? = some taken) :
    Taken budget taken := by
  unfold take? at took
  split at took
  · next free =>
      cases took
      exact ⟨rfl, free, rfl, rfl⟩
  · cases took

section Waiting

variable [DecidableEq α]

theorem abandon_quiet (task : α) (budget : Budget α) : Quiet budget (budget.abandon task) := by
  unfold abandon
  split
  · split
    · have passed := notify_quiet { budget with notified := budget.notified.erase task }
      exact Quiet.trans ⟨passed.limit, passed.inFlight, passed.peak⟩ (unlock_quiet _)
    · have unlocked := unlock_quiet { budget with parked := budget.parked.erase task }
      exact ⟨unlocked.limit, unlocked.inFlight, unlocked.peak⟩
  · exact ⟨rfl, rfl, rfl⟩

/-- An answer of the budget to a task that asks for a slot: it took one exactly when it says so. -/
theorem contend_moves (task : α) (budget : Budget α) :
    Moves false (budget.contend task).2 budget (budget.contend task).1 := by
  have looked : Quiet budget
      { budget with notified := budget.notified.erase task, token := false } := ⟨rfl, rfl, rfl⟩
  unfold contend
  simp only
  split
  · next taken took =>
      exact (looked.trans_taken (take_taken took)).trans_quiet (unlock_quiet taken)
  · exact looked.trans ⟨rfl, rfl, rfl⟩

theorem poll_moves (task : α) (budget : Budget α) :
    Moves false (budget.poll task).2 budget (budget.poll task).1 := by
  unfold poll
  split
  · exact contend_moves task budget
  · exact Quiet.refl budget

theorem queueUp_moves (task : α) (budget : Budget α) :
    Moves false (budget.queueUp task).2 budget (budget.queueUp task).1 := by
  have entered := enter_quiet task budget
  have polled := poll_moves task (budget.enter task)
  unfold queueUp
  cases granted : (poll task (enter task budget)).2 with
  | false =>
      rw [granted] at polled
      exact entered.trans polled
  | true =>
      rw [granted] at polled
      exact entered.trans_taken polled

theorem acquire_moves (task : α) (budget : Budget α) :
    Moves false (budget.acquire task).2 budget (budget.acquire task).1 := by
  unfold acquire
  split
  · next taken took => exact take_taken took
  · exact queueUp_moves task budget

end Waiting

end StreamQuery.Dispatch.Budget
