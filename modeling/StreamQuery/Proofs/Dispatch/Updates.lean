import StreamQuery.Dispatch.Event
import Mathlib.Data.List.Basic
/-!
# Updates of a dispatcher

Waking tasks changes the queue of woken tasks only, and replacing the budget changes nothing but the
budget and that queue. What the queue looks like afterwards is left unsaid.
-/

namespace StreamQuery.Dispatch

theorem modify_found {α : Type} {items : List α} {place : Nat} {item : α}
    (found : items[place]? = some item) (change : α → α) :
    items.modify place change = items.set place (change item) := by
  rw [List.modify_eq_set_getElem?, found]
  rfl

namespace Dispatcher

/-- The queue of woken tasks after some tasks were woken. -/
def readyAfter (tasks : List TaskId) (dispatcher : Dispatcher) : List TaskId :=
  (dispatcher.wakeAll tasks).ready

/-- The queue of woken tasks after the budget was replaced. -/
def readyUnder (budget : Budget TaskId) (dispatcher : Dispatcher) : List TaskId :=
  (dispatcher.setBudget budget).ready

theorem wake_eq (task : TaskId) (dispatcher : Dispatcher) :
    dispatcher.wake task = { dispatcher with ready := dispatcher.readyAfter [task] } := by
  unfold readyAfter wakeAll
  simp only [List.foldl_cons, List.foldl_nil]
  unfold wake
  split <;> rfl

theorem wakeAll_eq (tasks : List TaskId) (dispatcher : Dispatcher) :
    dispatcher.wakeAll tasks =
      { dispatcher with ready := dispatcher.readyAfter tasks } := by
  unfold readyAfter
  induction tasks generalizing dispatcher with
  | nil => rfl
  | cons task rest induction =>
      change (dispatcher.wake task).wakeAll rest =
        { dispatcher with ready := ((dispatcher.wake task).wakeAll rest).ready }
      rw [wake_eq]
      exact induction _

theorem setBudget_eq (budget : Budget TaskId) (dispatcher : Dispatcher) :
    dispatcher.setBudget budget =
      { dispatcher with budget := budget, ready := dispatcher.readyUnder budget } := by
  unfold readyUnder setBudget
  simp only
  split
  · rfl
  · rw [wakeAll_eq]

theorem release_eq (dispatcher : Dispatcher) :
    dispatcher.release =
      { dispatcher with
        budget := dispatcher.budget.release
        ready := dispatcher.readyUnder dispatcher.budget.release } :=
  setBudget_eq _ _

/-- One step of the exchange of a task. -/
def exchangeStep (dispatcher : Dispatcher) (post : Post) (exchange : Exchange) :
    ExchangeStep × Transport :=
  exchange.step dispatcher.now dispatcher.policy.bodyLimit post dispatcher.transport

theorem exchangeStep_awaiting (dispatcher : Dispatcher) (post : Post) (answer : Answer)
    (due : Nat) :
    dispatcher.exchangeStep post (.awaitingHead answer due) =
      (if due ≤ dispatcher.now then .head answer.status answer.body
        else .blocked (.awaitingHead answer due), dispatcher.transport) := by
  change (if due ≤ dispatcher.now then _ else _) = _
  split <;> rfl

end Dispatcher

end StreamQuery.Dispatch
