/-!
# The budget of requests in flight

A request takes a slot before it is sent and gives it back when its response is done with. A free
slot may be taken at once. A task that has to wait, or that asks to be queued, first passes the
admission lock, which serves tasks in the order in which they came; the task past the lock tries to
take a slot, and if there is none it is parked until a slot is given back. A slot given back while
nobody is parked leaves a token, so that the next task to park looks once more.
-/

namespace StreamQuery.Dispatch

structure Budget (α : Type) where
  limit : Nat
  inFlight : Nat
  /-- The largest number of requests that were in flight at once. -/
  peak : Nat
  /-- The task past the admission lock. -/
  holder : Option α
  /-- The tasks before the lock, the next one first. -/
  queue : List α
  /-- True when a slot was given back and nobody was told. -/
  token : Bool
  /-- Tasks that wait to be told of a slot. -/
  parked : List α
  /-- Tasks that were told and have not looked yet. -/
  notified : List α
  deriving Repr

namespace Budget

variable {α : Type} [DecidableEq α]

def ofLimit (limit : Nat) : Budget α :=
  ⟨limit, 0, 0, none, [], false, [], []⟩

def isSaturated (budget : Budget α) : Bool :=
  budget.limit ≤ budget.inFlight

/-- Takes a slot if one is free. -/
def take? (budget : Budget α) : Option (Budget α) :=
  if budget.inFlight < budget.limit then
    some { budget with
      inFlight := budget.inFlight + 1
      peak := max budget.peak (budget.inFlight + 1) }
  else
    none

/-- Tells one parked task of a slot, or leaves a token. -/
def notify (budget : Budget α) : Budget α :=
  match budget.parked with
  | [] => { budget with token := true }
  | task :: rest =>
      { budget with parked := rest, notified := budget.notified ++ [task] }

/-- Gives a slot back. -/
def release (budget : Budget α) : Budget α :=
  notify { budget with inFlight := budget.inFlight - 1 }

/-- Passes the lock on to the next task before it. -/
def unlock (budget : Budget α) : Budget α :=
  match budget.queue with
  | [] => { budget with holder := none }
  | next :: rest => { budget with holder := some next, queue := rest }

/-- The task past the lock looks for a slot: it takes one and gives up the lock, or is parked. -/
def contend (task : α) (budget : Budget α) : Budget α × Bool :=
  let looking := { budget with notified := budget.notified.erase task, token := false }
  match take? looking with
  | some taken => (taken.unlock, true)
  | none => ({ looking with parked := looking.parked ++ [task] }, false)

/-- The task past the lock if it is not parked: the one whose wait can go on. -/
def runnable? (budget : Budget α) : Option α :=
  budget.holder.filter fun task => !budget.parked.contains task

/-- Goes on with the wait of a task; the answer tells whether it now has a slot. -/
def poll (task : α) (budget : Budget α) : Budget α × Bool :=
  if budget.runnable? = some task then contend task budget else (budget, false)

/-- Comes before the lock, and passes it if nobody is past it. -/
def enter (task : α) (budget : Budget α) : Budget α :=
  match budget.holder with
  | none => { budget with holder := some task }
  | some _ => { budget with queue := budget.queue ++ [task] }

/-- Asks for a slot behind all tasks that came before the lock earlier, even if one is free. -/
def queueUp (task : α) (budget : Budget α) : Budget α × Bool :=
  poll task (enter task budget)

/-- Asks for a slot; a free one is taken at once. -/
def acquire (task : α) (budget : Budget α) : Budget α × Bool :=
  match budget.take? with
  | some taken => (taken, true)
  | none => queueUp task budget

/-- Gives up a wait. What the task was told is passed on, and so is the lock. -/
def abandon (task : α) (budget : Budget α) : Budget α :=
  if budget.holder = some task then
    if budget.notified.contains task then
      (notify { budget with notified := budget.notified.erase task }).unlock
    else
      unlock { budget with parked := budget.parked.erase task }
  else
    { budget with queue := budget.queue.erase task }

end Budget

end StreamQuery.Dispatch
