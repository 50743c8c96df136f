import StreamQuery.Dispatch.Budget
import Mathlib.Data.List.Basic
/-!
# Wake-ups of tasks that wait for a slot

The operations of a budget are taken apart into the single actions that they consist of, so that the
actions of several tasks can come in any order: to look for a slot and to be put down as waiting are
two actions, and so are to give a slot back and to tell of it. Whatever their order, no wake-up is
lost: while a slot is free, the task that waits for one was told of it, will be told by a token that
it finds, or is about to be told. The operations themselves are sequences of such actions.
-/

namespace StreamQuery.Dispatch

/-- Where the task past the admission lock stands. -/
inductive Stance where
  /-- It is about to look for a slot. -/
  | ready
  /-- It is put down as waiting, or has used up a token instead, and looks for a slot now. -/
  | looking (token : Bool)
  /-- It has found no slot and waits to be told of one. -/
  | waiting
  /-- It has a slot or gives up, and passes on what it was told meanwhile. -/
  | leaving
  /-- It is about to give up the lock. -/
  | unlocking
  deriving DecidableEq, Repr

/-- A budget between two actions. -/
structure Admission (α : Type) where
  budget : Budget α
  stance : Stance
  /-- How many slots were given back and not told of yet. -/
  untold : Nat

/-- One action. The first four come from outside: a free slot is taken at once, a task comes before
the lock or gives up its wait, and a slot is given back. The others are next steps of tasks that are
under way. -/
inductive Action (α : Type) where
  | take
  | ask (task : α)
  | quit (task : α)
  | giveBack
  | tell
  | enrol
  | look
  | wake
  | withdraw
  | unlock
  deriving DecidableEq, Repr

/-- True for the actions that follow without anything from outside. -/
def Action.isOwn {α : Type} : Action α → Bool
  | .take | .ask _ | .quit _ | .giveBack => false
  | _ => true

namespace Admission

variable {α : Type} [DecidableEq α]

def ofLimit (limit : Nat) : Admission α :=
  ⟨.ofLimit limit, .ready, 0⟩

/-- Uses up a token if there is one, and is put down as waiting otherwise. -/
def enrol (task : α) (admission : Admission α) : Admission α :=
  if admission.budget.token then
    { admission with budget := { admission.budget with token := false }, stance := .looking true }
  else
    { admission with
      budget := { admission.budget with parked := admission.budget.parked ++ [task] }
      stance := .looking false }

/-- Takes a slot if one is free; a task that has used up a token looks once more. -/
def look (token : Bool) (admission : Admission α) : Admission α :=
  match admission.budget.take? with
  | some taken => { admission with budget := taken, stance := .leaving }
  | none => { admission with stance := if token then .ready else .waiting }

/-- A task that was told of a slot goes on. -/
def wake (task : α) (admission : Admission α) : Admission α :=
  if admission.budget.notified.contains task then
    { admission with
      budget := { admission.budget with notified := admission.budget.notified.erase task }
      stance := .ready }
  else
    admission

/-- Is no longer put down as waiting; what the task was told is passed on. -/
def withdraw (task : α) (admission : Admission α) : Admission α :=
  { admission with
    budget :=
      if admission.budget.notified.contains task then
        Budget.notify
          { admission.budget with notified := admission.budget.notified.erase task }
      else
        { admission.budget with parked := admission.budget.parked.erase task }
    stance := .unlocking }

/-- Gives up the wait of a task. -/
def quit (task : α) (admission : Admission α) : Admission α :=
  if admission.budget.holder = some task then
    match admission.stance with
    | .ready => { admission with stance := .unlocking }
    | .waiting => { admission with stance := .leaving }
    -- From being put down as waiting to the end of the look there is no place to stop at.
    | _ => admission
  else
    { admission with
      budget := { admission.budget with queue := admission.budget.queue.erase task } }

/-- The state after an action; an action that is not due changes nothing. -/
def act (action : Action α) (admission : Admission α) : Admission α :=
  match action, admission.budget.holder, admission.stance with
  | .take, _, _ => { admission with budget := admission.budget.take?.getD admission.budget }
  | .ask task, _, _ => { admission with budget := admission.budget.enter task }
  | .quit task, _, _ => admission.quit task
  | .giveBack, _, _ =>
      { admission with
        budget := { admission.budget with inFlight := admission.budget.inFlight - 1 }
        untold := admission.untold + 1 }
  | .tell, _, _ =>
      if admission.untold = 0 then admission
      else
        { admission with budget := admission.budget.notify, untold := admission.untold - 1 }
  | .enrol, some task, .ready => admission.enrol task
  | .look, some _, .looking token => admission.look token
  | .wake, some task, .waiting => admission.wake task
  | .withdraw, some task, .leaving => admission.withdraw task
  | .unlock, some _, .unlocking =>
      { admission with budget := admission.budget.unlock, stance := .ready }
  | _, _, _ => admission

/-- The state after some actions, the first one first. -/
def play : List (Action α) → Admission α → Admission α
  | [], admission => admission
  | action :: rest, admission => play rest (admission.act action)

end Admission

/-- The stances of a task that need not be put down as waiting. -/
def Stance.mayBeClear : Stance → Bool
  | .looking false | .waiting => false
  | _ => true

/-- The stances of a task that may be put down as waiting. -/
def Stance.mayBeBooked : Stance → Bool
  | .looking false | .waiting | .leaving => true
  | _ => false

/-- Who is put down as waiting: nobody, or the task past the lock, which is to be told or was told
already. No token is left over while a task is to be told. -/
inductive Booked {α : Type} (stance : Stance) : Option α → List α → List α → Bool → Prop where
  | clear {holder token} (active : stance.mayBeClear = true) : Booked stance holder [] [] token
  | parked {task} (active : stance.mayBeBooked = true) :
      Booked stance (some task) [task] [] false
  | told {task token} (active : stance.mayBeBooked = true) :
      Booked stance (some task) [] [task] token

namespace Admission

/-- What every action keeps. -/
structure Kept {α : Type} (admission : Admission α) : Prop where
  booked : Booked admission.stance admission.budget.holder admission.budget.parked
    admission.budget.notified admission.budget.token
  /-- Nobody stands before an open lock. -/
  idle : admission.budget.holder = none →
    admission.budget.queue = [] ∧ admission.stance = .ready
  /-- The telling of a slot that became free is still to come. -/
  owed : admission.stance = .waiting → admission.budget.parked ≠ [] →
    admission.budget.inFlight < admission.budget.limit → 0 < admission.untold

theorem ofLimit_kept {α : Type} (limit : Nat) : (ofLimit limit : Admission α).Kept :=
  ⟨.clear rfl, fun _ => ⟨rfl, rfl⟩, nofun⟩

variable {α : Type} [DecidableEq α] {admission : Admission α} {task : α}

omit [DecidableEq α] in
theorem take_kept (kept : admission.Kept) :
    Kept { admission with budget := admission.budget.take?.getD admission.budget } := by
  obtain ⟨booked, idle, owed⟩ := kept
  unfold Budget.take?
  split
  · exact ⟨booked, idle, fun waits some free => owed waits some (Nat.lt_of_succ_lt free)⟩
  · exact ⟨booked, idle, owed⟩

omit [DecidableEq α] in
theorem notify_kept (kept : admission.Kept) :
    Kept { admission with budget := admission.budget.notify, untold := admission.untold - 1 } := by
  obtain ⟨⟨limit, inFlight, peak, holder, queue, token, parked, notified⟩, stance, untold⟩ :=
    admission
  obtain ⟨booked, idle, owed⟩ := kept
  cases booked with
  | clear active => exact ⟨.clear active, idle, fun _ some => absurd rfl some⟩
  | parked active | told active => exact ⟨.told active, nofun, fun _ some => absurd rfl some⟩

omit [DecidableEq α] in
theorem enter_kept (kept : admission.Kept) (task : α) :
    Kept { admission with budget := admission.budget.enter task } := by
  obtain ⟨⟨limit, inFlight, peak, holder, queue, token, parked, notified⟩, stance, untold⟩ :=
    admission
  obtain ⟨booked, idle, owed⟩ := kept
  cases holder with
  | some first => exact ⟨booked, nofun, owed⟩
  | none =>
      cases booked with
      | clear active => exact ⟨.clear active, nofun, owed⟩

theorem quit_kept (kept : admission.Kept) (task : α) : (admission.quit task).Kept := by
  obtain ⟨⟨limit, inFlight, peak, holder, queue, token, parked, notified⟩, stance, untold⟩ :=
    admission
  obtain ⟨booked, idle, owed⟩ := kept
  unfold quit
  split
  · next locked =>
      cases locked
      cases stance with
      | ready =>
          cases booked with
          | clear => exact ⟨.clear rfl, nofun, nofun⟩
          | parked active | told active => cases active
      | waiting =>
          cases booked with
          | clear active => cases active
          | parked => exact ⟨.parked rfl, nofun, nofun⟩
          | told => exact ⟨.told rfl, nofun, nofun⟩
      | _ => exact ⟨booked, nofun, nofun⟩
  · refine ⟨booked, fun unlocked => ?_, owed⟩
    obtain ⟨none, calm⟩ := idle unlocked
    cases none
    exact ⟨rfl, calm⟩

omit [DecidableEq α] in
theorem enrol_kept (kept : admission.Kept) (holder : admission.budget.holder = some task)
    (stance : admission.stance = .ready) : (admission.enrol task).Kept := by
  obtain ⟨⟨limit, inFlight, peak, _, queue, token, parked, notified⟩, _, untold⟩ := admission
  obtain ⟨booked, idle, owed⟩ := kept
  cases holder
  cases stance
  cases booked with
  | clear =>
      cases token with
      | true => exact ⟨.clear rfl, nofun, nofun⟩
      | false => exact ⟨.parked rfl, nofun, nofun⟩
  | parked active | told active => cases active

omit [DecidableEq α] in
theorem look_kept {token : Bool} (kept : admission.Kept)
    (holder : admission.budget.holder = some task) (stance : admission.stance = .looking token) :
    (admission.look token).Kept := by
  obtain ⟨⟨limit, inFlight, peak, _, queue, stored, parked, notified⟩, _, untold⟩ := admission
  obtain ⟨booked, idle, owed⟩ := kept
  cases holder
  cases stance
  unfold look Budget.take?
  split
  · next free =>
      split at free
      · cases free
        cases booked with
        | clear => exact ⟨.clear rfl, nofun, nofun⟩
        | parked => exact ⟨.parked rfl, nofun, nofun⟩
        | told => exact ⟨.told rfl, nofun, nofun⟩
      · cases free
  · next full =>
      split at full
      · cases full
      · next full =>
          cases token with
          | true =>
              cases booked with
              | clear => exact ⟨.clear rfl, nofun, nofun⟩
              | parked active | told active => cases active
          | false =>
              -- No slot was free, so none is owed to the task that waits from now on.
              cases booked with
              | clear active => cases active
              | parked => exact ⟨.parked rfl, nofun, fun _ _ free => absurd free full⟩
              | told => exact ⟨.told rfl, nofun, fun _ some => absurd rfl some⟩

theorem wake_kept (kept : admission.Kept) (holder : admission.budget.holder = some task)
    (stance : admission.stance = .waiting) : (admission.wake task).Kept := by
  obtain ⟨⟨limit, inFlight, peak, _, queue, token, parked, notified⟩, _, untold⟩ := admission
  obtain ⟨booked, idle, owed⟩ := kept
  cases holder
  cases stance
  cases booked with
  | clear active => cases active
  | parked => exact ⟨.parked rfl, nofun, owed⟩
  | told =>
      simp only [wake, List.contains_cons, BEq.rfl, Bool.true_or, if_true, List.erase_cons_head]
      exact ⟨.clear rfl, nofun, nofun⟩

theorem withdraw_kept (kept : admission.Kept) (holder : admission.budget.holder = some task)
    (stance : admission.stance = .leaving) : (admission.withdraw task).Kept := by
  obtain ⟨⟨limit, inFlight, peak, _, queue, token, parked, notified⟩, _, untold⟩ := admission
  obtain ⟨booked, idle, owed⟩ := kept
  cases holder
  cases stance
  cases booked with
  | clear => exact ⟨.clear rfl, nofun, nofun⟩
  | parked =>
      simp only [withdraw, List.contains_nil, Bool.false_eq_true, if_false, List.erase_cons_head]
      exact ⟨.clear rfl, nofun, nofun⟩
  | told =>
      simp only [withdraw, List.contains_cons, BEq.rfl, Bool.true_or, if_true,
        List.erase_cons_head]
      exact ⟨.clear rfl, nofun, nofun⟩

omit [DecidableEq α] in
theorem unlock_kept (kept : admission.Kept) (holder : admission.budget.holder = some task)
    (stance : admission.stance = .unlocking) :
    Kept { admission with budget := admission.budget.unlock, stance := .ready } := by
  obtain ⟨⟨limit, inFlight, peak, _, queue, token, parked, notified⟩, _, untold⟩ := admission
  obtain ⟨booked, idle, owed⟩ := kept
  cases holder
  cases stance
  cases booked with
  | clear =>
      cases queue with
      | nil => exact ⟨.clear rfl, fun _ => ⟨rfl, rfl⟩, nofun⟩
      | cons next rest => exact ⟨.clear rfl, nofun, nofun⟩
  | parked active | told active => cases active

theorem act_kept (kept : admission.Kept) (action : Action α) : (admission.act action).Kept := by
  unfold act
  split
  · exact take_kept kept
  · exact enter_kept kept _
  · exact quit_kept kept _
  · exact ⟨kept.booked, kept.idle, fun _ _ _ => Nat.succ_pos _⟩
  · split
    · exact kept
    · exact notify_kept kept
  · next holder stance => exact enrol_kept kept holder stance
  · next holder stance => exact look_kept kept holder stance
  · next holder stance => exact wake_kept kept holder stance
  · next holder stance => exact withdraw_kept kept holder stance
  · next holder stance => exact unlock_kept kept holder stance
  · exact kept

theorem play_kept (actions : List (Action α)) (kept : admission.Kept) :
    (play actions admission).Kept := by
  induction actions generalizing admission with
  | nil => exact kept
  | cons action rest ih => exact ih (act_kept kept action)

/-- The task is past the lock and has no slot yet. -/
def IsPast {α : Type} (admission : Admission α) (task : α) : Prop :=
  admission.budget.holder = some task ∨ task ∈ admission.budget.parked ∨
    task ∈ admission.budget.notified

/-- No task that is under way has a next step. -/
def AllBlocked (admission : Admission α) : Prop :=
  ∀ action : Action α, action.isOwn = true → admission.act action = admission

/-- No wake-up is lost. -/
structure NoneLost (admission : Admission α) : Prop where
  /-- At most one task is past the lock without a slot. -/
  single : ∀ first second, admission.IsPast first → admission.IsPast second → first = second
  once : (admission.budget.parked ++ admission.budget.notified).length ≤ 1
  /-- While a slot is free, the task that waits was told of one or the telling is due. -/
  told : ∀ task, admission.budget.holder = some task → admission.stance = .waiting →
    admission.budget.isSaturated = false →
    task ∈ admission.budget.notified ∨ 0 < admission.untold
  /-- If nobody can go on, those who want a slot wait for one to be given back. -/
  saturated : admission.AllBlocked →
    admission.budget.holder ≠ none ∨ admission.budget.queue ≠ [] →
    admission.budget.isSaturated = true

omit [DecidableEq α] in
theorem Kept.past (kept : admission.Kept) (past : admission.IsPast task) :
    admission.budget.holder = some task := by
  obtain ⟨⟨limit, inFlight, peak, holder, queue, token, parked, notified⟩, stance, untold⟩ :=
    admission
  obtain ⟨booked, idle, owed⟩ := kept
  cases booked <;> simpa [IsPast, eq_comm] using past

omit [DecidableEq α] in
theorem Kept.once (kept : admission.Kept) :
    (admission.budget.parked ++ admission.budget.notified).length ≤ 1 := by
  obtain ⟨⟨limit, inFlight, peak, holder, queue, token, parked, notified⟩, stance, untold⟩ :=
    admission
  obtain ⟨booked, idle, owed⟩ := kept
  cases booked <;> simp

omit [DecidableEq α] in
theorem Kept.told (kept : admission.Kept) (holder : admission.budget.holder = some task)
    (waits : admission.stance = .waiting) (free : admission.budget.isSaturated = false) :
    task ∈ admission.budget.notified ∨ 0 < admission.untold := by
  obtain ⟨⟨limit, inFlight, peak, _, queue, token, parked, notified⟩, _, untold⟩ := admission
  obtain ⟨booked, idle, owed⟩ := kept
  cases holder
  cases waits
  have room : inFlight < limit := by simpa [Budget.isSaturated] using free
  cases booked with
  | clear active => cases active
  | parked => exact .inr (owed rfl (List.cons_ne_nil _ _) room)
  | told => exact .inl (List.mem_singleton.2 rfl)

/-- A blocked task past the lock waits, and nothing was given back that is not told of. -/
theorem AllBlocked.waits (blocked : admission.AllBlocked)
    (holder : admission.budget.holder = some task) :
    admission.stance = .waiting ∧ task ∉ admission.budget.notified ∧ admission.untold = 0 := by
  obtain ⟨⟨limit, inFlight, peak, _, queue, token, parked, notified⟩, stance, untold⟩ := admission
  cases holder
  have still (action : Action α) (own : action.isOwn = true) :
      (act action ⟨⟨limit, inFlight, peak, some task, queue, token, parked, notified⟩, stance,
        untold⟩).stance = stance :=
    congrArg Admission.stance (blocked action own)
  have untold_zero : untold = 0 := by
    by_contra due
    have less : untold - 1 = untold := by
      simpa [act, due] using congrArg Admission.untold (blocked .tell rfl)
    omega
  have waiting : stance = .waiting := by
    cases stance with
    | waiting => rfl
    | ready =>
        have moved := still .enrol rfl
        simp only [act, enrol] at moved
        split at moved <;> cases moved
    | looking token =>
        have moved := still .look rfl
        simp only [act, look] at moved
        cases token <;> split at moved <;> cases moved
    | leaving => cases still .withdraw rfl
    | unlocking => cases still .unlock rfl
  cases waiting
  refine ⟨rfl, fun told => ?_, untold_zero⟩
  have moved := still .wake rfl
  simp only [act, wake, List.contains_iff_mem.2 told, if_true] at moved
  cases moved

theorem Kept.noneLost (kept : admission.Kept) : admission.NoneLost where
  single first second firstPast secondPast :=
    Option.some.inj ((kept.past firstPast).symm.trans (kept.past secondPast))
  once := kept.once
  told _ holder waits free := kept.told holder waits free
  saturated blocked wanted := by
    cases holder : admission.budget.holder with
    | none => exact absurd (kept.idle holder).1 (wanted.resolve_left fun some => some holder)
    | some task =>
        obtain ⟨waits, untold, settled⟩ := blocked.waits holder
        cases free : admission.budget.isSaturated with
        | true => rfl
        | false =>
            rcases kept.told holder waits free with told | due
            · exact absurd told untold
            · omega

theorem play_append (first second : List (Action α)) (admission : Admission α) :
    play (first ++ second) admission = play second (play first admission) := by
  induction first generalizing admission with
  | nil => rfl
  | cons action rest ih => exact ih (admission.act action)

/-- Nothing is under way: every task is before the lock, is about to look or waits. -/
structure AtRest (admission : Admission α) : Prop where
  kept : admission.Kept
  told : admission.untold = 0
  calm : admission.stance = .ready ∨ admission.stance = .waiting

omit [DecidableEq α] in
theorem AtRest.saturated (rest : admission.AtRest) (parked : task ∈ admission.budget.parked) :
    admission.budget.isSaturated = true := by
  obtain ⟨⟨limit, inFlight, peak, holder, queue, token, parked, notified⟩, stance, untold⟩ :=
    admission
  obtain ⟨⟨booked, idle, owed⟩, told, calm⟩ := rest
  cases told
  cases booked with
  | clear | told => cases parked
  | parked active =>
      rcases calm with calm | calm <;> cases calm
      · cases active
      · by_contra free
        have room : inFlight < limit := by simpa [Budget.isSaturated] using free
        exact absurd (owed rfl (List.cons_ne_nil _ _) room) (Nat.lt_irrefl 0)

end Admission

/-- What the tasks do with a budget. -/
inductive Operation (α : Type) where
  | take
  | release
  | enter (task : α)
  | poll (task : α)
  | acquire (task : α)
  | queueUp (task : α)
  | abandon (task : α)
  deriving DecidableEq, Repr

namespace Operation

variable {α : Type} [DecidableEq α]

def run : Operation α → Budget α → Budget α
  | .take, budget => budget.take?.getD budget
  | .release, budget => budget.release
  | .enter task, budget => budget.enter task
  | .poll task, budget => (budget.poll task).1
  | .acquire task, budget => (budget.acquire task).1
  | .queueUp task, budget => (budget.queueUp task).1
  | .abandon task, budget => budget.abandon task

/-- The budget after some operations, the first one first. -/
def runAll (operations : List (Operation α)) (budget : Budget α) : Budget α :=
  operations.foldl (fun budget operation => operation.run budget) budget

/-- Going on with a wait: a task that finds a token looks a second time. -/
def pollActions (task : α) (budget : Budget α) : List (Action α) :=
  if budget.runnable? = some task then
    [.wake, .enrol, .look, .enrol, .look, .withdraw, .unlock]
  else []

def queueUpActions (task : α) (budget : Budget α) : List (Action α) :=
  .ask task :: pollActions task (budget.enter task)

/-- The actions that an operation consists of. -/
def actions : Operation α → Budget α → List (Action α)
  | .take, _ => [.take]
  | .release, _ => [.giveBack, .tell]
  | .enter task, _ => [.ask task]
  | .poll task, budget => pollActions task budget
  | .queueUp task, budget => queueUpActions task budget
  | .acquire task, budget =>
      if budget.isSaturated then queueUpActions task budget else [.take]
  | .abandon task, _ => [.quit task, .withdraw, .unlock]

end Operation

namespace Admission

variable {α : Type} [DecidableEq α] {admission : Admission α} {task : α}

/-- Some actions lead from rest to rest and to the given budget. -/
structure Leads (actions : List (Action α)) (admission : Admission α) (budget : Budget α) :
    Prop where
  rest : (play actions admission).AtRest
  same : (play actions admission).budget = budget

theorem contend_leads (limit inFlight peak : Nat) (task : α) (queue : List α) (token : Bool) :
    play [.enrol, .look, .enrol, .look, .withdraw, .unlock]
        ⟨⟨limit, inFlight, peak, some task, queue, token, [], []⟩, .ready, 0⟩ =
      ⟨(Budget.contend task ⟨limit, inFlight, peak, some task, queue, token, [], []⟩).1,
        if inFlight < limit then .ready else .waiting, 0⟩ := by
  by_cases free : inFlight < limit <;> cases token <;> cases queue <;>
    simp [play, act, enrol, look, withdraw, Budget.contend, Budget.take?, Budget.unlock, free]

theorem poll_leads (rest : admission.AtRest) (task : α) :
    Leads (Operation.pollActions task admission.budget) admission
      (admission.budget.poll task).1 := by
  unfold Operation.pollActions Budget.poll
  split
  · next runnable =>
      have kept := play_kept [.wake, .enrol, .look, .enrol, .look, .withdraw, .unlock] rest.kept
      obtain ⟨⟨limit, inFlight, peak, holder, queue, token, parked, notified⟩, stance, untold⟩ :=
        admission
      obtain ⟨⟨booked, idle, owed⟩, told, calm⟩ := rest
      obtain ⟨rfl, unparked⟩ := Option.filter_eq_some_iff.1 runnable
      cases told
      -- The task past the lock is about to look, or waits and was told of a slot.
      have played : play [.wake, .enrol, .look, .enrol, .look, .withdraw, .unlock]
            ⟨⟨limit, inFlight, peak, some task, queue, token, parked, notified⟩, stance, 0⟩ =
          ⟨(Budget.contend task
              ⟨limit, inFlight, peak, some task, queue, token, parked, notified⟩).1,
            if inFlight < limit then .ready else .waiting, 0⟩ := by
        rcases calm with calm | calm <;> cases calm
        · cases booked with
          | clear => exact contend_leads limit inFlight peak task queue token
          | parked active | told active => cases active
        · cases booked with
          | clear active => cases active
          | parked => simp at unparked
          | told =>
              have woken : act .wake
                    ⟨⟨limit, inFlight, peak, some task, queue, token, [], [task]⟩, .waiting, 0⟩ =
                  ⟨⟨limit, inFlight, peak, some task, queue, token, [], []⟩, .ready, 0⟩ := by
                simp [act, wake]
              rw [play, woken, contend_leads]
              simp [Budget.contend]
      rw [played] at kept
      refine ⟨?_, ?_⟩
      · rw [played]
        refine ⟨kept, rfl, ?_⟩
        dsimp only
        split
        · exact .inl rfl
        · exact .inr rfl
      · rw [played]
  · exact ⟨rest, rfl⟩

theorem enter_leads (rest : admission.AtRest) (task : α) :
    Leads [.ask task] admission (admission.budget.enter task) :=
  ⟨⟨enter_kept rest.kept task, rest.told, rest.calm⟩, rfl⟩

theorem queueUp_leads (rest : admission.AtRest) (task : α) :
    Leads (Operation.queueUpActions task admission.budget) admission
      (admission.budget.queueUp task).1 :=
  let entered := enter_leads rest task
  let polled := poll_leads entered.rest task
  ⟨polled.rest, polled.same⟩

omit [DecidableEq α] in
theorem take_of_saturated {budget : Budget α} (saturated : budget.isSaturated = true) :
    budget.take? = none := by
  have full : budget.limit ≤ budget.inFlight := by simpa [Budget.isSaturated] using saturated
  simp [Budget.take?, Nat.not_lt.2 full]

theorem take_leads (rest : admission.AtRest) :
    Leads [.take] admission (admission.budget.take?.getD admission.budget) :=
  ⟨⟨take_kept rest.kept, rest.told, rest.calm⟩, rfl⟩

theorem acquire_leads (rest : admission.AtRest) (task : α) :
    Leads (Operation.actions (.acquire task) admission.budget) admission
      (admission.budget.acquire task).1 := by
  simp only [Operation.actions, Budget.acquire]
  split
  · next saturated =>
      rw [take_of_saturated saturated]
      exact queueUp_leads rest task
  · next free =>
      have room : admission.budget.inFlight < admission.budget.limit := by
        simpa [Budget.isSaturated] using free
      simpa [Budget.take?, room] using take_leads rest

theorem release_leads (rest : admission.AtRest) :
    Leads [.giveBack, .tell] admission admission.budget.release := by
  have kept := play_kept [.giveBack, .tell] rest.kept
  exact ⟨⟨kept, rest.told, rest.calm⟩, rfl⟩

theorem abandon_leads (rest : admission.AtRest) (task : α) :
    Leads [.quit task, .withdraw, .unlock] admission (admission.budget.abandon task) := by
  have kept := play_kept [.quit task, .withdraw, .unlock] rest.kept
  suffices (play [.quit task, .withdraw, .unlock] admission).untold = 0 ∧
      ((play [.quit task, .withdraw, .unlock] admission).stance = .ready ∨
        (play [.quit task, .withdraw, .unlock] admission).stance = .waiting) ∧
      (play [.quit task, .withdraw, .unlock] admission).budget = admission.budget.abandon task from
    ⟨⟨kept, this.1, this.2.1⟩, this.2.2⟩
  obtain ⟨⟨limit, inFlight, peak, holder, queue, token, parked, notified⟩, stance, untold⟩ :=
    admission
  obtain ⟨⟨booked, idle, owed⟩, told, calm⟩ := rest
  cases told
  by_cases locked : holder = some task
  · cases locked
    rcases calm with calm | calm <;> cases calm <;> cases booked <;> cases queue <;>
      simp_all [play, act, quit, withdraw, Budget.abandon, Budget.unlock, Budget.notify,
        Stance.mayBeClear, Stance.mayBeBooked]
  · rcases calm with calm | calm <;> cases calm <;> cases holder <;>
      simp_all [play, act, quit, Budget.abandon]

theorem operation_leads (rest : admission.AtRest) (operation : Operation α) :
    Leads (operation.actions admission.budget) admission (operation.run admission.budget) := by
  cases operation with
  | take => exact take_leads rest
  | release => exact release_leads rest
  | enter task => exact enter_leads rest task
  | poll task => exact poll_leads rest task
  | acquire task => exact acquire_leads rest task
  | queueUp task => exact queueUp_leads rest task
  | abandon task => exact abandon_leads rest task

omit [DecidableEq α] in
theorem ofLimit_atRest (limit : Nat) : (ofLimit limit : Admission α).AtRest :=
  ⟨ofLimit_kept limit, rfl, .inl rfl⟩

/-- Operations in any order are actions in some order. -/
theorem operations_lead (rest : admission.AtRest) (operations : List (Operation α)) :
    ∃ actions, Leads actions admission (Operation.runAll operations admission.budget) := by
  induction operations generalizing admission with
  | nil => exact ⟨[], rest, rfl⟩
  | cons operation later ih =>
      have first := operation_leads rest operation
      obtain ⟨actions, last⟩ := ih first.rest
      refine ⟨operation.actions admission.budget ++ actions, ?_, ?_⟩
      · rw [play_append]
        exact last.rest
      · rw [play_append, last.same, first.same]
        rfl

/-- Between two operations, a task is parked only while every slot is taken. -/
theorem parked_saturated (limit : Nat) (operations : List (Operation α)) (task : α)
    (parked : task ∈ (Operation.runAll operations (.ofLimit limit)).parked) :
    (Operation.runAll operations (.ofLimit limit)).isSaturated = true := by
  obtain ⟨actions, leads⟩ := operations_lead (ofLimit_atRest limit) operations
  have rest := leads.rest
  have same : (play actions (ofLimit limit)).budget = Operation.runAll operations (.ofLimit limit) :=
    leads.same
  rw [← same] at parked ⊢
  exact rest.saturated parked

/-- No wake-up is lost, in whatever order the actions come; and the operations of a budget are
actions in such an order. -/
theorem no_wake_up_lost (limit : Nat) (actions : List (Action α))
    (operations : List (Operation α)) :
    (play actions (ofLimit limit)).NoneLost ∧
      ∃ finer, (play finer (ofLimit limit)).untold = 0 ∧
        (play finer (ofLimit limit)).budget =
          Operation.runAll operations (.ofLimit limit) := by
  obtain ⟨finer, leads⟩ := operations_lead (ofLimit_atRest limit) operations
  exact ⟨(play_kept actions (ofLimit_kept limit)).noneLost, finer, leads.rest.told, leads.same⟩

end Admission

end StreamQuery.Dispatch
