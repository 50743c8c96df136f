import StreamQuery.Proofs.Dispatch.Chronicle
import StreamQuery.Proofs.Dispatch.SlotAccounts
/-!
# From request to request

What a stream does is counted from outside, one step after the other: what it sends, what it begins
to read, what it leaves at a blank line, and the slots that it takes. From one request to the next it
passes the same stations in the same order, and what a step adds to the counts goes with the stations
that it leads between.
-/

namespace StreamQuery.Dispatch

open Response Text

/-- What a stream has done so far. -/
structure Tally where
  /-- How often its statement was sent. -/
  sends : Nat
  /-- How many responses it began to read. -/
  opened : Nat
  /-- How many of them it left at a blank line, as all slots were in use. -/
  aborts : Nat
  /-- What it added to the rebalances in the statistics. -/
  rebalances : Nat
  /-- How often it took a slot. -/
  admissions : Nat

namespace Tally

def zero : Tally :=
  ⟨0, 0, 0, 0, 0⟩

def add (tally more : Tally) : Tally where
  sends := tally.sends + more.sends
  opened := tally.opened + more.opened
  aborts := tally.aborts + more.aborts
  rebalances := tally.rebalances + more.rebalances
  admissions := tally.admissions + more.admissions

end Tally

namespace Dispatcher

/-- What one step of a stream adds to its tally. -/
def charge (index : Nat) (before after : Dispatcher) : Tally where
  sends := after.transport.sends - before.transport.sends
  opened := after.statistics.streamsOpened - before.statistics.streamsOpened
  aborts := ((before.streams[index]?).any before.aborts).toNat
  rebalances := after.statistics.rebalances - before.statistics.rebalances
  admissions := (!before.holds (.stream index) && after.holds (.stream index)).toNat

/-- The tally of a stream after one event. -/
def tallyAfter (index : Nat) (event : Event) (before : Dispatcher) (tally : Tally) : Tally :=
  if event.steps index then tally.add (charge index before (before.apply event)) else tally

/-- The tally of a stream after some events. -/
def tally (index : Nat) : List Event → Dispatcher → Tally → Tally
  | [], _, counted => counted
  | event :: rest, dispatcher, counted =>
      tally index rest (dispatcher.apply event) (tallyAfter index event dispatcher counted)

end Dispatcher

/-! ### Stations -/

/-- Where a stream stands with its next request. -/
inductive Station where
  /-- It has no slot for the request, and may have that of the last one to give back. -/
  | waiting
  | admitted
  | asking
  | reading
  /-- It sends no more, and has a slot to give back. -/
  | closing
  | gone
  deriving DecidableEq

def StreamPhase.station : StreamPhase → Station
  | .starting | .releasing .backingOff | .backingOff _ | .readmitting => .waiting
  | .opening exchange _ | .reopening exchange _ =>
      if exchange.isOpen then .asking else .admitted
  | .forwarding _ | .handing .. => .reading
  | .failing _ (some _) | .releasing _ => .closing
  | .refused _ | .failing _ none | .departing | .ended => .gone

/-- What one step adds, by the stations that it leads between and by the counter of attempts. -/
inductive Stride (retries attempts : UInt32) : Station → Station → UInt32 → Tally → Prop where
  | stay {station} : Stride retries attempts station station attempts ⟨0, 0, 0, 0, 0⟩
  | enter : Stride retries attempts .waiting .admitted attempts ⟨0, 0, 0, 0, 1⟩
  | renounce : Stride retries attempts .waiting .gone attempts ⟨0, 0, 0, 0, 0⟩
  | send : Stride retries attempts .admitted .asking attempts ⟨1, 0, 0, 0, 0⟩
  | sendVainly : Stride retries attempts .admitted .closing attempts ⟨1, 0, 0, 0, 0⟩
  | read : Stride retries attempts .asking .reading (attempts + 1) ⟨0, 1, 0, 0, 0⟩
  | abort (few : attempts.toNat ≤ retries.toNat) :
      Stride retries attempts .reading .waiting attempts ⟨0, 0, 1, 1, 0⟩
  | exhaust (many : retries.toNat < attempts.toNat) :
      Stride retries attempts .reading .closing attempts ⟨0, 0, 1, 1, 0⟩
  | close {station} (holds : station = .admitted ∨ station = .asking ∨ station = .reading) :
      Stride retries attempts station .closing attempts ⟨0, 0, 0, 0, 0⟩
  | leave : Stride retries attempts .closing .gone attempts ⟨0, 0, 0, 0, 0⟩

/-! ### One step -/

section Steps

variable {dispatcher : Dispatcher} {index : Nat} {post : Post} {exchange : Exchange}
  {transport : Transport}

theorem Transport.send_sends (post : Post) (transport : Transport) :
    (transport.send post).2.sends = transport.sends + 1 := by
  unfold send next?
  simp only
  cases transport.queue with
  | nil => cases transport.standing with
    | none => rfl
    | some scripted => cases scripted <;> rfl
  | cons scripted rest => cases scripted <;> rfl

/-- An exchange sends its request first of all, and once. -/
theorem Dispatcher.exchangeStep_sends {step : ExchangeStep}
    (stepped : dispatcher.exchangeStep post exchange = (step, transport)) :
    transport.sends = dispatcher.transport.sends + (!exchange.isOpen).toNat := by
  unfold exchangeStep Exchange.step at stepped
  cases exchange with
  | unsent =>
      have sent := dispatcher.transport.send_sends post
      simp only at stepped
      split at stepped <;> cases stepped <;> exact sent
  | awaitingHead answer due =>
      simp only at stepped
      split at stepped <;> cases stepped <;> rfl
  | collecting status body collected =>
      cases stepped
      rfl

/-- An exchange that goes on, or waits, has sent its request. -/
theorem Dispatcher.exchangeStep_isOpen {step : ExchangeStep} {next : Exchange}
    (stepped : dispatcher.exchangeStep post exchange = (step, transport))
    (goesOn : step = .onward next ∨ step = .blocked next) : next.isOpen = true := by
  unfold exchangeStep Exchange.step at stepped
  cases exchange with
  | unsent =>
      simp only at stepped
      split at stepped <;> cases stepped <;> rcases goesOn with same | same <;> cases same
      rfl
  | awaitingHead answer due =>
      simp only at stepped
      split at stepped <;> cases stepped <;> rcases goesOn with same | same <;> cases same
      rfl
  | collecting status body collected =>
      cases stepped
      unfold Exchange.collect at goesOn
      split at goesOn
      · split at goesOn <;> rcases goesOn with same | same <;> cases same
        rfl
      all_goals rcases goesOn with same | same <;> cases same
      rfl

/-- A response has a head only after the request was sent. -/
theorem Dispatcher.exchangeStep_head_isOpen {status : Nat} {body : Body}
    (stepped : dispatcher.exchangeStep post exchange = (.head status body, transport)) :
    exchange.isOpen = true := by
  cases exchange with
  | unsent =>
      simp only [exchangeStep, Exchange.step] at stepped
      split at stepped <;> cases stepped
  | _ => rfl

theorem ExchangeTurn.sends {next : Exchange}
    (turn : ExchangeTurn dispatcher post exchange next transport) :
    next.isOpen = true ∧
      transport.sends = dispatcher.transport.sends + (!exchange.isOpen).toNat := by
  cases turn with
  | onward step =>
      exact ⟨Dispatcher.exchangeStep_isOpen step (.inl rfl), Dispatcher.exchangeStep_sends step⟩
  | blocked step =>
      exact ⟨Dispatcher.exchangeStep_isOpen step (.inr rfl), Dispatcher.exchangeStep_sends step⟩
  | rejected step failure => exact ⟨rfl, Dispatcher.exchangeStep_sends step⟩

theorem ExchangeFailure.sends {deadline : Nat} {error : RequestError}
    (failure : ExchangeFailure dispatcher post exchange deadline error transport) :
    transport.sends = dispatcher.transport.sends + (!exchange.isOpen).toNat := by
  cases failure with
  | failed step | rejected step | late step due => exact Dispatcher.exchangeStep_sends step

end Steps

namespace Dispatcher

variable (dispatcher : Dispatcher) {task : StreamTask}

theorem aborts_elsewhere (elsewhere : ∀ reading, task.phase ≠ .forwarding reading) :
    dispatcher.aborts task = false := by
  have unmet : dispatcher.meetsBlank task = false := by
    unfold meetsBlank
    split
    · next reading phase => exact absurd phase (elsewhere reading)
    · rfl
  simp [aborts, unmet]

theorem aborts_other {reading : Reading} {found : NextLine} (phase : task.phase = .forwarding reading)
    (next : NextIs dispatcher reading found)
    (other : ∀ line rest, found = .line line rest → isBlankText line = false) :
    dispatcher.aborts task = false := by
  have unmet : dispatcher.meetsBlank task = false := by
    unfold NextIs at next
    simp only [meetsBlank, phase, next]
    cases found with
    | line line rest => exact other line rest rfl
    | _ => rfl
  simp [aborts, unmet]

theorem aborts_gone (gone : dispatcher.Gone task) : dispatcher.aborts task = false := by
  rcases gone with cancelled | left
  · simp [aborts, cancelled]
  · simp [aborts, left]

theorem aborts_late (late : dispatcher.isExpired task.context = true) :
    dispatcher.aborts task = false := by
  simp [aborts, late]

theorem aborts_free (task : StreamTask) (free : dispatcher.budget.isSaturated = false) :
    dispatcher.aborts task = false := by
  simp [aborts, free]

end Dispatcher

/-- What a step of a stream adds to its tally, by what the step does. -/
def StreamTask.charge (before : Dispatcher) (task turned : StreamTask) (transport : Transport)
    (statistics : Statistics) : Tally where
  sends := transport.sends - before.transport.sends
  opened := statistics.streamsOpened - before.statistics.streamsOpened
  aborts := (before.aborts task).toNat
  rebalances := statistics.rebalances - before.statistics.rebalances
  admissions := (!task.holdsSlot && turned.holdsSlot).toNat

section Asking

variable {retries attempts : UInt32} (exchange : Exchange)

/-- A request may be given up before it is sent, and while its response is awaited. -/
theorem Stride.giveUp :
    Stride retries attempts (if exchange.isOpen then .asking else .admitted) .closing attempts
      ⟨0, 0, 0, 0, 0⟩ := by
  refine .close ?_
  split
  · exact .inr (.inl rfl)
  · exact .inl rfl

/-- A request that fails was sent, at the latest in the step in which it fails. -/
theorem Stride.fail (sends : Nat) :
    Stride retries attempts (if exchange.isOpen then .asking else .admitted) .closing attempts
      ⟨sends + (!exchange.isOpen).toNat - sends, 0, 0, 0, 0⟩ := by
  rw [Nat.add_sub_cancel_left]
  cases exchange.isOpen with
  | true => exact .close (.inr (.inl rfl))
  | false => exact .sendVainly

/-- A request that goes on was sent, at the latest in the step in which it goes on. -/
theorem Stride.ask (sends : Nat) :
    Stride retries attempts (if exchange.isOpen then .asking else .admitted) .asking attempts
      ⟨sends + (!exchange.isOpen).toNat - sends, 0, 0, 0, 0⟩ := by
  rw [Nat.add_sub_cancel_left]
  cases exchange.isOpen with
  | true => exact .stay
  | false => exact .send

end Asking

theorem StreamTurn.stride {dispatcher : Dispatcher} {index : Nat} {task turned : StreamTask}
    {budget : Budget TaskId} {transport : Transport} {statistics : Statistics}
    (turn : StreamTurn dispatcher index task turned budget transport statistics) :
    Stride dispatcher.policy.maxRebalanceRetries task.attempts task.phase.station
      turned.phase.station turned.attempts
      (task.charge dispatcher turned transport statistics) := by
  have elsewhere := @Dispatcher.aborts_elsewhere dispatcher task
  unfold StreamTask.charge
  cases turn with
  | rest waits => simpa [elsewhere waits] using Stride.stay
  | declined phase cause =>
      have quiet := elsewhere (by simp [phase])
      have same : statistics.streamsOpened = dispatcher.statistics.streamsOpened ∧
          statistics.rebalances = dispatcher.statistics.rebalances := by
        rcases cause with ⟨_, _, rfl⟩ | ⟨_, _, rfl⟩ <;> exact ⟨rfl, rfl⟩
      simpa [quiet, same, phase, StreamTask.holdsSlot, StreamPhase.station] using Stride.renounce
  | admitted phase took bound =>
      have quiet := elsewhere (by simp [phase])
      simpa [quiet, phase, StreamTask.holdsSlot, StreamPhase.station, Exchange.isOpen] using
        Stride.enter
  | @opening exchange _ _ _ phase turn | @reopening exchange _ _ _ phase turn =>
      have quiet := elsewhere (by simp [phase])
      obtain ⟨isOpen, sends⟩ := turn.sends
      simpa [quiet, sends, phase, StreamTask.holdsSlot, StreamPhase.station, isOpen] using
        Stride.ask exchange dispatcher.transport.sends
  | @refused exchange _ _ _ phase cause =>
      have quiet := elsewhere (by simp [phase])
      rcases cause with ⟨_, _, rfl⟩ | failure
      · simpa [quiet, phase, StreamTask.holdsSlot, StreamPhase.station] using
          Stride.giveUp exchange
      · simpa [quiet, failure.sends, phase, StreamTask.holdsSlot, StreamPhase.station] using
          Stride.fail exchange dispatcher.transport.sends
  | opened phase step success =>
      have isOpen := Dispatcher.exchangeStep_head_isOpen step
      have sends := Dispatcher.exchangeStep_sends step
      rcases phase with phase | phase
      all_goals
        have quiet := elsewhere (by simp [phase])
        simpa [quiet, phase, StreamTask.holdsSlot, StreamPhase.station, isOpen, sends,
          Statistics.countStream] using Stride.read
  | left phase gone =>
      have quiet := dispatcher.aborts_gone gone
      rcases phase with ⟨reading, phase⟩ | ⟨line, reading, phase⟩ | ⟨exchange, deadline, phase⟩
      · simpa [quiet, phase, StreamTask.holdsSlot, StreamPhase.station] using
          Stride.close (by simp)
      · simpa [quiet, phase, StreamTask.holdsSlot, StreamPhase.station] using
          Stride.close (by simp)
      · simpa [quiet, phase, StreamTask.holdsSlot, StreamPhase.station] using
          Stride.giveUp exchange
  | leftWait waiver gone =>
      have quiet := dispatcher.aborts_gone gone
      cases waiver with
      | resting phase | queued phase =>
          simpa [quiet, phase, StreamTask.holdsSlot, StreamPhase.station] using Stride.renounce
  | expired phase late =>
      have quiet := dispatcher.aborts_late late
      rcases phase with phase | ⟨line, phase⟩
      all_goals
        simpa [quiet, phase, StreamTask.holdsSlot, StreamPhase.station] using
          Stride.close (by simp)
  | expiredWait waiver late =>
      have quiet := dispatcher.aborts_late late
      cases waiver with
      | resting phase | queued phase =>
          simpa [quiet, phase, StreamTask.holdsSlot, StreamPhase.station] using Stride.renounce
  | skipped phase next blank free =>
      have quiet := dispatcher.aborts_free task free
      simpa [quiet, phase, StreamTask.holdsSlot, StreamPhase.station] using Stride.stay
  | rebalanced phase next blank full few wanted early =>
      have aborts := dispatcher.aborts_of_blank phase next blank full wanted early
      simpa [aborts, phase, StreamTask.holdsSlot, StreamPhase.station,
        Statistics.countRebalance] using
        Stride.abort (UInt32.le_iff_toNat_le.mp few)
  | exhausted phase next blank full many wanted early =>
      have aborts := dispatcher.aborts_of_blank phase next blank full wanted early
      simpa [aborts, phase, StreamTask.holdsSlot, StreamPhase.station,
        Statistics.countRebalance] using
        Stride.exhaust (UInt32.lt_iff_toNat_lt.mp many)
  | marked phase next content marker =>
      have quiet := dispatcher.aborts_other phase next (by simpa using content)
      simpa [quiet, phase, StreamTask.holdsSlot, StreamPhase.station] using
        Stride.close (by simp)
  | forwarded phase next payload listening room | stalled phase next payload crowded =>
      have quiet := dispatcher.aborts_other phase next (by simpa using payload.1)
      simpa [quiet, phase, StreamTask.holdsSlot, StreamPhase.station] using Stride.stay
  | handed phase listening room =>
      have quiet := elsewhere (by simp [phase])
      simpa [quiet, phase, StreamTask.holdsSlot, StreamPhase.station] using Stride.stay
  | overlong phase next | finished phase next =>
      have quiet := dispatcher.aborts_other phase next (by simp)
      simpa [quiet, phase, StreamTask.holdsSlot, StreamPhase.station] using
        Stride.close (by simp)
  | fed phase asked | drained phase asked | awaited phase asked =>
      have quiet := dispatcher.aborts_other phase asked.1 (by simp)
      simpa [quiet, phase, StreamTask.holdsSlot, StreamPhase.station] using Stride.stay
  | broken phase asked =>
      have quiet := dispatcher.aborts_other phase asked.1 (by simp)
      simpa [quiet, phase, StreamTask.holdsSlot, StreamPhase.station] using
        Stride.close (by simp)
  | readmitted inquiry granted bound =>
      cases inquiry with
      | queue phase due | again phase =>
          have quiet := elsewhere (by simp [phase])
          simpa [quiet, phase, StreamTask.holdsSlot, StreamPhase.station, Exchange.isOpen] using
            Stride.enter
  | queued inquiry granted =>
      cases inquiry with
      | queue phase due | again phase =>
          have quiet := elsewhere (by simp [phase])
          simpa [quiet, phase, StreamTask.holdsSlot, StreamPhase.station] using Stride.stay
  | @reopenFailed exchange _ _ _ phase failure other =>
      have quiet := elsewhere (by simp [phase])
      simpa [quiet, failure.sends, phase, StreamTask.holdsSlot, StreamPhase.station] using
        Stride.fail exchange dispatcher.transport.sends
  | @reopenCancelled exchange _ _ phase step =>
      have quiet := elsewhere (by simp [phase])
      have sends := Dispatcher.exchangeStep_sends step
      simpa [quiet, sends, phase, StreamTask.holdsSlot, StreamPhase.station] using
        Stride.fail exchange dispatcher.transport.sends
  | @deserted _ held _ failing gone leaves | @failed _ held _ failing listening room leaves =>
      have quiet := elsewhere (by simp [failing])
      subst leaves
      cases held <;>
        simpa [quiet, failing, StreamTask.holdsSlot, StreamPhase.station] using Stride.stay
  | @released departure phase =>
      have quiet := elsewhere (by simp [phase])
      cases departure with
      | backingOff =>
          simpa [quiet, phase, Departure.phase, StreamTask.holdsSlot, StreamPhase.station] using
            Stride.stay
      | refused error | failing error | departing =>
          simpa [quiet, phase, Departure.phase, StreamTask.holdsSlot, StreamPhase.station] using
            Stride.leave
  | ended phase =>
      have quiet := elsewhere (by simp [phase])
      simpa [quiet, phase, StreamTask.holdsSlot, StreamPhase.station] using Stride.stay

end StreamQuery.Dispatch
