import Mathlib
import StreamQuery.Proofs.Dispatch.Delivery
import StreamQuery.Proofs.Dispatch.Schedule
import StreamQuery.Proofs.Dispatch.Strides
/-!
# Retries of a stream

A stream whose response stops at a blank line in a time of full slots gives its slot back, waits for
a new one and sends its statement again, a limited number of times. The counts of what it does fit
the station where it stands, and from this it follows that the requests are few and that the error in
the end tells their number. A counter of 32 bits is behind it: with the largest number of retries
that there is, it wraps around, and the requests do not end.
-/

namespace StreamQuery.Dispatch

open Response Text

/-! ### Counts that fit a station -/

/-- The counts keep the order of what is counted, and are few. -/
structure Tally.Bounded (retries : Nat) (tally : Tally) : Prop where
  counted : tally.rebalances = tally.aborts
  aborted : tally.aborts ≤ tally.opened
  answered : tally.opened ≤ tally.sends
  sent : tally.sends ≤ tally.admissions
  again : tally.admissions ≤ tally.aborts + 1
  few : tally.admissions ≤ retries + 1

/-- What a station says of the counts. -/
def Station.Fits (retries : Nat) (tally : Tally) : Station → Prop
  | .waiting => tally.admissions = tally.aborts ∧ tally.aborts ≤ retries
  | .admitted => tally.sends = tally.aborts ∧ tally.admissions = tally.aborts + 1
  | .asking => tally.opened = tally.aborts ∧ tally.sends = tally.aborts + 1
  | .reading => tally.opened = tally.aborts + 1
  | .closing => tally.admissions = tally.aborts + 1 ∨ tally.aborts = retries + 1
  | .gone => True

/-- The counts of a stream fit where it stands, and its counter of attempts has kept up. -/
structure InStep (retries : Nat) (station : Station) (attempts : UInt32) (tally : Tally) : Prop where
  bounded : tally.Bounded retries
  fits : station.Fits retries tally
  attempts : attempts.toNat = tally.opened

theorem inStep_start (retries : Nat) : InStep retries .waiting 0 .zero where
  bounded := by constructor <;> simp [Tally.zero]
  fits := by simp [Station.Fits, Tally.zero]
  attempts := rfl

/-- The counter goes up by one where there is room for one more. -/
theorem toNat_next {attempts : UInt32} (room : attempts.toNat + 1 < UInt32.size) :
    (attempts + 1).toNat = attempts.toNat + 1 := by
  have size : UInt32.size = 2 ^ 32 := rfl
  rw [UInt32.toNat_add]
  exact Nat.mod_eq_of_lt (size ▸ room)

theorem Stride.inStep {retries attempts turned : UInt32} {station next : Station}
    {tally more : Tally} (stride : Stride retries attempts station next turned more)
    (room : retries.toNat + 1 < UInt32.size)
    (inStep : InStep retries.toNat station attempts tally) :
    InStep retries.toNat next turned (tally.add more) := by
  have up := @toNat_next attempts
  obtain ⟨⟨counted, aborted, answered, sent, again, few⟩, fits, same⟩ := inStep
  cases stride
  case stay => exact ⟨⟨counted, aborted, answered, sent, again, few⟩, fits, same⟩
  case leave => exact ⟨⟨counted, aborted, answered, sent, again, few⟩, trivial, same⟩
  case renounce => exact ⟨⟨counted, aborted, answered, sent, again, few⟩, trivial, same⟩
  case close holds =>
      have admitted : tally.admissions = tally.aborts + 1 := by
        rcases holds with rfl | rfl | rfl <;> simp only [Station.Fits] at fits <;> omega
      exact ⟨⟨counted, aborted, answered, sent, again, few⟩, .inl admitted, same⟩
  all_goals
    simp only [Station.Fits] at fits
    refine ⟨⟨?_, ?_, ?_, ?_, ?_, ?_⟩, ?_, ?_⟩ <;> simp only [Station.Fits, Tally.add] <;> omega

/-! ### One event -/

/-- An error that tells of used-up retries comes after the last of them and tells their number,
unless it is in a script. -/
def Owed (script : RequestError → Prop) (retries : Nat) (tally : Tally) (error : RequestError) :
    Prop :=
  ∀ attempts, error = .rebalanceExhausted attempts →
    script error ∨ attempts = retries + 1 ∧ tally.aborts = retries + 1

theorem Owed.add {script : RequestError → Prop} {retries : Nat} {tally more : Tally}
    (bounded : (tally.add more).Bounded retries) {error : RequestError}
    (owed : Owed script retries tally error) : Owed script retries (tally.add more) error := by
  intro attempts same
  refine (owed attempts same).imp_right ?_
  rintro ⟨number, aborts⟩
  obtain ⟨_, aborted, answered, sent, _, few⟩ := bounded
  have grown : tally.aborts ≤ (tally.add more).aborts := Nat.le_add_right _ _
  exact ⟨number, by omega⟩

theorem IsOfResponse.owed {script : RequestError → Prop} {retries : Nat} {tally : Tally}
    {error : RequestError} (cause : script error ∨ IsOfResponse error) :
    Owed script retries tally error := by
  rintro attempts rfl
  rcases cause with scripted | ordinary
  · exact .inl scripted
  · cases ordinary

/-- A stream is in step with what was counted and heard of it. -/
structure KeepsCount (index : Nat) (retries : UInt32) (script : RequestError → Prop)
    (dispatcher : Dispatcher) (tally : Tally) (written : Chronicle) : Prop where
  policy : dispatcher.policy.maxRebalanceRetries = retries
  scripts : ∀ error, dispatcher.transport.Scripts error → script error
  bounded : tally.Bounded retries.toNat
  missing : dispatcher.streams[index]? = none → tally = .zero
  inStep : ∀ task, dispatcher.streams[index]? = some task →
    InStep retries.toNat task.phase.station task.attempts tally
  owed : ∀ task, dispatcher.streams[index]? = some task →
    HandsOver (Owed script retries.toNat tally) task
  heard : ∀ error, some (.error error) ∈ written.heard → Owed script retries.toNat tally error

namespace Dispatcher

variable {index : Nat} {retries : UInt32} {script : RequestError → Prop} {dispatcher : Dispatcher}
  {tally : Tally} {written : Chronicle} {event : Event}

/-- What a step adds to the tally is seen from the task that took it. -/
theorem charge_turned {after : Dispatcher} {task turned : StreamTask}
    (found : dispatcher.streams[index]? = some task)
    (there : after.streams[index]? = some turned) :
    charge index dispatcher after =
      task.charge dispatcher turned after.transport after.statistics := by
  simp only [charge, StreamTask.charge, holds, found, there, Option.any_some]

theorem charge_missing (missing : dispatcher.streams[index]? = none) :
    charge index dispatcher dispatcher = .zero := by
  simp [charge, holds, missing, Tally.zero]

theorem steps_iff : event.steps index = true ↔ event = .step (.stream index) := by
  unfold Event.steps
  split
  · next place => simp
  · next other => simpa using fun same => other index same

theorem aborts_station {task : StreamTask} (aborts : dispatcher.aborts task = true) :
    task.phase.station = .reading := by
  by_contra other
  have elsewhere (reading : Reading) : task.phase ≠ .forwarding reading := by
    intro phase
    exact other (by simp [phase, StreamPhase.station])
  rw [dispatcher.aborts_elsewhere elsewhere] at aborts
  cases aborts

/-- The error of a stream whose retries are used up comes as the last of them is counted. -/
theorem owed_exhausted {task turned : StreamTask} {transport : Transport}
    {statistics : Statistics} (inStep : InStep retries.toNat task.phase.station task.attempts tally)
    (many : retries < task.attempts) (aborts : dispatcher.aborts task = true) :
    Owed script retries.toNat (tally.add (task.charge dispatcher turned transport statistics))
      (.rebalanceExhausted task.attempts.toNat) := by
  obtain ⟨⟨_, _, answered, sent, again, few⟩, fits, same⟩ := inStep
  have more := UInt32.lt_iff_toNat_lt.mp many
  rw [aborts_station aborts] at fits
  simp only [Station.Fits] at fits
  intro attempts equal
  cases equal
  refine .inr ⟨by omega, ?_⟩
  simp only [Tally.add, StreamTask.charge, aborts, Bool.toNat_true]
  omega

theorem turned_keepsCount {task : StreamTask} {after : Dispatcher}
    (room : retries.toNat + 1 < UInt32.size)
    (keeps : KeepsCount index retries script dispatcher tally written)
    (found : dispatcher.streams[index]? = some task)
    (turned : StreamTurned index task dispatcher after) :
    KeepsCount index retries script after (tally.add (charge index dispatcher after)) written := by
  obtain ⟨turned, budget, transport, statistics, ready, turn, rfl⟩ := turned
  have bound := (List.getElem?_eq_some_iff.mp found).1
  have there := List.getElem?_set_self (a := turned) bound
  rw [charge_turned found there]
  have inStep := keeps.inStep task found
  have stride := turn.stride
  rw [keeps.policy] at stride
  have next := stride.inStep room inStep
  refine ⟨keeps.policy, fun error script => keeps.scripts error (turn.scripts error script),
    next.bounded, ?_, ?_, ?_, fun error member => (keeps.heard error member).add next.bounded⟩
  · intro missing
    cases there.symm.trans missing
  · intro other same
    cases there.symm.trans same
    exact next
  · intro other same
    cases there.symm.trans same
    refine turn.handsOver ?_ ?_ ((keeps.owed task found).mono fun _ owed => owed.add next.bounded)
    · intro error cause
      exact IsOfResponse.owed (cause.imp_left (keeps.scripts error))
    · intro many aborts
      rw [keeps.policy] at many
      exact owed_exhausted inStep many aborts

/-- What happens to a stream besides its own steps leaves it where it stands. -/
theorem other_keepsCount {after : Dispatcher} (effect : Effect dispatcher event after)
    (other : event ≠ .step (.stream index))
    (keeps : KeepsCount index retries script dispatcher tally written) :
    KeepsCount index retries script after tally written := by
  have change := effect.streamChange index
  refine ⟨effect.policy ▸ keeps.policy,
    fun error script => keeps.scripts error (effect.scripts error script), keeps.bounded, ?_, ?_, ?_,
    keeps.heard⟩
  · intro missing
    rw [missing] at change
    generalize earlier : dispatcher.streams[index]? = task? at change
    cases change
    exact keeps.missing earlier
  · intro task found
    rw [found] at change
    generalize earlier : dispatcher.streams[index]? = task? at change
    cases change with
    | same => exact keeps.inStep task earlier
    | fresh =>
        rw [keeps.missing earlier]
        exact inStep_start _
    | turned cause turn => exact absurd cause other
    | @received task _ _ _ _ | @closed task _ | @dropped task _ => exact keeps.inStep task earlier
  · intro task found
    rw [found] at change
    exact change.handsOver keeps.owed fun _ _ cause => absurd cause other

theorem apply_keepsCount (room : retries.toNat + 1 < UInt32.size)
    (keeps : KeepsCount index retries script dispatcher tally written) :
    KeepsCount index retries script (dispatcher.apply event)
      (tallyAfter index event dispatcher tally)
      (observe index event dispatcher (dispatcher.apply event) written) := by
  have heard : KeepsCount index retries script dispatcher tally
      (observe index event dispatcher (dispatcher.apply event) written) := by
    refine { keeps with heard := fun error member => ?_ }
    rcases List.mem_append.mp member with earlier | now
    · exact keeps.heard error earlier
    · obtain ⟨task, found, kept⟩ := kept_of_hears now
      exact (keeps.owed task found).kept error kept
  unfold tallyAfter
  split
  · next own =>
      obtain rfl := steps_iff.mp own
      cases found : dispatcher.streams[index]? with
      | some task => exact turned_keepsCount room heard found (stepStream_turn found)
      | none =>
          have same : dispatcher.apply (.step (.stream index)) = dispatcher := by
            simp only [apply, step, stepStream, found]
          have added : tally.add .zero = tally := rfl
          simp only [same, charge_missing found, added] at heard ⊢
          exact heard
  · next other =>
      exact other_keepsCount (dispatcher.apply_effect event) (fun same => other (steps_iff.mpr same))
        heard

/-! ### Runs -/

theorem play_keepsCount (events : List Event) (room : retries.toNat + 1 < UInt32.size)
    (keeps : KeepsCount index retries script dispatcher tally written) :
    KeepsCount index retries script (dispatcher.play events)
      (dispatcher.tally index events tally) (dispatcher.chronicle index events written) := by
  induction events generalizing dispatcher tally written with
  | nil => exact keeps
  | cons event rest induction => exact induction (apply_keepsCount room keeps)

theorem start_keepsCount (policy : Policy) (slots : Nat) (transport : Transport) (index : Nat) :
    KeepsCount index policy.maxRebalanceRetries transport.Scripts (start policy slots transport)
      .zero .empty where
  policy := rfl
  scripts _ scripted := scripted
  bounded := (inStep_start _).bounded
  missing _ := rfl
  inStep task found := by cases found
  owed task found := by cases found
  heard error member := by cases member

end Dispatcher

/-- A slot is held from the admission on; before it, only for a stopped response. -/
theorem StreamTask.holds_station {task : StreamTask} (holds : task.holdsSlot = true) :
    task.phase = .releasing .backingOff ∨
      task.phase.station ≠ .waiting ∧ task.phase.station ≠ .gone := by
  unfold holdsSlot at holds
  cases phase : task.phase with
  | releasing departure => cases departure <;> simp [StreamPhase.station]
  | opening exchange _ | reopening exchange _ =>
      cases sent : exchange.isOpen <;> simp [StreamPhase.station, sent]
  | failing error held =>
      cases held with
      | none => simp [phase] at holds
      | some body => simp [StreamPhase.station]
  | forwarding | handing => simp [StreamPhase.station]
  | _ => simp [phase] at holds

/-- A stream that was stopped and has not sent its statement again, but may, has a slot only as long
as it gives that of the stopped response back, or once it was admitted anew. -/
theorem InStep.slot {retries : Nat} {task : StreamTask} {tally : Tally}
    (inStep : InStep retries task.phase.station task.attempts tally)
    (between : tally.sends = tally.aborts) (more : tally.aborts ≤ retries)
    (holds : task.holdsSlot = true) :
    task.phase = .releasing .backingOff ∨ tally.admissions = tally.aborts + 1 := by
  obtain ⟨⟨_, _, answered, _, _, _⟩, fits, _⟩ := inStep
  refine (StreamTask.holds_station holds).imp_right ?_
  rintro ⟨waits, goes⟩
  generalize task.phase.station = station at fits waits goes
  cases station with
  | waiting => exact absurd rfl waits
  | gone => exact absurd rfl goes
  | admitted => exact fits.2
  | asking | reading | closing =>
      simp only [Station.Fits] at fits
      omega

/-- What holds of the retries of a stream in a run. -/
structure RetriesBounded (retries : Nat) (origin : Dispatcher) (events : List Event) (index : Nat)
    (tally : Tally) : Prop where
  few : tally.sends ≤ retries + 1
  /-- The counter of attempts tells the number of responses, so it never wraps around. -/
  counter : ∀ task, (origin.play events).streams[index]? = some task →
    task.attempts.toNat = tally.opened
  /-- The statement is sent again only after all earlier responses were stopped. -/
  order : tally.aborts ≤ tally.opened ∧ tally.opened ≤ tally.sends ∧
    tally.sends ≤ tally.aborts + 1
  counted : tally.rebalances = tally.aborts
  /-- The error that tells of used-up retries comes once the last response was stopped, and tells
  how many were. -/
  exhausted : ∀ attempts,
    some (.error (.rebalanceExhausted attempts)) ∈ (origin.chronicle index events .empty).heard →
    ¬ origin.transport.Scripts (.rebalanceExhausted attempts) →
      attempts = retries + 1 ∧ tally.sends = retries + 1 ∧ tally.aborts = retries + 1 ∧
        tally.rebalances = retries + 1
  /-- A stopped stream that may send its statement again has no slot, apart from that of the stopped
  response until its next step, before it was admitted anew. -/
  slot : ∀ task, (origin.play events).streams[index]? = some task →
    tally.sends = tally.aborts → tally.aborts ≤ retries → task.holdsSlot = true →
      task.phase = .releasing .backingOff ∨ tally.admissions = tally.aborts + 1

/-- The retries of a stream are bounded, and told exactly, in all runs with less than the largest
number of retries. -/
theorem retries_bounded (policy : Policy) (slots : Nat) (transport : Transport)
    (events : List Event) (index : Nat)
    (room : policy.maxRebalanceRetries.toNat + 1 < UInt32.size) :
    RetriesBounded policy.maxRebalanceRetries.toNat (.start policy slots transport) events index
      ((Dispatcher.start policy slots transport).tally index events .zero) := by
  have keeps := Dispatcher.play_keepsCount events room
    (Dispatcher.start_keepsCount policy slots transport index)
  obtain ⟨counted, aborted, answered, sent, again, few⟩ := keeps.bounded
  refine ⟨by omega, fun task found => (keeps.inStep task found).attempts,
    ⟨aborted, answered, by omega⟩, counted, ?_, fun task found => (keeps.inStep task found).slot⟩
  intro attempts heard unscripted
  obtain ⟨number, aborts⟩ := (keeps.heard _ heard attempts rfl).resolve_left unscripted
  exact ⟨number, by omega, aborts, by omega⟩

/-- A response of one blank line, whose body then stays open. -/
def blankAnswer : Answer :=
  ⟨200, 0, ⟨[⟨#[lineFeed]⟩], 0, .held, none⟩⟩

def blankPost : Post :=
  ⟨"/query", "SELECT;"⟩

def blankStart (retries : UInt32) : Dispatcher :=
  .start ⟨1000, 0, retries, maximalBodySize, maximalLineLength⟩ 1
    (.ofScript [] (some (.answer blankAnswer)))

def blankEvents (steps : Nat) : List Event :=
  .openStream .background blankPost :: List.replicate steps (.step (.stream 0))

theorem blank_exhausts :
    (1 : UInt32).toNat + 1 < UInt32.size ∧
      ((blankStart 1).chronicle 0 (blankEvents 20 ++ [.receive 0]) .empty).heard =
        [some (.error (.rebalanceExhausted 2))] ∧
      ((blankStart 1).tally 0 (blankEvents 20 ++ [.receive 0]) .zero).sends = 2 := by
  have room : (1 : UInt32).toNat + 1 < UInt32.size := by decide
  have bounded := retries_bounded ⟨1000, 0, 1, maximalBodySize, maximalLineLength⟩ 1
    (.ofScript [] (some (.answer blankAnswer))) (blankEvents 20 ++ [.receive 0]) 0 room
  have heard : ((blankStart 1).chronicle 0 (blankEvents 20 ++ [.receive 0]) .empty).heard =
      [some (.error (.rebalanceExhausted 2))] := by
    cbv
  have unscripted : ¬ (blankStart 1).transport.Scripts (.rebalanceExhausted 2) := by
    simp [blankStart, Dispatcher.start, Transport.ofScript, Transport.Scripts]
  have exact := bounded.exhausted 2 (heard ▸ List.mem_singleton.mpr rfl) unscripted
  exact ⟨room, heard, exact.2.1⟩

/-! ### The largest number of retries -/

/-- The transport counts no request back. -/
theorem StreamTurn.sends_le {dispatcher : Dispatcher} {index : Nat} {task turned : StreamTask}
    {budget : Budget TaskId} {transport : Transport} {statistics : Statistics}
    (turn : StreamTurn dispatcher index task turned budget transport statistics) :
    dispatcher.transport.sends ≤ transport.sends := by
  have grows {exchange : Exchange}
      (sends : transport.sends = dispatcher.transport.sends + (!exchange.isOpen).toNat) :
      dispatcher.transport.sends ≤ transport.sends := by
    rw [sends]
    exact Nat.le_add_right _ _
  cases turn with
  | opening phase turn | reopening phase turn => exact grows turn.sends.2
  | refused phase cause =>
      rcases cause with ⟨_, _, rfl⟩ | failure
      · exact Nat.le_refl _
      · exact grows failure.sends
  | opened phase step success => exact grows (Dispatcher.exchangeStep_sends step)
  | reopenFailed phase failure other => exact grows failure.sends
  | reopenCancelled phase step => exact grows (Dispatcher.exchangeStep_sends step)
  | _ => exact Nat.le_refl _

namespace Dispatcher

theorem stepStream_sends_le (index : Nat) (dispatcher : Dispatcher) :
    dispatcher.transport.sends ≤ (dispatcher.stepStream index).1.transport.sends := by
  cases found : dispatcher.streams[index]? with
  | none =>
      simp only [stepStream, found]
      exact Nat.le_refl _
  | some task =>
      obtain ⟨_, _, _, _, _, turn, same⟩ := stepStream_turn found
      rw [same]
      exact turn.sends_le

/-- While only one stream takes steps, all requests are its own. -/
theorem tally_sends_alone (index steps : Nat) (dispatcher : Dispatcher) (tally : Tally) :
    (dispatcher.tally index (List.replicate steps (.step (.stream index))) tally).sends +
        dispatcher.transport.sends =
      tally.sends +
        (dispatcher.play (List.replicate steps (.step (.stream index)))).transport.sends := by
  induction steps generalizing dispatcher tally with
  | zero => rfl
  | succ steps induction =>
      have grows := dispatcher.stepStream_sends_le index
      have later := induction (dispatcher.apply (.step (.stream index)))
        (tallyAfter index (.step (.stream index)) dispatcher tally)
      have counted : (tallyAfter index (.step (.stream index)) dispatcher tally).sends =
          tally.sends + ((dispatcher.stepStream index).1.transport.sends -
            dispatcher.transport.sends) := by
        rw [tallyAfter, if_pos (steps_iff.mpr rfl)]
        rfl
      have next : (dispatcher.apply (.step (.stream index))).transport.sends =
        (dispatcher.stepStream index).1.transport.sends := rfl
      simp only [List.replicate_succ, Dispatcher.tally, play]
      omega

end Dispatcher

/-- No counter of attempts exceeds the largest number of retries. -/
theorem not_most_lt (attempts : UInt32) : ¬ (4294967295 : UInt32) < attempts := by
  rw [UInt32.lt_iff_toNat_lt]
  exact Nat.not_lt.mpr (Nat.le_of_lt_succ attempts.toNat_lt)

def fullBudget : Budget TaskId :=
  ⟨1, 1, 1, none, [], false, [], []⟩

/-- A stream over a transport of blank answers, with the largest number of retries. -/
def blankLoop (phase : StreamPhase) (attempts : UInt32) (sends : Nat) (posts : List Post)
    (statistics : Statistics) : Dispatcher where
  policy := ⟨1000, 0, 4294967295, maximalBodySize, maximalLineLength⟩
  now := 0
  budget := fullBudget
  cancellation := .empty
  transport := ⟨[], some (.answer blankAnswer), sends, 0, posts⟩
  requests := []
  streams := [⟨.background, blankPost, phase, attempts, .empty⟩]
  statistics := statistics
  ready := [.stream 0]

/-- The blank line has arrived and is read next. -/
def blankReading : Reading :=
  ⟨⟨[], 0, .held, none⟩, LineBuffer.empty.feed ⟨#[lineFeed]⟩⟩

section Loop

variable (attempts : UInt32) (sends : Nat) (posts : List Post) (statistics : Statistics)

theorem blankLoop_reads :
    (blankLoop (.reopening .unsent 1000) attempts sends posts statistics).play
        (List.replicate 3 (.step (.stream 0))) =
      blankLoop (.forwarding blankReading) (attempts + 1) (sends + 1)
        (blankPost :: posts) statistics.countStream :=
  rfl

theorem blankLoop_aborts :
    (blankLoop (.forwarding blankReading) attempts sends posts statistics).play
        [.step (.stream 0)] =
      blankLoop (.releasing .backingOff) attempts sends posts statistics.countRebalance := by
  have next : blankReading.lines.take maximalLineLength = .line "" ⟨[], [⟨#[]⟩], 0, false⟩ := by
    cbv
  have blank : isBlankText "" = true := by cbv
  have full : fullBudget.isSaturated = true := rfl
  have calm : Cancellation.empty.isCancelled .background = false := rfl
  have early : Context.background.isExpired 0 = false := rfl
  have listening : (Channel.empty : Channel (Except RequestError String)).isListening = true := rfl
  simp only [Dispatcher.play, Dispatcher.apply, Dispatcher.step, Dispatcher.stepStream, blankLoop,
    Dispatcher.isCancelled, Dispatcher.isExpired, Dispatcher.stepReading, Dispatcher.stepLine,
    Dispatcher.rebalance, Dispatcher.count, List.getElem?_cons_zero, calm, early, listening, next,
    blank, full, not_most_lt attempts]
  rfl

theorem blankLoop_readmitted :
    (blankLoop (.releasing .backingOff) attempts sends posts statistics).play
        (List.replicate 2 (.step (.stream 0))) =
      blankLoop (.reopening .unsent 1000) attempts sends posts statistics := by
  rfl

/-- After six steps the stream is where it was, and has sent its statement once more. -/
theorem blankLoop_turns :
    (blankLoop (.reopening .unsent 1000) attempts sends posts statistics).play
        (List.replicate 6 (.step (.stream 0))) =
      blankLoop (.reopening .unsent 1000) (attempts + 1) (sends + 1)
        (blankPost :: posts) statistics.countStream.countRebalance := by
  have split : List.replicate 6 (Event.step (.stream 0)) =
      List.replicate 3 (.step (.stream 0)) ++
        ([.step (.stream 0)] ++ List.replicate 2 (.step (.stream 0))) := rfl
  rw [split, Dispatcher.play_append, blankLoop_reads, Dispatcher.play_append, blankLoop_aborts,
    blankLoop_readmitted]

end Loop

/-- With the largest number of retries a stream sends its statement as often as one likes. -/
theorem blank_sends (turns : Nat) :
    ∃ posts statistics, (blankStart 4294967295).play (blankEvents (7 + 6 * turns)) =
      blankLoop (.reopening .unsent 1000) (UInt32.ofNat (turns + 1)) (turns + 1) posts
        statistics := by
  induction turns with
  | zero => exact ⟨[blankPost], ⟨0, 1, 1, 0, 0⟩, by cbv⟩
  | succ turns induction =>
      obtain ⟨posts, statistics, before⟩ := induction
      have longer : blankEvents (7 + 6 * (turns + 1)) =
          blankEvents (7 + 6 * turns) ++ List.replicate 6 (.step (.stream 0)) := by
        simp [blankEvents, Nat.mul_succ, ← Nat.add_assoc, List.replicate_add]
      have next : UInt32.ofNat (turns + 1) + 1 = UInt32.ofNat (turns + 1 + 1) :=
        (UInt32.ofNat_add (turns + 1) 1).symm
      rw [longer, Dispatcher.play_append, before, blankLoop_turns, next]
      exact ⟨_, _, rfl⟩

theorem blank_tally (turns : Nat) :
    ((blankStart 4294967295).tally 0 (blankEvents (7 + 6 * turns)) .zero).sends = turns + 1 := by
  obtain ⟨posts, statistics, after⟩ := blank_sends turns
  have sends := congrArg (fun dispatcher => dispatcher.transport.sends) after
  have own := Dispatcher.tally_sends_alone 0 (7 + 6 * turns)
    ((blankStart 4294967295).apply (.openStream .background blankPost)) .zero
  exact own.trans ((Nat.zero_add _).trans sends)

/-- With the largest number of retries the counter of attempts wraps around, and the statement is
sent more often than the retries allow. -/
theorem most_retries_exceeded :
    ¬ RetriesBounded (4294967295 : UInt32).toNat (blankStart 4294967295)
      (blankEvents (7 + 6 * 4294967296)) 0
      ((blankStart 4294967295).tally 0 (blankEvents (7 + 6 * 4294967296)) .zero) := by
  intro bounded
  have few := bounded.few
  rw [blank_tally] at few
  exact absurd few (by decide)

end StreamQuery.Dispatch
