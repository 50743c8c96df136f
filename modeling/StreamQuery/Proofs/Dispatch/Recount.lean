import StreamQuery.Proofs.Dispatch.Chronicle
import StreamQuery.Proofs.Dispatch.Reading
/-!
# Accounts of a stream

At every moment the attempts of a stream fit its phase: while it reads, the latest attempt is still
running; between two attempts all of them have stopped at a blank line; and as it leaves, the latest
attempt says why. A step of the stream changes the account and the channel together.
-/

namespace StreamQuery.Dispatch

open Response Text

/-- What a stream passes to its channel. -/
abbrev Item := Except RequestError String

/-- All that was passed to the channel. -/
def sent (attempts : List Attempt) (errors : List RequestError) : List Item :=
  (delivered attempts).map .ok ++ errors.map .error

/-- What a phase says of the attempts of a stream. -/
inductive Stage where
  | unopened
  | reading (pending : Option String) (reading : Reading)
  | between
  | failing (error : RequestError)
  | leaving

def StreamPhase.stage : StreamPhase → Stage
  | .starting | .opening .. | .refused _ | .releasing (.refused _) => .unopened
  | .forwarding reading => .reading none reading
  | .handing line reading => .reading (some line) reading
  | .backingOff _ | .readmitting | .reopening .. | .releasing .backingOff => .between
  | .failing error _ | .releasing (.failing error) => .failing error
  | .releasing .departing | .departing | .ended => .leaving

/-- What a stream reads from at a stage. -/
def Stage.reading? : Stage → Option Reading
  | .reading _ source => some source
  | _ => none

def AllSaturated (attempts : List Attempt) : Prop :=
  ∀ attempt ∈ attempts, attempt.stop = some .saturated

/-- The attempts and the errors that fit a stage. -/
inductive Stands (limit : Nat) (disturbed : Bool) :
    Stage → List Attempt → List RequestError → Prop where
  | unopened : Stands limit disturbed .unopened [] []
  | reading {pending reading body seen earlier}
      (reads : ReadsFrom body (seen ++ Option.toList pending) reading)
      (payload : ∀ line, pending = some line → IsPayload line) (before : AllSaturated earlier) :
      Stands limit disturbed (.reading pending reading) (⟨body, seen, pending, none⟩ :: earlier)
        []
  | between {last earlier} (before : AllSaturated (last :: earlier)) :
      Stands limit disturbed .between (last :: earlier) []
  | failing {error stop last earlier} (stopped : last.stop = some stop)
      (outcome : Outcome limit stop [error] ∨ disturbed = true) (before : AllSaturated earlier) :
      Stands limit disturbed (.failing error) (last :: earlier) []
  | leaving {errors stop last earlier} (stopped : last.stop = some stop)
      (outcome : Outcome limit stop errors ∨ disturbed = true) (few : errors.length ≤ 1)
      (before : AllSaturated earlier) :
      Stands limit disturbed .leaving (last :: earlier) errors

/-- The stages that a stream comes to as it stops to read. -/
inductive Parts (limit : Nat) (disturbed : Bool) (stop : Stop) : Stage → Prop where
  | between (saturated : stop = .saturated) : Parts limit disturbed stop .between
  | failing {error} (outcome : Outcome limit stop [error] ∨ disturbed = true) :
      Parts limit disturbed stop (.failing error)
  | leaving (outcome : Outcome limit stop [] ∨ disturbed = true) :
      Parts limit disturbed stop .leaving

/-- What a step does to a channel, and to all that was passed to it. -/
inductive Sends (channel : Channel Item) (before : List Item) :
    Channel Item → List Item → Prop where
  | nothing : Sends channel before channel before
  | ending : Sends channel before channel.finish before
  | item {item} (listening : channel.isListening = true) (running : channel.finished = false) :
      Sends channel before (channel.push item) (before ++ [item])

/-- Attempts and errors after a step of a stream. -/
structure Recount (limit : Nat) (disturbed full : Bool) (task turned : StreamTask)
    (sightings : List Sighting) (before after : List Attempt × List RequestError) : Prop where
  records : List.Forall₂ (Attempt.Records limit) after.1
    (sight full task.reading? turned.reading? sightings)
  stands : Stands limit disturbed turned.phase.stage after.1 after.2
  sends : Sends task.channel (sent before.1 before.2) turned.channel (sent after.1 after.2)

/-! ### Records -/

namespace Attempt.Records

variable {limit : Nat} {body : Body} {seen : List String} {pending : Option String}
  {sighting : Sighting}

theorem begin (limit : Nat) (body : Body) :
    Records limit ⟨body, [], none, none⟩ ⟨body, .ofBody body, none⟩ where
  body := rfl
  reads := ReadsFrom.ofBody body
  unmarked line member := by cases member
  waiting some := absurd rfl some
  running := by simp
  stops stop stopped := by cases stopped
  full stopped := by cases stopped

/-- The stream reads on, and has dealt with the same lines. -/
theorem moved {next : Reading} {later : Option String}
    (records : Records limit ⟨body, seen, pending, none⟩ sighting)
    (reads : ReadsFrom body (seen ++ later.toList) next) :
    Records limit ⟨body, seen, later, none⟩ { sighting with left := next } where
  body := records.body
  reads := reads
  unmarked := records.unmarked
  waiting _ := .inl rfl
  running := records.running
  stops stop stopped := by cases stopped
  full stopped := by cases stopped

/-- The stream has dealt with one line more. -/
theorem extend {line : String} {next : Reading}
    (records : Records limit ⟨body, seen, pending, none⟩ sighting)
    (reads : ReadsFrom body (seen ++ [line]) next)
    (passed : isBlankText line = true ∨ IsPayload line) :
    Records limit ⟨body, seen ++ [line], none, none⟩ { sighting with left := next } where
  body := records.body
  reads := by simpa using reads
  unmarked other member := by
    rcases List.mem_append.mp member with member | member
    · exact records.unmarked other member
    · rw [List.mem_singleton.mp member]
      exact passed
  waiting some := absurd rfl some
  running := records.running
  stops stop stopped := by cases stopped
  full stopped := by cases stopped

theorem close {stop : Stop} {full : Bool}
    (records : Records limit ⟨body, seen, pending, none⟩ sighting)
    (stops : Stops limit ⟨body, seen, pending, some stop⟩ stop)
    (given : pending = none ∨ stop = .interrupted) (saturated : stop = .saturated → full = true) :
    Records limit ⟨body, seen, pending, some stop⟩ { sighting with full := some full } where
  body := records.body
  reads := records.reads
  unmarked := records.unmarked
  waiting some := by
    rcases given with none | interrupted
    · exact absurd none some
    · exact .inr (congrArg Option.some interrupted)
  running := by simp
  stops other same := by
    cases same
    exact stops
  full same := by
    cases same
    rw [saturated rfl]

end Attempt.Records

theorem delivered_blank {body : Body} {seen : List String} {pending : Option String}
    {line : String} {earlier : List Attempt} (blank : isBlankText line = true) :
    delivered (⟨body, seen ++ [line], none, none⟩ :: earlier) =
      delivered (⟨body, seen, pending, none⟩ :: earlier) := by
  simp [delivered, Attempt.payload, blank]

theorem delivered_line {body : Body} {seen : List String} {pending : Option String}
    {line : String} {earlier : List Attempt} (payload : IsPayload line) :
    delivered (⟨body, seen ++ [line], none, none⟩ :: earlier) =
      delivered (⟨body, seen, pending, none⟩ :: earlier) ++ [line] := by
  simp [delivered, Attempt.payload, payload.1]

theorem sent_line {attempts longer : List Attempt} {line : String}
    (more : delivered longer = delivered attempts ++ [line]) :
    sent longer [] = sent attempts [] ++ [.ok line] := by
  simp [sent, more]

theorem sent_error (attempts : List Attempt) (error : RequestError) :
    sent attempts [error] = sent attempts [] ++ [.error error] := by
  simp [sent]

/-! ### One step -/

theorem reading?_stage (task : StreamTask) : task.reading? = task.phase.stage.reading? := by
  unfold StreamTask.reading?
  cases task.phase with
  | releasing departure => cases departure <;> rfl
  | _ => rfl

theorem departure_stage (now backoff : Nat) (departure : Departure) :
    (departure.phase now backoff).stage = (StreamPhase.releasing departure).stage := by
  cases departure <;> rfl

section Recount

variable {limit : Nat} {disturbed full : Bool} {task turned : StreamTask}
  {sightings : List Sighting} {body : Body} {seen : List String} {earlier : List Attempt}
  {reading : Reading}

theorem Stands.of_reading {attempts : List Attempt} {errors : List RequestError}
    {pending : Option String} (stands : Stands limit disturbed task.phase.stage attempts errors)
    (stage : task.phase.stage = .reading pending reading) :
    ∃ body seen earlier, attempts = ⟨body, seen, pending, none⟩ :: earlier ∧ errors = [] ∧
      ReadsFrom body (seen ++ pending.toList) reading ∧
      (∀ line, pending = some line → IsPayload line) ∧ AllSaturated earlier := by
  rw [stage] at stands
  cases stands with
  | reading reads payload before => exact ⟨_, _, _, rfl, rfl, reads, payload, before⟩

theorem Stands.forwarding {attempts : List Attempt} {errors : List RequestError}
    (stands : Stands limit disturbed task.phase.stage attempts errors)
    (phase : task.phase = .forwarding reading) :
    ∃ body seen earlier, attempts = ⟨body, seen, none, none⟩ :: earlier ∧ errors = [] ∧
      ReadsFrom body seen reading ∧ AllSaturated earlier := by
  obtain ⟨body, seen, earlier, rfl, rfl, reads, -, before⟩ := stands.of_reading (by rw [phase]; rfl)
  exact ⟨body, seen, earlier, rfl, rfl, by simpa using reads, before⟩

theorem Parts.stands {stop : Stop} {stage : Stage} {last : Attempt}
    (parts : Parts limit disturbed stop stage) (stopped : last.stop = some stop)
    (before : AllSaturated earlier) : Stands limit disturbed stage (last :: earlier) [] := by
  cases parts with
  | between saturated =>
      refine .between fun attempt member => ?_
      rcases List.mem_cons.mp member with rfl | member
      · rw [stopped, saturated]
      · exact before attempt member
  | failing outcome => exact .failing stopped outcome before
  | leaving outcome => exact .leaving stopped outcome (Nat.zero_le _) before

theorem Parts.reading? {stop : Stop} {stage : Stage} (parts : Parts limit disturbed stop stage) :
    stage.reading? = none := by
  cases parts <;> rfl

/-- A look at a stream that stands where it stood. -/
theorem records_same {stage : Stage} {attempts : List Attempt} {errors : List RequestError}
    (records : List.Forall₂ (Attempt.Records limit) attempts sightings)
    (stands : Stands limit disturbed stage attempts errors) :
    List.Forall₂ (Attempt.Records limit) attempts
      (sight full stage.reading? stage.reading? sightings) := by
  cases stands with
  | reading reads payload before =>
      cases records with
      | cons first rest => exact .cons (first.moved reads) rest
  | _ => exact records

/-- A step between phases of the same stage, in which nothing is read or sent. -/
theorem recount_stage {attempts : List Attempt} {errors : List RequestError}
    (records : List.Forall₂ (Attempt.Records limit) attempts sightings)
    (stands : Stands limit disturbed task.phase.stage attempts errors)
    (stage : turned.phase.stage = task.phase.stage)
    (sends : Sends task.channel (sent attempts errors) turned.channel (sent attempts errors)) :
    Recount limit disturbed full task turned sightings (attempts, errors) (attempts, errors) := by
  refine ⟨?_, by rw [stage]; exact stands, sends⟩
  rw [reading?_stage, reading?_stage, stage]
  exact records_same records stands

/-- A step in which nothing is read. -/
theorem recount_unread {attempts : List Attempt} {errors more : List RequestError}
    (records : List.Forall₂ (Attempt.Records limit) attempts sightings)
    (before : task.phase.stage.reading? = none) (after : turned.phase.stage.reading? = none)
    (stands : Stands limit disturbed turned.phase.stage attempts more)
    (sends : Sends task.channel (sent attempts errors) turned.channel (sent attempts more)) :
    Recount limit disturbed full task turned sightings (attempts, errors) (attempts, more) := by
  refine ⟨?_, stands, sends⟩
  rw [reading?_stage, reading?_stage, before, after]
  exact records

/-- A step that begins to read a response. -/
theorem recount_begin {attempts : List Attempt}
    (records : List.Forall₂ (Attempt.Records limit) attempts sightings)
    (before : task.phase.stage.reading? = none) (saturated : AllSaturated attempts)
    (phase : turned.phase = .forwarding (.ofBody body)) (channel : turned.channel = task.channel) :
    Recount limit disturbed full task turned sightings (attempts, [])
      (⟨body, [], none, none⟩ :: attempts, []) := by
  have same : sent (⟨body, [], none, none⟩ :: attempts) [] = sent attempts [] := by
    simp [sent, delivered, Attempt.payload]
  refine ⟨?_, ?_, ?_⟩
  · rw [reading?_stage, reading?_stage, before, phase]
    exact .cons (.begin limit body) records
  · rw [phase]
    exact .reading (ReadsFrom.ofBody body) (by simp) saturated
  · rw [same, channel]
    exact .nothing

/-- A step from reading to reading, which deals with no line or with one. -/
theorem recount_reading {next : Reading} {after : List String} {pending later : Option String}
    {last : Sighting} {rest : List Sighting}
    (record : Attempt.Records limit ⟨body, after, later, none⟩ { last with left := next })
    (records : List.Forall₂ (Attempt.Records limit) earlier rest)
    (before : task.phase.stage.reading? = some reading)
    (stage : turned.phase.stage = .reading later next)
    (payload : ∀ line, later = some line → IsPayload line) (saturated : AllSaturated earlier)
    (sends : Sends task.channel (sent (⟨body, seen, pending, none⟩ :: earlier) []) turned.channel
      (sent (⟨body, after, later, none⟩ :: earlier) [])) :
    Recount limit disturbed full task turned (last :: rest)
      (⟨body, seen, pending, none⟩ :: earlier, []) (⟨body, after, later, none⟩ :: earlier, []) := by
  refine ⟨?_, ?_, sends⟩
  · rw [reading?_stage, reading?_stage, before, stage]
    exact .cons record records
  · rw [stage]
    exact .reading record.reads payload saturated

/-- A step that reads on in a response, and deals with no further line. -/
theorem recount_moved {attempts : List Attempt} {errors : List RequestError} {next : Reading}
    (records : List.Forall₂ (Attempt.Records limit) attempts sightings)
    (stands : Stands limit disturbed task.phase.stage attempts errors)
    (phase : task.phase = .forwarding reading)
    (further : ∀ {body seen}, ReadsFrom body seen reading → ReadsFrom body seen next)
    (moved : turned.phase = .forwarding next) (channel : turned.channel = task.channel) :
    ∃ after, Recount limit disturbed full task turned sightings (attempts, errors) after := by
  obtain ⟨body, seen, earlier, rfl, rfl, reads, before⟩ := stands.forwarding phase
  have reads : ReadsFrom body (seen ++ Option.toList none) next := by simpa using further reads
  cases records with
  | cons first rest =>
      refine ⟨_, recount_reading (first.moved reads) rest (by rw [phase]; rfl) (by rw [moved]; rfl)
        (by simp) before ?_⟩
      rw [channel]
      exact .nothing

/-- A step that closes the response. -/
theorem recount_stop {stop : Stop} {pending : Option String}
    (records : List.Forall₂ (Attempt.Records limit) (⟨body, seen, pending, none⟩ :: earlier)
      sightings)
    (reads : task.phase.stage = .reading pending reading)
    (stops : Attempt.Stops limit ⟨body, seen, pending, some stop⟩ stop)
    (given : pending = none ∨ stop = .interrupted) (saturated : stop = .saturated → full = true)
    (parts : Parts limit disturbed stop turned.phase.stage) (before : AllSaturated earlier)
    (channel : turned.channel = task.channel) :
    Recount limit disturbed full task turned sightings
      (⟨body, seen, pending, none⟩ :: earlier, [])
      (⟨body, seen, pending, some stop⟩ :: earlier, []) := by
  refine ⟨?_, parts.stands rfl before, ?_⟩
  · rw [reading?_stage, reading?_stage, reads, parts.reading?]
    cases records with
    | cons first rest => exact .cons (first.close stops given saturated) rest
  · rw [channel]
    exact .nothing

/-- A step that finds a reason in the body to stop. -/
theorem recount_halt {attempts : List Attempt} {errors : List RequestError} {stop : Stop}
    (records : List.Forall₂ (Attempt.Records limit) attempts sightings)
    (stands : Stands limit disturbed task.phase.stage attempts errors)
    (phase : task.phase = .forwarding reading)
    (stops : ∀ {body seen}, ReadsFrom body seen reading →
      Attempt.Stops limit ⟨body, seen, none, some stop⟩ stop)
    (saturated : stop = .saturated → full = true)
    (parts : Parts limit disturbed stop turned.phase.stage)
    (channel : turned.channel = task.channel) :
    ∃ after, Recount limit disturbed full task turned sightings (attempts, errors) after := by
  obtain ⟨body, seen, earlier, rfl, rfl, reads, before⟩ := stands.forwarding phase
  exact ⟨_, recount_stop records (by rw [phase]; rfl) (stops reads) (.inl rfl) saturated parts
    before channel⟩

/-- A step by which a disturbed stream stops to read, even with a line that waits. -/
theorem recount_interrupt {attempts : List Attempt} {errors : List RequestError}
    {pending : Option String}
    (records : List.Forall₂ (Attempt.Records limit) attempts sightings)
    (stands : Stands limit disturbed task.phase.stage attempts errors)
    (reads : task.phase.stage = .reading pending reading)
    (parts : Parts limit disturbed .interrupted turned.phase.stage)
    (channel : turned.channel = task.channel) :
    ∃ after, Recount limit disturbed full task turned sightings (attempts, errors) after := by
  obtain ⟨body, seen, earlier, rfl, rfl, -, -, before⟩ := stands.of_reading reads
  exact ⟨_, recount_stop records reads .interrupted (.inr rfl) (by simp) parts before channel⟩

/-- A step by which a stream gives up between two attempts. -/
theorem recount_between {attempts : List Attempt} {errors : List RequestError}
    (records : List.Forall₂ (Attempt.Records limit) attempts sightings)
    (stands : Stands limit disturbed task.phase.stage attempts errors)
    (stage : task.phase.stage = .between)
    (parts : Parts limit disturbed .saturated turned.phase.stage)
    (channel : turned.channel = task.channel) :
    ∃ after, Recount limit disturbed full task turned sightings (attempts, errors) after := by
  rw [stage] at stands
  cases stands with
  | between before =>
      refine ⟨_, recount_unread records (by rw [stage]; rfl) parts.reading?
        (parts.stands (before _ List.mem_cons_self)
          fun attempt member => before _ (List.mem_cons_of_mem _ member)) ?_⟩
      rw [channel]
      exact .nothing

end Recount

theorem SlotInquiry.between {dispatcher : Dispatcher} {index : Nat} {task : StreamTask}
    {asked : Budget TaskId × Bool} (inquiry : SlotInquiry dispatcher index task asked) :
    task.phase.stage = .between := by
  cases inquiry with
  | queue phase due => rw [phase]; rfl
  | again phase => rw [phase]; rfl

theorem SlotWaiver.between {dispatcher : Dispatcher} {index : Nat} {task : StreamTask}
    {budget : Budget TaskId} (waiver : SlotWaiver dispatcher index task budget) :
    task.phase.stage = .between := by
  cases waiver with
  | resting phase => rw [phase]; rfl
  | queued phase => rw [phase]; rfl

/-- The stage that a failing stream comes to. -/
theorem failed_stage (held : Option Body) :
    (if held.isSome then StreamPhase.releasing .departing else .departing).stage = .leaving := by
  cases held <;> rfl

/-- Every step of a stream has its place in the accounts. -/
theorem StreamTurn.recount {dispatcher : Dispatcher} {index : Nat} {task turned : StreamTask}
    {budget : Budget TaskId} {transport : Transport} {statistics : Statistics} {disturbed : Bool}
    {sightings : List Sighting} {attempts : List Attempt} {errors : List RequestError}
    (turn : StreamTurn dispatcher index task turned budget transport statistics)
    (stirred : dispatcher.disturbs task = true → disturbed = true)
    (running : task.channel.finished = true → task.phase = .ended)
    (records : List.Forall₂ (Attempt.Records dispatcher.policy.lineLimit) attempts sightings)
    (stands : Stands dispatcher.policy.lineLimit disturbed task.phase.stage attempts errors) :
    ∃ after, Recount dispatcher.policy.lineLimit disturbed dispatcher.budget.isSaturated task
      turned sightings (attempts, errors) after := by
  have open_ {phase : StreamPhase} (same : task.phase = phase) (other : phase ≠ .ended) :
      task.channel.finished = false := by
    cases finished : task.channel.finished with
    | false => rfl
    | true => exact absurd (same.symm.trans (running finished)) other
  -- Between two attempts the latest one has stopped at a blank line, whatever the stream does next.
  have quits : Parts dispatcher.policy.lineLimit disturbed .saturated .leaving :=
    .leaving (.inl (.saturated (Nat.zero_le _)))
  have fails (error : RequestError) :
      Parts dispatcher.policy.lineLimit disturbed .saturated (.failing error) :=
    .failing (.inl (.saturated (Nat.le_refl _)))
  cases turn with
  | rest => exact ⟨_, recount_stage records stands rfl .nothing⟩
  | declined phase cause => exact ⟨_, recount_stage records stands (by rw [phase]; rfl) .nothing⟩
  | admitted phase took => exact ⟨_, recount_stage records stands (by rw [phase]; rfl) .nothing⟩
  | opening phase exchanged =>
      exact ⟨_, recount_stage records stands (by rw [phase]; rfl) .nothing⟩
  | refused phase cause => exact ⟨_, recount_stage records stands (by rw [phase]; rfl) .nothing⟩
  | opened phase step success =>
      rcases phase with phase | phase
      · rw [phase] at stands
        cases stands with
        | unopened =>
            exact ⟨_, recount_begin records (by rw [phase]; rfl) (by simp [AllSaturated]) rfl rfl⟩
      · rw [phase] at stands
        cases stands with
        | between before => exact ⟨_, recount_begin records (by rw [phase]; rfl) before rfl rfl⟩
  | left phase gone =>
      have troubled (live : task.isLive = true) :
          Parts dispatcher.policy.lineLimit disturbed .interrupted .leaving :=
        .leaving (.inr (stirred (dispatcher.disturbs_of_gone live gone)))
      rcases phase with ⟨reading, phase⟩ | ⟨line, reading, phase⟩ | ⟨exchange, deadline, phase⟩
      · exact recount_interrupt records stands (by rw [phase]; rfl)
          (troubled (by simp [StreamTask.isLive, phase])) rfl
      · exact recount_interrupt records stands (by rw [phase]; rfl)
          (troubled (by simp [StreamTask.isLive, phase])) rfl
      · exact recount_between records stands (by rw [phase]; rfl) quits rfl
  | leftWait waiver gone => exact recount_between records stands waiver.between quits rfl
  | expired phase late =>
      have troubled (live : task.isLive = true) :
          Parts dispatcher.policy.lineLimit disturbed .interrupted (.failing .deadlineExceeded) :=
        .failing (.inr (stirred (dispatcher.disturbs_of_late live late)))
      rcases phase with phase | ⟨line, phase⟩
      all_goals
        exact recount_interrupt records stands (by rw [phase]; rfl)
          (troubled (by simp [StreamTask.isLive, phase])) rfl
  | expiredWait waiver late => exact recount_between records stands waiver.between (fails _) rfl
  | skipped phase next blank free =>
      obtain ⟨body, seen, earlier, rfl, rfl, reads, before⟩ := stands.forwarding phase
      have further := reads.line next
      cases records with
      | cons first rest =>
          refine ⟨_, recount_reading (first.extend further (.inl blank)) rest
            (by rw [phase]; rfl) rfl (by simp) before ?_⟩
          rw [sent, sent, delivered_blank blank]
          exact .nothing
  | rebalanced phase next blank full few =>
      exact recount_halt records stands phase
        (fun reads => .saturated (reads.line next).seen_begins blank) (fun _ => full)
        (.between rfl) rfl
  | exhausted phase next blank full many =>
      exact recount_halt records stands phase
        (fun reads => .saturated (reads.line next).seen_begins blank) (fun _ => full)
        (fails _) rfl
  | marked phase next content marker =>
      exact recount_halt records stands phase
        (fun reads => .marker (reads.line next).seen_begins content marker) (by simp)
        (.leaving (.inl .marker)) rfl
  | forwarded phase next payload listening room =>
      obtain ⟨body, seen, earlier, rfl, rfl, reads, before⟩ := stands.forwarding phase
      have further := reads.line next
      cases records with
      | cons first rest =>
          refine ⟨_, recount_reading (first.extend further (.inr payload)) rest
            (by rw [phase]; rfl) rfl (by simp) before ?_⟩
          rw [sent_line (delivered_line payload)]
          exact .item listening (open_ phase (by simp))
  | @stalled reading line rest phase next payload crowded =>
      obtain ⟨body, seen, earlier, rfl, rfl, reads, before⟩ := stands.forwarding phase
      have further : ReadsFrom body (seen ++ (some line).toList) _ := reads.line next
      cases records with
      | cons first others =>
          exact ⟨_, recount_reading (first.moved further) others (by rw [phase]; rfl) rfl
            (by simpa using payload) before .nothing⟩
  | handed phase listening room =>
      obtain ⟨body, seen, earlier, rfl, rfl, reads, payload, before⟩ :=
        stands.of_reading (by rw [phase]; rfl)
      cases records with
      | cons first rest =>
          refine ⟨_, recount_reading (first.extend reads (.inr (payload _ rfl))) rest
            (by rw [phase]; rfl) rfl (by simp) before ?_⟩
          rw [sent_line (delivered_line (payload _ rfl))]
          exact .item listening (open_ phase (by simp))
  | overlong phase next =>
      refine recount_halt records stands phase (fun reads => ?_) (by simp)
        (.failing (.inl .overlong)) rfl
      obtain ⟨piece, place, long⟩ := reads.tooLong next
      exact .overlong place long
  | finished phase next =>
      refine recount_halt records stands phase (fun reads => ?_) (by simp)
        (.leaving (.inl .finished)) rfl
      obtain ⟨ending, all⟩ := reads.finished next
      exact .finished ending all
  | fed phase asked =>
      exact recount_moved records stands phase (fun reads => reads.fed asked.1 asked.2) rfl rfl
  | drained phase asked =>
      exact recount_moved records stands phase (fun reads => reads.drained asked.1 asked.2) rfl rfl
  | broken phase asked =>
      refine recount_halt records stands phase (fun reads => ?_) (by simp)
        (.failing (.inl .broken)) rfl
      obtain ⟨ending, all⟩ := reads.broken asked.1 asked.2
      exact .broken ending all
  | awaited phase asked =>
      exact recount_moved records stands phase (fun reads => reads.waits asked.1 asked.2) rfl rfl
  | readmitted inquiry granted =>
      exact ⟨_, recount_stage records stands inquiry.between.symm .nothing⟩
  | queued inquiry granted =>
      exact ⟨_, recount_stage records stands inquiry.between.symm .nothing⟩
  | reopening phase exchanged =>
      exact ⟨_, recount_stage records stands (by rw [phase]; rfl) .nothing⟩
  | reopenFailed phase failure other =>
      exact recount_between records stands (by rw [phase]; rfl) (fails _) rfl
  | reopenCancelled phase step =>
      exact recount_between records stands (by rw [phase]; rfl) quits rfl
  | @deserted error held _ failing gone leaves =>
      subst leaves
      have troubled := stirred
        (dispatcher.disturbs_of_gone (by simp [StreamTask.isLive, failing]) (.inr gone))
      rw [failing] at stands
      cases stands with
      | failing stopped outcome before =>
          refine ⟨_, recount_unread records (by rw [failing]; rfl) (by rw [failed_stage]; rfl) ?_
            .nothing⟩
          rw [failed_stage]
          exact .leaving stopped (.inr troubled) (Nat.zero_le _) before
  | @failed error held _ failing listening room leaves =>
      subst leaves
      rw [failing] at stands
      cases stands with
      | @failing error stop last earlier stopped outcome before =>
          refine ⟨(_, [error]), recount_unread records (by rw [failing]; rfl)
            (by rw [failed_stage]; rfl) ?_ ?_⟩
          · rw [failed_stage]
            exact .leaving stopped outcome (Nat.le_refl _) before
          · rw [sent_error]
            exact .item listening (open_ failing (by simp))
  | released phase =>
      exact ⟨_, recount_stage records stands (by rw [phase]; exact departure_stage _ _ _) .nothing⟩
  | ended phase => exact ⟨_, recount_stage records stands (by rw [phase]; rfl) .ending⟩

end StreamQuery.Dispatch
