import StreamQuery.Proofs.Dispatch.ChannelEnd
import StreamQuery.Proofs.Dispatch.Errors
import StreamQuery.Proofs.Dispatch.Recount
/-!
# What a stream delivers

The consumer of a stream gets the lines that the stream has passed on, in order and each of them
once, whatever else happens. If nobody disturbs the stream it gets all of them, and after them the
end, or one error and the end.
-/

namespace StreamQuery.Dispatch

open Response Text

/-! ### The consumer -/

/-- What a consumer got, as items and ends, and how it fits what was passed to the channel. -/
structure Hears (channel : Channel Item) (heard : List (Option Item)) (passed items : List Item)
    (ends : Nat) : Prop where
  order : heard = items.map some ++ List.replicate ends none
  kept : channel.receiver ≠ .dropped → items ++ channel.kept = passed
  lost : channel.receiver = .dropped → channel.kept = [] ∧ items <+: passed
  spent : 0 < ends →
    channel.kept = [] ∧ (channel.finished = true ∨ channel.isListening = false)

namespace Hears

variable {channel turned : Channel Item} {heard : List (Option Item)}
  {passed more items : List Item} {ends : Nat}

theorem receive_cases (channel : Channel Item) :
    (∃ item rest, channel.kept = item :: rest ∧
      channel.receive = .item item { channel with kept := rest }) ∨
    (channel.kept = [] ∧ (channel.finished = true ∨ channel.isListening = false) ∧
      channel.receive = .ended) ∨
    channel.receive = .pending := by
  unfold Channel.receive
  split
  · next item rest kept => exact .inl ⟨item, rest, kept, rfl⟩
  · next none =>
      split
      · next spent => exact .inr (.inl ⟨none, by simpa using spent, rfl⟩)
      · exact .inr (.inr rfl)

theorem empty : Hears .empty [] [] [] 0 := by
  constructor <;> simp [Channel.empty]

theorem sends (hears : Hears channel heard passed items ends)
    (sends : Sends channel passed turned more) : Hears turned heard more items ends := by
  cases sends with
  | nothing => exact hears
  | ending => exact ⟨hears.order, hears.kept, hears.lost, fun some => ⟨(hears.spent some).1, .inl rfl⟩⟩
  | @item item listening running =>
      have kept : channel.receiver ≠ .dropped := by
        intro dropped
        simp [Channel.isListening, dropped] at listening
      refine ⟨hears.order, ?_, fun dropped => absurd dropped kept, fun some => ?_⟩
      · intro _
        rw [← hears.kept kept, List.append_assoc]
        rfl
      · obtain ⟨_, ended | closed⟩ := hears.spent some
        · rw [running] at ended
          cases ended
        · rw [listening] at closed
          cases closed

theorem takes {item : Item} {rest : List Item} (hears : Hears channel heard passed items ends)
    (kept : channel.kept = item :: rest) :
    Hears { channel with kept := rest } (heard ++ [some item]) passed (items ++ [item]) 0 := by
  have none : ends = 0 := by
    refine Nat.eq_zero_of_not_pos fun some => ?_
    have empty := (hears.spent some).1
    rw [kept] at empty
    cases empty
  refine ⟨?_, ?_, ?_, fun some => absurd some (Nat.lt_irrefl 0)⟩
  · rw [hears.order, none]
    simp
  · intro present
    rw [← hears.kept present, kept, List.append_assoc]
    rfl
  · intro dropped
    rw [(hears.lost dropped).1] at kept
    cases kept

theorem ended (hears : Hears channel heard passed items ends) (none : channel.kept = [])
    (spent : channel.finished = true ∨ channel.isListening = false) :
    Hears channel (heard ++ [Option.none]) passed items (ends + 1) := by
  refine ⟨?_, hears.kept, hears.lost, fun _ => ⟨none, spent⟩⟩
  rw [hears.order, List.append_assoc, List.replicate_succ']

theorem closed (hears : Hears channel heard passed items ends) :
    Hears channel.close heard passed items ends := by
  have deaf : channel.close.isListening = false := by
    unfold Channel.close Channel.isListening
    simp only
    split <;> rfl
  have same : channel.close.receiver = .dropped ↔ channel.receiver = .dropped := by
    unfold Channel.close
    simp only
    split
    · next dropped => simp [dropped]
    · next present => simp [present]
  exact ⟨hears.order, fun present => hears.kept (fun dropped => present (same.mpr dropped)),
    fun dropped => hears.lost (same.mp dropped), fun some => ⟨(hears.spent some).1, .inr deaf⟩⟩

theorem dropped (hears : Hears channel heard passed items ends) :
    Hears channel.drop heard passed items ends := by
  refine ⟨hears.order, fun present => absurd rfl present, fun _ => ⟨rfl, ?_⟩,
    fun _ => ⟨rfl, .inr rfl⟩⟩
  by_cases gone : channel.receiver = .dropped
  · exact (hears.lost gone).2
  · rw [← hears.kept gone]
    exact List.prefix_append _ _

end Hears

/-! ### One event -/

/-- A chronicle of a stream and an account that fits it. -/
structure Followed (limit : Nat) (task : StreamTask) (written : Chronicle)
    (attempts : List Attempt) (errors : List RequestError) (items : List Item) (ends : Nat) :
    Prop where
  records : List.Forall₂ (Attempt.Records limit) attempts written.sightings
  stands : Stands limit written.disturbed task.phase.stage attempts errors
  hears : Hears task.channel written.heard (sent attempts errors) items ends

def IsFollowed (limit : Nat) (task : StreamTask) (written : Chronicle) : Prop :=
  ∃ attempts errors items ends, Followed limit task written attempts errors items ends

theorem Stands.disturb {limit : Nat} {before after : Bool} {stage : Stage}
    {attempts : List Attempt} {errors : List RequestError}
    (stands : Stands limit before stage attempts errors)
    (later : before = true → after = true) : Stands limit after stage attempts errors := by
  cases stands with
  | unopened => exact .unopened
  | reading reads payload saturated => exact .reading reads payload saturated
  | between saturated => exact .between saturated
  | failing stopped outcome saturated => exact .failing stopped (outcome.imp_right later) saturated
  | leaving stopped outcome few saturated =>
      exact .leaving stopped (outcome.imp_right later) few saturated

namespace Dispatcher

variable {before after : Dispatcher} {index : Nat} {event : Event} {written : Chronicle}

/-- A chronicle of a stream that is true of a state. -/
structure Follows (index : Nat) (dispatcher : Dispatcher) (written : Chronicle) : Prop where
  missing : dispatcher.streams[index]? = none → written = .empty
  found : ∀ task, dispatcher.streams[index]? = some task →
    IsFollowed dispatcher.policy.lineLimit task written

theorem receive_streams {task : StreamTask} {item : Item} {rest : Channel Item}
    (found : before.streams[index]? = some task) (taken : task.channel.receive = .item item rest) :
    (before.receive index).2.streams[index]? = some { task with channel := rest } := by
  have bound := (List.getElem?_eq_some_iff.mp found).1
  unfold receive
  rw [found]
  simp only [taken, modifyStream, modify_found found]
  split
  · rw [wake_eq]
    exact List.getElem?_set_self bound
  · exact List.getElem?_set_self bound

/-- An event gives the consumer nothing, or the next item, or the end. -/
theorem hears_cases (before : Dispatcher) (index : Nat) (event : Event) :
    before.hears index event = [] ∨
      ∃ task, event = .receive index ∧ before.streams[index]? = some task ∧
        ((∃ item rest, task.channel.kept = item :: rest ∧
            before.hears index event = [some item] ∧
            (before.apply event).streams[index]? =
              some { task with channel := { task.channel with kept := rest } }) ∨
          (task.channel.kept = [] ∧
            (task.channel.finished = true ∨ task.channel.isListening = false) ∧
            before.hears index event = [none] ∧ before.apply event = before)) := by
  cases event with
  | receive place =>
      by_cases same : place = index
      · subst same
        cases found : before.streams[place]? with
        | none =>
            left
            simp [hears, receive, found]
        | some task =>
            rcases Hears.receive_cases task.channel with
              ⟨item, rest, kept, taken⟩ | ⟨none, spent, taken⟩ | taken
            · exact .inr ⟨task, rfl, rfl, .inl ⟨item, rest, kept,
                by simp [hears, receive, found, taken], receive_streams found taken⟩⟩
            · exact .inr ⟨task, rfl, rfl, .inr ⟨none, spent,
                by simp [hears, receive, found, taken], by simp [apply, receive, found, taken]⟩⟩
            · left
              simp [hears, receive, found, taken]
      · left
        simp [hears, same]
  | _ => exact .inl rfl

/-- A stream whose phase stays as it is, in a chronicle that grows. -/
theorem isFollowed_kept {limit : Nat} {task turned : StreamTask} {full : Bool}
    {later : Chronicle} (followed : IsFollowed limit task written)
    (phase : turned.phase = task.phase)
    (sightings : later.sightings =
      sight full task.reading? turned.reading? written.sightings)
    (disturbed : written.disturbed = true → later.disturbed = true)
    (hears : ∀ attempts errors items ends,
      Hears task.channel written.heard (sent attempts errors) items ends →
      ∃ items ends, Hears turned.channel later.heard (sent attempts errors) items ends) :
    IsFollowed limit turned later := by
  obtain ⟨attempts, errors, items, ends, records, stands, heard⟩ := followed
  obtain ⟨items, ends, heard⟩ := hears _ _ _ _ heard
  refine ⟨attempts, errors, items, ends, ?_, ?_, heard⟩
  · rw [sightings, reading?_stage, reading?_stage, phase]
    exact records_same records stands
  · rw [phase]
    exact stands.disturb disturbed

theorem follows_found {task : StreamTask} (found : after.streams[index]? = some task)
    (followed : IsFollowed after.policy.lineLimit task written) : Follows index after written := by
  constructor
  · intro missing
    rw [missing] at found
    cases found
  · intro other same
    rw [found] at same
    cases same
    exact followed

theorem observe_sightings {task turned : StreamTask} (was : before.streams[index]? = some task)
    (is : after.streams[index]? = some turned) :
    (observe index event before after written).sightings =
      sight before.budget.isSaturated task.reading? turned.reading? written.sightings := by
  simp [observe, reading?, was, is]

theorem observe_disturbed (disturbed : written.disturbed = true) :
    (observe index event before after written).disturbed = true := by
  simp [observe, disturbed]

theorem apply_follows (follows : Follows index before written) (last : ChannelEndsLast index before) :
    Follows index (before.apply event)
      (observe index event before (before.apply event) written) := by
  have effect := before.apply_effect event
  rcases hears_cases before index event with quiet | ⟨task, rfl, found, got⟩
  · have heard : (observe index event before (before.apply event) written).heard =
        written.heard := by
      simp [observe, quiet]
    have change := effect.streamChange index
    generalize earlier : before.streams[index]? = old at change
    generalize later : (before.apply event).streams[index]? = new at change
    cases change with
    | missing =>
        refine ⟨fun _ => ?_, fun task found => by rw [later] at found; cases found⟩
        rw [follows.missing earlier]
        simp [observe, quiet, reading?, earlier, later, sight, Chronicle.empty]
    | @same task =>
        refine follows_found later (effect.policy ▸ isFollowed_kept (follows.found task earlier) rfl
          (observe_sightings earlier later) observe_disturbed fun _ _ items ends hears => ⟨items, ends, ?_⟩)
        rw [heard]
        exact hears
    | @fresh context post =>
        have blank : observe index event before (before.apply event) written = .empty := by
          rw [follows.missing earlier]
          simp [observe, quiet, reading?, earlier, later, StreamTask.reading?, sight,
            Chronicle.empty]
        rw [blank]
        exact follows_found later ⟨[], [], [], 0, .nil, .unopened, .empty⟩
    | @turned task turned budget transport _ cause turn =>
        obtain ⟨attempts, errors, items, ends, records, stands, hears⟩ :=
          follows.found task earlier
        have stirred : before.disturbs task = true →
            (observe index event before (before.apply event) written).disturbed = true := by
          intro disturbs
          simp [observe, cause, Event.steps, earlier, disturbs]
        obtain ⟨⟨attempts, errors⟩, recount⟩ :=
          turn.recount stirred (last task earlier).mp records (stands.disturb observe_disturbed)
        refine follows_found later (effect.policy ▸ ⟨attempts, errors, items, ends, ?_,
          recount.stands, ?_⟩)
        · rw [observe_sightings earlier later]
          exact recount.records
        · rw [heard]
          exact hears.sends recount.sends
    | @received task item rest cause taken =>
        subst cause
        simp [hears, receive, earlier, taken] at quiet
    | @closed task cause =>
        refine follows_found later (effect.policy ▸ isFollowed_kept (follows.found task earlier) rfl
          (observe_sightings earlier later) observe_disturbed fun _ _ items ends hears => ⟨items, ends, ?_⟩)
        rw [heard]
        exact hears.closed
    | @dropped task cause =>
        refine follows_found later (effect.policy ▸ isFollowed_kept (follows.found task earlier) rfl
          (observe_sightings earlier later) observe_disturbed fun _ _ items ends hears => ⟨items, ends, ?_⟩)
        rw [heard]
        exact hears.dropped
  · rcases got with ⟨item, rest, kept, got, later⟩ | ⟨none, spent, got, same⟩
    · refine follows_found later (effect.policy ▸ isFollowed_kept (follows.found task found) rfl
        (observe_sightings found later) observe_disturbed fun _ _ items ends hears =>
          ⟨items ++ [item], 0, ?_⟩)
      simpa [observe, got] using hears.takes kept
    · rw [same] at effect ⊢
      refine follows_found found (isFollowed_kept (follows.found task found) rfl
        (observe_sightings found found) observe_disturbed fun _ _ items ends hears =>
          ⟨items, ends + 1, ?_⟩)
      simpa [observe, got] using hears.ended none spent

/-! ### Runs -/

theorem play_follows (events : List Event) (dispatcher : Dispatcher) (written : Chronicle)
    (follows : Follows index dispatcher written) (last : ChannelEndsLast index dispatcher) :
    Follows index (dispatcher.play events) (dispatcher.chronicle index events written) := by
  induction events generalizing dispatcher written with
  | nil => exact follows
  | cons event rest induction =>
      exact induction _ _ (apply_follows follows last)
        (effect_channel last (dispatcher.apply_effect event))

theorem play_policy (events : List Event) (dispatcher : Dispatcher) :
    (dispatcher.play events).policy = dispatcher.policy := by
  induction events generalizing dispatcher with
  | nil => rfl
  | cons event rest induction => exact (induction _).trans (dispatcher.apply_effect event).policy

theorem start_plain (policy : Policy) (slots : Nat) {transport : Transport}
    (plain : transport.FailsPlainly) : FailsPlainly (start policy slots transport) :=
  ⟨plain, fun index task found => by cases found⟩

theorem start_follows (policy : Policy) (slots : Nat) (transport : Transport) (index : Nat) :
    Follows index (start policy slots transport) .empty :=
  ⟨fun _ => rfl, fun task found => by cases found⟩

/-- An error that a consumer gets was kept in the channel. -/
theorem kept_of_hears {dispatcher : Dispatcher} {index : Nat} {event : Event}
    {error : RequestError} (member : some (.error error) ∈ dispatcher.hears index event) :
    ∃ task, dispatcher.streams[index]? = some task ∧ .error error ∈ task.channel.kept := by
  rcases hears_cases dispatcher index event with
    quiet | ⟨task, rfl, found, ⟨item, rest, kept, got, _⟩ | ⟨_, _, got, _⟩⟩
  · rw [quiet] at member
    cases member
  · rw [got] at member
    have same : .error error = item := by simpa using member
    refine ⟨task, found, ?_⟩
    rw [kept, same]
    exact List.mem_cons_self
  · rw [got] at member
    simp at member

/-- Errors that a consumer got are plain where the transport fails plainly. -/
theorem play_plain (events : List Event) (dispatcher : Dispatcher) (written : Chronicle)
    (plain : FailsPlainly dispatcher)
    (heard : ∀ error, some (.error error) ∈ written.heard → IsPlain error) :
    ∀ error, some (.error error) ∈ (dispatcher.chronicle index events written).heard →
      IsPlain error := by
  induction events generalizing dispatcher written with
  | nil => exact heard
  | cons event rest induction =>
      refine induction _ _ ((dispatcher.apply_effect event).plain plain) fun error member => ?_
      rcases List.mem_append.mp member with earlier | now
      · exact heard error earlier
      · obtain ⟨task, found, kept⟩ := kept_of_hears now
        exact (plain.streams index task found).kept error kept

theorem step_ended {task : StreamTask} (found : before.streams[index]? = some task)
    (phase : task.phase = .ended) : before.apply (.step (.stream index)) = before := by
  simp [apply, step, stepStream, found, phase]

theorem step_departing {task : StreamTask} (found : before.streams[index]? = some task)
    (phase : task.phase = .departing) :
    (before.apply (.step (.stream index))).streams[index]? =
      some { task with phase := .ended, channel := task.channel.finish } := by
  have bound := (List.getElem?_eq_some_iff.mp found).1
  simp [apply, step, stepStream, found, phase, stepDeparting, modifyStream]

theorem step_releasing {task : StreamTask} (found : before.streams[index]? = some task)
    (phase : task.phase = .releasing .departing) :
    (before.apply (.step (.stream index))).streams[index]? =
      some { task with phase := .departing } := by
  have bound := (List.getElem?_eq_some_iff.mp found).1
  simp [apply, step, stepStream, found, phase, stepReleasing, release_eq, setStream, modifyStream,
    Departure.phase]

/-- A stream that leaves has ended its channel after two steps. -/
theorem leaving_ends {task : StreamTask} (found : before.streams[index]? = some task)
    (last : ChannelEndsLast index before) (stage : task.phase.stage = .leaving) :
    ∃ turned, (before.play [.step (.stream index), .step (.stream index)]).streams[index]? =
      some turned ∧ turned.channel.kept = task.channel.kept ∧ turned.channel.finished = true := by
  have ends := last task found
  simp only [play]
  cases phase : task.phase with
  | ended =>
      rw [step_ended found phase, step_ended found phase]
      exact ⟨task, found, rfl, ends.mpr phase⟩
  | departing =>
      have first := step_departing found phase
      rw [step_ended first rfl]
      exact ⟨_, first, rfl, rfl⟩
  | releasing departure =>
      cases departure with
      | departing =>
          have first := step_releasing found phase
          exact ⟨_, step_departing first rfl, rfl, rfl⟩
      | _ => simp [phase, StreamPhase.stage] at stage
  | _ => simp [phase, StreamPhase.stage] at stage

theorem receive_ended {task : StreamTask} (found : before.streams[index]? = some task)
    (none : task.channel.kept = []) (finished : task.channel.finished = true) :
    (before.receive index).1 = some .ended := by
  simp [receive, found, Channel.receive, none, finished]

end Dispatcher

/-- The beginning of what was passed on: some lines, and after the last line perhaps an error. -/
theorem prefix_sent {items : List Item} {attempts : List Attempt} {errors : List RequestError}
    (first : items <+: sent attempts errors) :
    ∃ oks heard, items = oks.map .ok ++ heard.map .error ∧ oks <+: delivered attempts ∧
      heard <+: errors ∧ (heard ≠ [] → oks = delivered attempts) := by
  rw [List.prefix_iff_eq_take] at first
  rw [sent, List.take_append] at first
  refine ⟨(delivered attempts).take items.length,
    errors.take (items.length - (delivered attempts).length), ?_, List.take_prefix _ _,
    List.take_prefix _ _, fun some => ?_⟩
  · rw [List.map_take, List.map_take]
    simpa using first
  · refine List.take_of_length_le ?_
    have more : items.length - (delivered attempts).length ≠ 0 := by
      intro zero
      rw [zero] at some
      exact some rfl
    omega

/-- Where nothing is left of what was passed on, the lines and errors that were taken are all. -/
theorem prefix_whole {oks : List String} {heard errors : List RequestError}
    {attempts : List Attempt} (order : oks <+: delivered attempts) (part : heard <+: errors)
    (whole : oks.map .ok ++ heard.map .error = sent attempts errors) :
    oks = delivered attempts ∧ heard = errors := by
  have total := congrArg List.length whole
  simp only [sent, List.length_append, List.length_map] at total
  have fewer := order.length_le
  have fewerErrors := part.length_le
  exact ⟨order.eq_of_length (by omega), part.eq_of_length (by omega)⟩

/-- What the consumer of a stream gets in a run. -/
structure StreamDelivers (limit : Nat) (origin : Dispatcher) (events : List Event) (index : Nat)
    (attempts : List Attempt) (lines : List String) (errors : List RequestError) (ends : Nat) :
    Prop where
  /-- There is one attempt for each response that was read, and it is true to the response. -/
  accounts : List.Forall₂ (Attempt.Records limit) attempts
    (origin.chronicle index events .empty).sightings
  /-- A response is followed by another one only after a blank line in a time of full slots. -/
  resent : ∀ attempt ∈ attempts.tail, attempt.stop = some .saturated
  /-- Only a disturbed stream is interrupted. -/
  calm : (origin.chronicle index events .empty).disturbed = false →
    ∀ attempt ∈ attempts, attempt.stop ≠ some .interrupted
  /-- First lines, then at most one error, then ends. -/
  heard : (origin.chronicle index events .empty).heard =
    lines.map (fun line => some (.ok line)) ++ errors.map (fun error => some (.error error)) ++
      List.replicate ends none
  order : lines <+: delivered attempts
  single : errors.length ≤ 1
  /-- An error comes after all lines. -/
  after : errors ≠ [] → lines = delivered attempts
  /-- An error is followed by the end, as soon as the stream has taken two more steps. -/
  ended : errors ≠ [] →
    (((origin.play events).play [.step (.stream index), .step (.stream index)]).receive index).1 =
      some .ended
  /-- A consumer that gets the end without having closed the channel, of a stream that was not
  disturbed, has got all lines of all attempts, and the errors that go with the latest stop. -/
  complete : 0 < ends → (origin.chronicle index events .empty).disturbed = false →
    ∀ task, (origin.play events).streams[index]? = some task →
      task.channel.receiver = .listening →
      lines = delivered attempts ∧ ∃ last stop, attempts.head? = some last ∧
        last.stop = some stop ∧ Outcome limit stop errors
  plain : origin.transport.FailsPlainly → ∀ error ∈ errors, IsPlain error

namespace Stands

variable {limit : Nat} {disturbed : Bool} {stage : Stage} {attempts : List Attempt}
  {errors : List RequestError}

theorem resent (stands : Stands limit disturbed stage attempts errors) :
    ∀ attempt ∈ attempts.tail, attempt.stop = some .saturated := by
  cases stands with
  | unopened => simp
  | reading reads payload before => exact before
  | between before => exact fun attempt member => before attempt (List.mem_cons_of_mem _ member)
  | failing stopped outcome before => exact before
  | leaving stopped outcome few before => exact before

theorem calm (stands : Stands limit disturbed stage attempts errors) (calm : disturbed = false) :
    ∀ attempt ∈ attempts, attempt.stop ≠ some .interrupted := by
  have saturated {earlier : List Attempt} (before : AllSaturated earlier) :
      ∀ attempt ∈ earlier, attempt.stop ≠ some .interrupted := by
    intro attempt member
    simp [before attempt member]
  have settled {stop : Stop} {errors : List RequestError}
      (outcome : Outcome limit stop errors ∨ disturbed = true) : stop ≠ .interrupted := by
    rcases outcome with outcome | stirred
    · cases outcome <;> simp
    · rw [calm] at stirred
      cases stirred
  cases stands with
  | unopened => simp
  | reading reads payload before => simpa using saturated before
  | between before => exact saturated before
  | failing stopped outcome before =>
      simpa [stopped, settled outcome] using saturated before
  | leaving stopped outcome few before =>
      simpa [stopped, settled outcome] using saturated before

theorem few (stands : Stands limit disturbed stage attempts errors) :
    errors.length ≤ 1 ∧ (errors ≠ [] → stage = .leaving) := by
  cases stands with
  | leaving stopped outcome few before => exact ⟨few, fun _ => rfl⟩
  | _ => exact ⟨Nat.zero_le _, fun some => absurd rfl some⟩

end Stands

/-- The account of a stream that was followed through a run. -/
theorem Followed.delivers {limit : Nat} {origin : Dispatcher} {events : List Event} {index : Nat}
    {task : StreamTask} {attempts : List Attempt} {errors : List RequestError}
    {items : List Item} {ends : Nat}
    (followed : Followed limit task (origin.chronicle index events .empty) attempts errors items
      ends)
    (found : (origin.play events).streams[index]? = some task)
    (last : Dispatcher.ChannelEndsLast index (origin.play events))
    (plain : origin.transport.FailsPlainly → ∀ error,
      some (.error error) ∈ (origin.chronicle index events .empty).heard → IsPlain error) :
    ∃ lines heard, StreamDelivers limit origin events index attempts lines heard ends := by
  obtain ⟨records, stands, hears⟩ := followed
  have first : items <+: sent attempts errors := by
    by_cases dropped : task.channel.receiver = .dropped
    · exact (hears.lost dropped).2
    · rw [← hears.kept dropped]
      exact List.prefix_append _ _
  obtain ⟨lines, heard, split, order, part, after⟩ := prefix_sent first
  have few := stands.few
  have single : heard.length ≤ 1 := Nat.le_trans part.length_le few.1
  have got : (origin.chronicle index events .empty).heard =
      lines.map (fun line => some (.ok line)) ++ heard.map (fun error => some (.error error)) ++
        List.replicate ends none := by
    rw [hears.order, split]
    simp [Function.comp_def]
  have passed : items.length = lines.length + heard.length := by
    rw [split]
    simp
  have total : (sent attempts errors).length = (delivered attempts).length + errors.length := by
    simp [sent]
  refine ⟨lines, heard, records, stands.resent, stands.calm, got, order, single, after, ?_, ?_, ?_⟩
  · intro some
    have failed : errors ≠ [] := by
      rintro rfl
      exact some (List.prefix_nil.mp part)
    have nothing : task.channel.kept = [] := by
      by_cases dropped : task.channel.receiver = .dropped
      · exact (hears.lost dropped).1
      · have whole := congrArg List.length (hears.kept dropped)
        have one := List.length_pos_iff.mpr some
        rw [List.length_append, passed, total, after some] at whole
        exact List.length_eq_zero_iff.mp (by omega)
    obtain ⟨turned, later, kept, finished⟩ :=
      Dispatcher.leaving_ends found last (few.2 failed)
    exact Dispatcher.receive_ended later (kept.trans nothing) finished
  · intro some calm other same listening
    rw [found] at same
    cases same
    obtain ⟨nothing, ended⟩ := hears.spent some
    have phase : task.phase = .ended := by
      rcases ended with finished | deaf
      · exact (last task found).mp finished
      · simp [Channel.isListening, listening] at deaf
    have whole := hears.kept (by simp [listening])
    rw [nothing, List.append_nil, split] at whole
    obtain ⟨allLines, allErrors⟩ := prefix_whole order part whole
    rw [phase] at stands
    cases stands with
    | leaving stopped outcome few before =>
        refine ⟨allLines, _, _, rfl, stopped, ?_⟩
        rcases outcome with outcome | stirred
        · exact allErrors ▸ outcome
        · rw [calm] at stirred
          cases stirred
  · intro honest error member
    refine plain honest error ?_
    rw [got]
    simp [member]

/-- Whatever happens to a dispatcher, and to a stream of it, in whatever order: the consumer of the
stream gets the lines of its attempts. -/
theorem stream_delivers (policy : Policy) (slots : Nat) (transport : Transport)
    (events : List Event) (index : Nat) :
    ∃ attempts lines errors ends,
      StreamDelivers policy.lineLimit (Dispatcher.start policy slots transport) events index
        attempts lines errors ends := by
  have follows := Dispatcher.play_follows events _ _
    (Dispatcher.start_follows policy slots transport index)
    (Dispatcher.start_channel policy slots transport index)
  have last := Dispatcher.play_channel events _
    (Dispatcher.start_channel policy slots transport index)
  cases found : ((Dispatcher.start policy slots transport).play events).streams[index]? with
  | none =>
      have blank := follows.missing found
      generalize Dispatcher.start policy slots transport = origin at blank ⊢
      have unseen : (origin.chronicle index events .empty).sightings = [] :=
        congrArg Chronicle.sightings blank
      have unheard : (origin.chronicle index events .empty).heard = [] :=
        congrArg Chronicle.heard blank
      refine ⟨[], [], [], 0, ?_⟩
      constructor <;> simp [unseen, unheard, delivered]
  | some task =>
      obtain ⟨attempts, errors, items, ends, followed⟩ := follows.found task found
      rw [Dispatcher.play_policy] at followed
      obtain ⟨lines, heard, delivers⟩ := followed.delivers found last fun plain =>
        Dispatcher.play_plain events _ _ (Dispatcher.start_plain policy slots plain) (by
          intro error member
          cases member)
      exact ⟨attempts, lines, heard, ends, delivers⟩

end StreamQuery.Dispatch
