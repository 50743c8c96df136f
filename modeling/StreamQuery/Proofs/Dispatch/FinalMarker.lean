import StreamQuery.Proofs.Dispatch.Standstill
import StreamQuery.Proofs.Dispatch.WholeStream
import StreamQuery.Proofs.Response.TextLines
import StreamQuery.Response.Message
/-!
# Where a stream ends

A stream looks for the final marker in the text of a line, and not for a final message. Of a
response that no blank line aborts, its consumer gets the lines up to the first one that holds the
marker anywhere, be it in the value of a row. A message is passed on exactly if no line up to it
holds the marker.
-/

namespace StreamQuery.Response

open Text

/-- A line that holds a message is not blank. -/
theorem Message.visible_of_parseLine {line : String} {message : Message}
    (reads : Message.parseLine line = .ok (some message)) : isBlankText line = false := by
  refine Bool.eq_false_iff.mpr fun blank => ?_
  have nothing : stripPunctuation line.toList = [] := by
    rw [stripPunctuation, trimChars_blanks blank]
    rfl
  rw [Message.parseLine, nothing] at reads
  cases reads

end StreamQuery.Response

namespace StreamQuery.Dispatch

open Response Text

/-! ### The lines that are passed on -/

/-- The lines that are not blank. -/
def contentLines (lines : List String) : List String :=
  lines.filter fun line => !isBlankText line

/-- What a consumer gets of a body that is read to its end. -/
def forwardable (body : Body) : List String :=
  contentLines (passedOn body)

theorem contentLines_concat {line : String} (visible : isBlankText line = false)
    (before : List String) : contentLines (before ++ [line]) = contentLines before ++ [line] := by
  simp [contentLines, visible]

theorem passedOn_begins (body : Body) : passedOn body <+: body.lines :=
  List.takeWhile_prefix isUnmarked

/-- A message is passed on, after those before it, exactly if no line up to it holds the marker. -/
theorem message_forwardable {body : Body} {place : Nat} {line : String} {message : Message}
    (present : body.lines[place]? = some line)
    (reads : Message.parseLine line = .ok (some message)) :
    contentLines (body.lines.take (place + 1)) <+: forwardable body ↔
      ∀ earlier ∈ body.lines.take (place + 1), isUnmarked earlier = true := by
  constructor
  · intro begins
    by_cases passed : place < (passedOn body).length
    · have inside : body.lines.take (place + 1) <+: passedOn body := by
        refine List.prefix_of_prefix_length_le (List.take_prefix _ _) (passedOn_begins body) ?_
        exact Nat.le_trans (List.length_take_le _ _) passed
      exact fun earlier member => List.mem_takeWhile_imp (inside.subset member)
    · -- The message itself would be one line too many.
      have short : passedOn body <+: body.lines.take place :=
        List.prefix_take_iff.mpr ⟨passedOn_begins body, Nat.le_of_not_lt passed⟩
      have fewer : (forwardable body).length ≤ (contentLines (body.lines.take place)).length :=
        (short.filter _).length_le
      have more := begins.length_le
      rw [List.take_add_one, present, Option.toList_some,
        contentLines_concat (Message.visible_of_parseLine reads), List.length_append,
        List.length_singleton] at more
      omega
  · intro unmarked
    have inside : body.lines.take (place + 1) <+: passedOn body := by
      rw [passedOn]
      conv_rhs => rw [← List.take_append_drop (place + 1) body.lines]
      rw [List.takeWhile_append_of_pos unmarked]
      exact List.prefix_append _ _
    exact inside.filter _

/-! ### A stream at rest -/

namespace Dispatcher

/-- A stream of which nothing more comes: its own step changes nothing, its consumer has taken all,
and no part of its response is on the way. -/
structure Rests (dispatcher : Dispatcher) (index : Nat) (task : StreamTask) : Prop where
  still : (dispatcher.stepStream index).1 = dispatcher
  taken : task.channel.kept = []
  idle : ∀ reading, task.phase = .forwarding reading → reading.body.due = none

variable {dispatcher : Dispatcher} {index : Nat} {task : StreamTask}

/-- A stream that reads, and that its step does not change, waits for its body. -/
theorem forwarding_waits {reading : Reading} (found : dispatcher.streams[index]? = some task)
    (phase : task.phase = .forwarding reading)
    (still : (dispatcher.stepStream index).1 = dispatcher) :
    AsksBody dispatcher reading (.awaited reading.body) := by
  obtain ⟨turned, budget, transport, statistics, ready, turn, same⟩ := stepStream_turn found
  have unchanged : turned = task := by
    have bound := (List.getElem?_eq_some_iff.mp found).1
    have streams := congrArg (fun after => after.streams[index]?) (still.symm.trans same)
    simp only [List.getElem?_set_self bound] at streams
    exact Option.some.inj (streams.symm.trans found)
  have phases := (congrArg StreamTask.phase unchanged).trans phase
  cases turn with
  | rest waits => exact absurd phase (waits _)
  | @awaited _ body earlier asked =>
      cases phase.symm.trans earlier
      have same : body = reading.body := congrArg Reading.body (StreamPhase.forwarding.inj phases)
      rw [← same]
      exact asked
  | @skipped _ line rest earlier next | @forwarded _ line rest earlier next =>
      cases phase.symm.trans earlier
      have same : rest = reading.lines := congrArg Reading.lines (StreamPhase.forwarding.inj phases)
      rw [same] at next
      exact absurd next (reading.lines.take_ne _ line)
  | @fed _ bytes rest earlier asked =>
      cases phase.symm.trans earlier
      have same : rest = reading.body := congrArg Reading.body (StreamPhase.forwarding.inj phases)
      have follows := reading.body.poll_follows dispatcher.now
      rw [asked.2, same] at follows
      exact absurd follows.1.symm (List.cons_ne_self _ _)
  | drained earlier asked =>
      cases phase.symm.trans earlier
      have ended : reading.lines.finish = reading.lines :=
        congrArg Reading.lines (StreamPhase.forwarding.inj phases)
      have follows := reading.lines.take_follows dispatcher.policy.lineLimit
      rw [asked.1] at follows
      have whole : true = false := (congrArg LineBuffer.ended ended).trans follows.2
      cases whole
  | opened earlier => rcases earlier with earlier | earlier <;> cases phase.symm.trans earlier
  | handed earlier | deserted earlier | failed earlier | released earlier =>
      cases phase.symm.trans earlier
  | _ => cases phases

/-- The response that a stream at rest has read is at its end. -/
theorem Rests.closing {limit : Nat} {attempt : Attempt} {sighting : Sighting}
    {errors : List RequestError} (rests : Rests dispatcher index task)
    (found : dispatcher.streams[index]? = some task)
    (stands : Stands limit false task.phase.stage [attempt] errors)
    (records : attempt.Records limit sighting) (clear : sighting.IsClear) :
    Closing limit attempt.body (attempt.seen = passedOn attempt.body) errors := by
  have room : task.channel.hasRoom = true := by
    simp [Channel.hasRoom, rests.taken, channelCapacity]
  have leaving := (stands.calm_single records clear).2
  have unsaturated := records.unsaturated clear
  cases phase : task.phase with
  | forwarding reading =>
      obtain ⟨next, waits⟩ := forwarding_waits found phase rests.still
      have idle := rests.idle reading phase
      obtain ⟨gone, held⟩ := (Body.poll_awaited waits).1.resolve_left (by simp [idle])
      rw [phase] at stands
      cases stands with
      | reading reads =>
          rw [Option.toList_none, List.append_nil] at reads
          exact .ended (records.seen_all (reads.unended next gone (by simp [held])))
  | handing => exact absurd rests.still (handing_moves found phase room)
  | failing => exact absurd rests.still (failing_moves found phase fun _ => room)
  | releasing => exact absurd rests.still (releasing_moves found phase)
  | departing | ended => exact leaving (by rw [phase]; rfl)
  | backingOff | readmitting | reopening =>
      rw [phase] at stands
      cases stands with
      | between saturated => exact absurd (saturated _ List.mem_cons_self) unsaturated
  | _ =>
      rw [phase] at stands
      cases stands

end Dispatcher

/-! ### What the consumer gets -/

/-- Where no response of a stream is aborted by a blank line, the stream reads one response. -/
theorem Followed.alone {limit : Nat} {task : StreamTask} {written : Chronicle}
    {attempts : List Attempt} {errors : List RequestError} {items : List Item} {ends : Nat}
    {sighting : Sighting} (followed : Followed limit task written attempts errors items ends)
    (clear : ∀ sighting ∈ written.sightings, sighting.IsClear)
    (seen : sighting ∈ written.sightings) :
    ∃ attempt, attempts = [attempt] ∧ attempt.Records limit sighting := by
  have resent := followed.stands.resent
  have records := followed.records
  generalize written.sightings = sightings at clear seen records
  cases records with
  | nil => cases seen
  | @cons attempt _ _ _ first rest =>
      cases rest with
      | nil =>
          cases List.mem_singleton.mp seen
          exact ⟨attempt, rfl, first⟩
      | @cons earlier other _ _ second =>
          have saturated := resent earlier (by simp)
          exact absurd saturated (second.unsaturated (clear other (by simp)))

/-- What a consumer has heard of a response. -/
structure HearsBody (limit : Nat) (body : Body) (heard : List (Option Item)) (rests : Prop)
    (lines : List String) (errors : List RequestError) (ends : Nat) : Prop where
  items : heard = lines.map (fun line => some (.ok line)) ++
    errors.map (fun error => some (.error error)) ++ List.replicate ends none
  /-- No line comes out of order, twice, or after the marker. -/
  order : lines <+: forwardable body
  /-- An error, the end, and a rest come after all lines, but for a line that is too long. -/
  closes : errors ≠ [] ∨ 0 < ends ∨ rests →
    Closing limit body (lines = forwardable body) errors
  /-- A message gets to the consumer exactly if no line up to it holds the marker. -/
  messages : lines = forwardable body → ∀ (place : Nat) line message,
    body.lines[place]? = some line → Message.parseLine line = .ok (some message) →
      (contentLines (body.lines.take (place + 1)) <+: lines ↔
        ∀ earlier ∈ body.lines.take (place + 1), isUnmarked earlier = true)

/-- An undisturbed stream at its only response. -/
theorem Dispatcher.Follows.hearsBody {index : Nat} {dispatcher : Dispatcher} {written : Chronicle}
    {task : StreamTask} {sighting : Sighting} (follows : Follows index dispatcher written)
    (last : ChannelEndsLast index dispatcher) (found : dispatcher.streams[index]? = some task)
    (listening : task.channel.receiver = .listening) (calm : written.disturbed = false)
    (clear : ∀ sighting ∈ written.sightings, sighting.IsClear)
    (seen : sighting ∈ written.sightings) :
    ∃ lines errors ends, HearsBody dispatcher.policy.lineLimit sighting.body written.heard
      (dispatcher.Rests index task) lines errors ends := by
  obtain ⟨attempts, errors, items, ends, followed⟩ := follows.found task found
  obtain ⟨attempt, rfl, records⟩ := followed.alone clear seen
  have isClear := clear sighting seen
  have hears := followed.hears
  have stands := followed.stands
  rw [calm] at stands
  have leaving := (stands.calm_single records isClear).2
  have kept := hears.kept (by simp [listening])
  obtain ⟨lines, heard, rfl, order, part, after⟩ := prefix_sent ⟨_, kept⟩
  have passed : delivered [attempt] = contentLines attempt.seen := rfl
  rw [← records.body]
  refine ⟨lines, heard, ends, ?_, ?_, fun cause => ?_, fun whole _ _ _ present reads => ?_⟩
  · rw [hears.order]
    simp [Function.comp_def]
  · exact order.trans (records.seen_passed.filter _)
  · have whole (nothing : task.channel.kept = []) :
        lines = delivered [attempt] ∧ heard = errors := by
      rw [nothing, List.append_nil] at kept
      exact prefix_whole order part kept
    -- The response is at its end, and nothing of it waits in the channel.
    have settled : Closing dispatcher.policy.lineLimit attempt.body
        (attempt.seen = passedOn attempt.body) errors ∧
          lines = delivered [attempt] ∧ heard = errors := by
      rcases cause with some | some | rests
      · have failed : errors ≠ [] := by
          rintro rfl
          exact some (List.prefix_nil.mp part)
        have least := List.length_pos_iff.mpr some
        have few := stands.few.1
        exact ⟨leaving (stands.few.2 failed), after some,
          part.eq_of_length (by have := part.length_le; omega)⟩
      · obtain ⟨nothing, spent⟩ := hears.spent some
        have finished : task.channel.finished = true :=
          spent.resolve_right (by simp [Channel.isListening, listening])
        have ended := (last task found).mp finished
        exact ⟨leaving (by rw [ended]; rfl), whole nothing⟩
      · exact ⟨rests.closing found stands records isClear, whole rests.taken⟩
    obtain ⟨closing, rfl, rfl⟩ := settled
    exact closing.imp fun all => by rw [passed, forwardable, ← all]
  · rw [whole]
    exact message_forwardable present reads

/-- Whatever happens to a dispatcher, the consumer of a stream that nobody disturbs, and that no
blank line aborts, gets the lines of the response up to the first that holds the final marker, and
only then the end. -/
theorem heard_before_marker (policy : Policy) (slots : Nat) (transport : Transport)
    (events : List Event) (index : Nat) {task : StreamTask} {sighting : Sighting}
    (found : ((Dispatcher.start policy slots transport).play events).streams[index]? = some task)
    (listening : task.channel.receiver = .listening)
    (calm : ((Dispatcher.start policy slots transport).chronicle index events .empty).disturbed =
      false)
    (clear : ∀ sighting ∈
      ((Dispatcher.start policy slots transport).chronicle index events .empty).sightings,
      sighting.IsClear)
    (seen : sighting ∈
      ((Dispatcher.start policy slots transport).chronicle index events .empty).sightings) :
    ∃ lines errors ends, HearsBody policy.lineLimit sighting.body
      ((Dispatcher.start policy slots transport).chronicle index events .empty).heard
      (((Dispatcher.start policy slots transport).play events).Rests index task)
      lines errors ends := by
  have follows := Dispatcher.play_follows events _ _
    (Dispatcher.start_follows policy slots transport index)
    (Dispatcher.start_channel policy slots transport index)
  have last := Dispatcher.play_channel events _
    (Dispatcher.start_channel policy slots transport index)
  have body := follows.hearsBody last found listening calm clear seen
  rw [Dispatcher.play_policy] at body
  exact body

/-! ### A row that mentions the marker -/

def markedHeader : String :=
  "[\x7b\"header\":\x7b\"schema\":\"\x60N\x60 STRING\"\x7d\x7d,"

/-- A row whose only value is a text with the marker in it. -/
def markedRow : String :=
  "\x7b\"row\":\x7b\"columns\":[\"a finalMessage\"]\x7d\x7d,"

def unmarkedRow : String :=
  "\x7b\"row\":\x7b\"columns\":[\"b\"]\x7d\x7d,"

def markedLines : List String :=
  [markedHeader, markedRow, unmarkedRow, "\x7b\"finalMessage\":\"Limit Reached\"\x7d]"]

def markedBytes : List UInt8 :=
  contents ("\n".intercalate markedLines).toUTF8

/-- The lines in two parts, cut within the first row. -/
def markedAnswer : Answer :=
  ⟨200, 0, ⟨[(markedBytes.take 50).toByteArray, (markedBytes.drop 50).toByteArray], 0, .complete,
    none⟩⟩

/-- One of two slots is free all the time. -/
abbrev markedStart : Dispatcher :=
  .start ⟨1000, 0, 3, maximalBodySize, maximalLineLength⟩ 2 (.ofScript [.answer markedAnswer] none)

abbrev markedEvents : List Event :=
  .openStream .background ⟨"/query", "SELECT;"⟩ :: List.replicate 10 (.step (.stream 0)) ++
    List.replicate 2 (.receive 0)

abbrev markedWritten : Chronicle :=
  markedStart.chronicle 0 markedEvents .empty

/-- The run, but for what cannot be compared. -/
theorem marked_run : markedWritten.disturbed = false ∧
    markedWritten.sightings.map (fun sighting => (sighting.body.lines, sighting.full)) =
      [(markedLines, some false)] ∧
    markedWritten.heard.map (Option.map Except.toOption) = [some (some markedHeader), none] ∧
    (markedStart.play markedEvents).streams.map (fun task => task.channel.receiver) =
      [.listening] := by
  decide +kernel

/-- A consumer that has come to the end has heard what stands before the marker. -/
theorem marked_heard : ∃ task sighting,
    (markedStart.play markedEvents).streams[0]? = some task ∧
      task.channel.receiver = .listening ∧ markedWritten.disturbed = false ∧
      markedWritten.sightings = [sighting] ∧ sighting.IsClear ∧
      sighting.body.lines = markedLines ∧ ∃ lines errors ends, 0 < ends ∧
        HearsBody maximalLineLength sighting.body markedWritten.heard
          ((markedStart.play markedEvents).Rests 0 task) lines errors ends := by
  obtain ⟨calm, seen, heard, listens⟩ := marked_run
  obtain ⟨sighting, others, sightings, same, alone⟩ := List.map_eq_cons_iff.mp seen
  cases List.map_eq_nil_iff.mp alone
  obtain ⟨body, full⟩ := Prod.mk.inj same
  obtain ⟨task, rest, streams, listening, _⟩ := List.map_eq_cons_iff.mp listens
  have found : (markedStart.play markedEvents).streams[0]? = some task := by
    rw [streams]
    rfl
  have clear : sighting.IsClear := by
    intro all
    rw [full] at all
    cases all
  have only : ∀ other ∈ markedWritten.sightings, other.IsClear := by
    intro other member
    rw [sightings] at member
    cases List.mem_singleton.mp member
    exact clear
  have member : sighting ∈ markedWritten.sightings := by
    rw [sightings]
    exact List.mem_singleton.mpr rfl
  obtain ⟨lines, errors, ends, hears⟩ :=
    heard_before_marker _ _ _ _ 0 found listening calm only member
  refine ⟨task, sighting, found, listening, calm, sightings, clear, body, lines, errors, ends, ?_,
    hears⟩
  refine Nat.pos_of_ne_zero ?_
  rintro rfl
  have ended : none ∈ markedWritten.heard.map (Option.map Except.toOption) := by
    rw [heard]
    simp
  simp [hears.items] at ended

/-- Two rows stand before the final message, and the consumer gets neither of them: the first one
mentions the marker in its value. -/
theorem marked_row_cut :
    Message.parseLine markedHeader = .ok (some (.header ⟨none, "\x60N\x60 STRING"⟩)) ∧
      Message.parseLine markedRow = .ok (some (.row [.string "a finalMessage"])) ∧
      Message.parseLine unmarkedRow = .ok (some (.row [.string "b"])) ∧
      markedWritten.disturbed = false ∧
      markedWritten.sightings.map (fun sighting => (sighting.body.lines, sighting.full)) =
        [(markedLines, some false)] ∧
      markedWritten.heard.map (Option.map Except.toOption) = [some (some markedHeader), none] :=
  ⟨rfl, rfl, rfl, marked_run.1, marked_run.2.1, marked_run.2.2.1⟩

end StreamQuery.Dispatch
