import StreamQuery.Dispatch.Event
import StreamQuery.Proofs.Dispatch.Reading
import StreamQuery.Proofs.Dispatch.StreamTurn
/-!
# What can be seen of a stream

A chronicle of a stream is kept from outside while events happen: what its consumer got, which
responses the stream has read, and whether it was disturbed. It is what statements about the stream
are about. What it says of the lines of each response is an account, one attempt for each response.
-/

namespace StreamQuery.Dispatch

open Response Text

/-- A response that a stream has read. -/
structure Sighting where
  body : Body
  /-- What the stream had not taken of the body, when it was last seen to read. -/
  left : Reading
  /-- Whether all slots were in use as the stream stopped to read, once it has. -/
  full : Option Bool

structure Chronicle where
  /-- What the consumer got, in order; nothing stands for the end of the channel. -/
  heard : List (Option (Except RequestError String))
  /-- The responses that the stream has read, the latest first. -/
  sightings : List Sighting
  /-- Whether the stream, before its end, looked when it was cancelled, or its deadline had expired,
  or its consumer had closed or dropped the channel. -/
  disturbed : Bool

def Chronicle.empty : Chronicle :=
  ⟨[], [], false⟩

/-- What a stream reads from, while it reads. -/
def StreamTask.reading? (task : StreamTask) : Option Reading :=
  match task.phase with
  | .forwarding reading | .handing _ reading => some reading
  | _ => none

/-- A response is seen as the stream begins to read, followed while it reads, and closed as it
stops. -/
def sight (full : Bool) (before after : Option Reading) (sightings : List Sighting) :
    List Sighting :=
  match before, after, sightings with
  | none, some reading, earlier => ⟨reading.body, reading, none⟩ :: earlier
  | some _, some reading, last :: earlier => { last with left := reading } :: earlier
  | some _, none, last :: earlier => { last with full := some full } :: earlier
  | _, _, sightings => sightings

/-- True for a step of a stream. -/
def Event.steps (index : Nat) : Event → Bool
  | .step (.stream place) => place = index
  | _ => false

namespace Dispatcher

def reading? (dispatcher : Dispatcher) (index : Nat) : Option Reading :=
  (dispatcher.streams[index]?).bind StreamTask.reading?

/-- What the consumer of a stream gets by an event. -/
def hears (dispatcher : Dispatcher) (index : Nat) :
    Event → List (Option (Except RequestError String))
  | .receive place =>
      if place = index then
        match (dispatcher.receive index).1 with
        | some (.item item _) => [some item]
        | some .ended => [none]
        | _ => []
      else []
  | _ => []

/-- A stream that has not ended is cancelled, late, or without a listener. -/
def disturbs (dispatcher : Dispatcher) (task : StreamTask) : Bool :=
  task.isLive &&
    (dispatcher.isCancelled task.context || dispatcher.isExpired task.context ||
      !task.channel.isListening)

theorem disturbs_of_gone (dispatcher : Dispatcher) {task : StreamTask}
    (live : task.isLive = true) (gone : dispatcher.Gone task) : dispatcher.disturbs task = true := by
  rcases gone with cancelled | deaf
  · simp [disturbs, live, cancelled]
  · simp [disturbs, live, deaf]

theorem disturbs_of_late (dispatcher : Dispatcher) {task : StreamTask}
    (live : task.isLive = true) (late : dispatcher.isExpired task.context = true) :
    dispatcher.disturbs task = true := by
  simp [disturbs, live, late]

/-- The next line of the body that a stream reads is blank. -/
def meetsBlank (dispatcher : Dispatcher) (task : StreamTask) : Bool :=
  match task.phase with
  | .forwarding reading =>
      match reading.lines.take dispatcher.policy.lineLimit with
      | .line line _ => isBlankText line
      | _ => false
  | _ => false

/-- A stream that is wanted, and not late, comes to a blank line while all slots are in use. -/
def aborts (dispatcher : Dispatcher) (task : StreamTask) : Bool :=
  dispatcher.meetsBlank task && dispatcher.budget.isSaturated &&
    !dispatcher.isCancelled task.context && !dispatcher.isExpired task.context &&
    task.channel.isListening

theorem aborts_of_blank {dispatcher : Dispatcher} {task : StreamTask} {reading : Reading}
    {line : String} {rest : LineBuffer} (phase : task.phase = .forwarding reading)
    (next : NextIs dispatcher reading (.line line rest)) (blank : isBlankText line = true)
    (full : dispatcher.budget.isSaturated = true) (wanted : ¬ dispatcher.Gone task)
    (early : dispatcher.isExpired task.context = false) : dispatcher.aborts task = true := by
  have met : dispatcher.meetsBlank task = true := by
    unfold NextIs at next
    simp [meetsBlank, phase, next, blank]
  have calm : dispatcher.isCancelled task.context = false := by
    cases cancelled : dispatcher.isCancelled task.context with
    | true => exact absurd (.inl cancelled) wanted
    | false => rfl
  simp [aborts, met, full, calm, early, listening_of_wanted wanted]

/-- The chronicle after one event. -/
def observe (index : Nat) (event : Event) (before after : Dispatcher) (chronicle : Chronicle) :
    Chronicle where
  heard := chronicle.heard ++ before.hears index event
  sightings :=
    sight before.budget.isSaturated (before.reading? index) (after.reading? index)
      chronicle.sightings
  disturbed :=
    chronicle.disturbed || event.steps index && (before.streams[index]?).any before.disturbs

/-- The chronicle of a stream after some events. -/
def chronicle (index : Nat) : List Event → Dispatcher → Chronicle → Chronicle
  | [], _, written => written
  | event :: rest, dispatcher, written =>
      chronicle index rest (dispatcher.apply event)
        (observe index event dispatcher (dispatcher.apply event) written)

end Dispatcher

/-! ### Accounts -/

/-- Why a stream stopped to read a response. -/
inductive Stop where
  /-- A blank line came while all slots were in use. -/
  | saturated
  | marker
  | finished
  | broken (cause : String)
  | overlong
  /-- The stream was cancelled, late, or without a listener. -/
  | interrupted
  deriving DecidableEq

/-- How far a stream has come with one response. -/
structure Attempt where
  body : Body
  /-- The lines of the body that the stream has dealt with. -/
  seen : List String
  /-- A line that was taken and waits for room in the channel. -/
  pending : Option String
  /-- Nothing while the stream reads. -/
  stop : Option Stop

/-- The lines of an attempt that are passed on. -/
def Attempt.payload (attempt : Attempt) : List String :=
  attempt.seen.filter fun line => !isBlankText line

/-- The lines that are passed on in some attempts, the latest first. -/
def delivered : List Attempt → List String
  | [] => []
  | last :: earlier => delivered earlier ++ last.payload

/-- What stands in the body where an attempt has stopped. -/
inductive Attempt.Stops (limit : Nat) (attempt : Attempt) : Stop → Prop where
  | saturated {line} (next : attempt.seen ++ [line] <+: attempt.body.lines)
      (blank : isBlankText line = true) : Stops limit attempt .saturated
  | marker {line} (next : attempt.seen ++ [line] <+: attempt.body.lines)
      (content : isBlankText line = false)
      (marker : containsText Dispatcher.finalMarker.toList line.toList = true) :
      Stops limit attempt .marker
  | finished (ending : attempt.body.ending = .complete) (all : attempt.seen = attempt.body.lines) :
      Stops limit attempt .finished
  | broken {cause} (ending : attempt.body.ending = .broken cause)
      (all : attempt.seen = attempt.body.lines) : Stops limit attempt (.broken cause)
  | overlong {piece} (place : attempt.body.pieces[attempt.seen.length]? = some piece)
      (long : limit < piece.length) : Stops limit attempt .overlong
  | interrupted : Stops limit attempt .interrupted

/-- An attempt is a true account of a response that was read. -/
structure Attempt.Records (limit : Nat) (attempt : Attempt) (sighting : Sighting) : Prop where
  body : attempt.body = sighting.body
  /-- Every line that was taken from the body was dealt with, or waits. -/
  reads : ReadsFrom attempt.body (attempt.seen ++ attempt.pending.toList) sighting.left
  /-- No line with the final marker was passed. -/
  unmarked : ∀ line ∈ attempt.seen, isBlankText line = true ∨ IsPayload line
  /-- A line that waits is given up only if the stream is interrupted. -/
  waiting : attempt.pending ≠ none → attempt.stop = none ∨ attempt.stop = some .interrupted
  running : attempt.stop = none ↔ sighting.full = none
  stops : ∀ stop, attempt.stop = some stop → attempt.Stops limit stop
  full : attempt.stop = some .saturated → sighting.full = some true

/-- The errors that a stream hands over after its last attempt, unless it is disturbed. -/
inductive Outcome (limit : Nat) : Stop → List RequestError → Prop where
  /-- It was not to be sent again, or could not be. -/
  | saturated {errors} (few : errors.length ≤ 1) : Outcome limit .saturated errors
  | marker : Outcome limit .marker []
  | finished : Outcome limit .finished []
  | broken {cause} : Outcome limit (.broken cause) [.cannotRead cause]
  | overlong : Outcome limit .overlong [.protocol (.lineTooLong limit)]

end StreamQuery.Dispatch
