import StreamQuery.Dispatch.Channel
import StreamQuery.Dispatch.Context
import StreamQuery.Dispatch.Exchange
import StreamQuery.Response.Lines
/-!
# Tasks

A dispatcher runs three kinds of tasks: requests whose responses are read whole, streams whose
responses are read line by line, and the relays of cancellation signals. The phase of a task says
what it waits for and whether it has a slot of the budget.
-/

namespace StreamQuery.Dispatch

open Response

inductive TaskId where
  | request (index : Nat)
  | stream (index : Nat)
  | relay (signal : Nat)
  deriving DecidableEq, Repr

/-- Where a request that is read whole stands. -/
inductive RequestPhase where
  | asking
  | waiting
  | exchanging (exchange : Exchange)
  /-- The response is closed, and the slot is given back next. -/
  | leaving (result : Except RequestError ByteArray)
  | finished (result : Except RequestError ByteArray)
  | aborted

structure RequestTask where
  context : Context
  deadline : Nat
  post : Post
  phase : RequestPhase

namespace RequestTask

def holdsSlot (task : RequestTask) : Bool :=
  match task.phase with
  | .exchanging _ | .leaving _ => true
  | _ => false

/-- True while the task's response is open at the transport. -/
def isOpen (task : RequestTask) : Bool :=
  match task.phase with
  | .exchanging exchange => exchange.isOpen
  | _ => false

def result? (task : RequestTask) : Option (Except RequestError ByteArray) :=
  match task.phase with
  | .finished result => some result
  | _ => none

def isLive (task : RequestTask) : Bool :=
  match task.phase with
  | .finished _ | .aborted => false
  | _ => true

/-- The points in time that the task waits for. -/
def timers (task : RequestTask) : List Nat :=
  match task.phase with
  | .waiting => [task.deadline]
  | .exchanging exchange => task.deadline :: exchange.due?.toList
  | _ => []

def remaining (task : RequestTask) : Nat :=
  match task.phase with
  | .exchanging exchange => exchange.remaining
  | _ => 0

end RequestTask

/-- What a stream reads from: the body and what of it has arrived. -/
structure Reading where
  body : Body
  lines : LineBuffer

namespace Reading

def ofBody (body : Body) : Reading :=
  ⟨body, .empty⟩

def remaining (reading : Reading) : Nat :=
  reading.body.remaining + reading.lines.remaining

end Reading

/-- What a stream does once its slot is given back. -/
inductive Departure where
  | refused (error : RequestError)
  | backingOff
  | failing (error : RequestError)
  | departing

/-- Where a stream stands. The first exchange is a phase of its own, because its failure is the
failure to open the stream. -/
inductive StreamPhase where
  | starting
  | opening (exchange : Exchange) (deadline : Nat)
  | refused (error : RequestError)
  | forwarding (reading : Reading)
  /-- A line waits for room in the channel. -/
  | handing (line : String) (reading : Reading)
  | backingOff (resume : Nat)
  | readmitting
  | reopening (exchange : Exchange) (deadline : Nat)
  /-- An error waits for room in the channel, after the slot was given back or with the body still
  open. -/
  | failing (error : RequestError) (held : Option Body)
  /-- The response is closed, and the slot is given back next. -/
  | releasing (departure : Departure)
  /-- Neither response nor slot is left, and the channel is ended next. -/
  | departing
  | ended

/-- The phase after the slot was given back, at a point in time. -/
def Departure.phase (now backoff : Nat) : Departure → StreamPhase
  | .refused error => .refused error
  | .backingOff => .backingOff (now + backoff)
  | .failing error => .failing error none
  | .departing => .departing

structure StreamTask where
  context : Context
  post : Post
  phase : StreamPhase
  /-- How often the request was sent and answered by a stream. It is a counter of 32 bits that wraps
  around. -/
  attempts : UInt32
  channel : Channel (Except RequestError String)

namespace StreamTask

def holdsSlot (task : StreamTask) : Bool :=
  match task.phase with
  | .opening .. | .forwarding _ | .handing .. | .reopening .. | .failing _ (some _)
  | .releasing _ => true
  | _ => false

/-- True while the task's response is open at the transport. -/
def isOpen (task : StreamTask) : Bool :=
  match task.phase with
  | .opening exchange _ | .reopening exchange _ => exchange.isOpen
  | .forwarding _ | .handing .. | .failing _ (some _) => true
  | _ => false

def isLive (task : StreamTask) : Bool :=
  match task.phase with
  | .refused _ | .ended => false
  | _ => true

/-- Whether the stream was opened, once that is known. -/
def opened? (task : StreamTask) : Option (Except RequestError Unit) :=
  match task.phase with
  | .starting | .opening .. | .releasing (.refused _) => none
  | .refused error => some (.error error)
  | _ => some (.ok ())

/-- True for a task that waits for room in its channel. -/
def awaitsRoom (task : StreamTask) : Bool :=
  match task.phase with
  | .handing .. | .failing .. => true
  | _ => false

/-- The points in time that the task waits for. -/
def timers (task : StreamTask) : List Nat :=
  match task.phase with
  | .opening exchange deadline | .reopening exchange deadline =>
      deadline :: exchange.due?.toList
  | .forwarding reading => task.context.deadline.toList ++ reading.body.due.toList
  | .handing .. | .readmitting => task.context.deadline.toList
  | .backingOff resume => resume :: task.context.deadline.toList
  | _ => []

def remaining (task : StreamTask) : Nat :=
  match task.phase with
  | .opening exchange _ | .reopening exchange _ => exchange.remaining
  | .forwarding reading | .handing _ reading => reading.remaining
  | _ => 0

end StreamTask

end StreamQuery.Dispatch
