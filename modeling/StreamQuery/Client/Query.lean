import StreamQuery.Client.Basic
import StreamQuery.Client.RowReader
/-!
# Queries of a client

A query is pulled, that is run to its end and decoded as a whole, or pushed, that is decoded row by
row as the rows arrive.
-/

namespace StreamQuery.Client

open Dispatch Row

/-- Counts a failure to decode a row. -/
def noteFailure (error : RequestError) : StateM Client Unit :=
  if isDecodeFailure error then
    modifyDispatcher fun dispatcher => dispatcher.count Statistics.countDecodeFailure
  else
    pure ()

/-- Runs a query to its end and decodes every row. -/
def pull (context : Context) (record : RecordType) (query : Select) :
    StateM Client (Except RequestError (List RecordValue)) := do
  match query.text with
  | .error error => return .error (.statement error)
  | .ok text =>
      let rows := (← request context queryEndpoint text) >>= rowsOfBody record
      match rows with
      | .error error => noteFailure error
      | .ok _ => pure ()
      return rows

/-- The rows of a stream. -/
structure RowStream where
  index : Nat
  reader : RowReader

/-- Starts a query whose rows are decoded as they arrive. -/
def push (context : Context) (record : RecordType) (query : Select) :
    StateM Client (Except RequestError RowStream) := do
  match query.text with
  | .error error => return .error (.statement error)
  | .ok text =>
      return (← openStream context queryEndpoint text).map fun index =>
        ⟨index, .ofRecord record⟩

/-- What a consumer gets when it asks for the next item. -/
inductive Delivery (α : Type) where
  | item (item : Except RequestError α)
  | ended
  | pending

/-- True when the consumer of a stream need not wait. -/
def isReceivable (index : Nat) (dispatcher : Dispatcher) : Bool :=
  (dispatcher.streams[index]?).all fun task => task.channel.isReceivable

/-- Takes the next item of a stream's channel, if there is one. -/
def takeChunk (index : Nat) : StateM Client (Delivery String) := do
  let client ← get
  let (received, dispatcher) := client.dispatcher.receive index
  set { client with dispatcher := dispatcher }
  match received with
  | some (.item item _) => return .item item
  | some .pending => return .pending
  | some .ended | none => return .ended

/-- Waits for the next chunk of a stream up to a point in time. -/
def awaitChunk (index target : Nat) : StateM Client (Delivery String) := do
  modifyDispatcher fun dispatcher => dispatcher.runUntil (isReceivable index) target
  takeChunk index

/-- The next chunk of a stream; it waits for the chunk at most the given span. -/
def nextChunk (index wait : Nat) : StateM Client (Delivery String) := do
  awaitChunk index ((← get).dispatcher.now + wait)

/-- The next chunk of a stream. A consumer that may wait lets the tasks go on when the channel is
empty; one that may not has to take it as it is. -/
def chunkFor (index target : Nat) (patient : Bool) : StateM Client (Delivery String) := do
  match ← takeChunk index, patient with
  | .pending, true => awaitChunk index target
  | chunk, _ => return chunk

/-- Reads chunks until one means a row or a failure. -/
def readRow (target : Nat) (patient : Bool) :
    Nat → RowStream → StateM Client (RowStream × Delivery RecordValue)
  | 0, rows => pure (rows, .pending)
  | fuel + 1, rows => do
      match ← chunkFor rows.index target patient with
      | .pending => return (rows, .pending)
      | .ended => return (rows, .ended)
      | .item (.error error) => return (rows, .item (.error error))
      | .item (.ok line) =>
          let (reader, event) := rows.reader.readLine line
          let rows := { rows with reader := reader }
          match event with
          | .nothing => readRow target patient fuel rows
          | .row value => return (rows, .item (.ok value))
          | .failed error => do
              noteFailure error
              return (rows, .item (.error error))
          | .ended => do
              modifyDispatcher fun dispatcher => dispatcher.closeStream rows.index
              return (rows, .ended)

/-- The next row of a stream; it waits for the row at most the given span. -/
def nextRow (wait : Nat) (rows : RowStream) :
    StateM Client (RowStream × Delivery RecordValue) := do
  modifyDispatcher Dispatcher.settle
  let dispatcher := (← get).dispatcher
  let kept := ((dispatcher.streams[rows.index]?).map fun task => task.channel.kept.length).getD 0
  readRow (dispatcher.now + wait) (wait ≠ 0) (dispatcher.stepBound + kept + 1) rows

end StreamQuery.Client
