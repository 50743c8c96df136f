import StreamQuery.Client.Query
/-!
# Sessions

A session is a client together with the names that its user has given to contexts, requests under
way and streams. After each operation everything that can go on has gone on.
-/

namespace StreamQuery

open Dispatch Client Row

structure Session where
  client : Client
  contexts : Keyed Context
  /-- The signals whose handles are kept. -/
  handles : Keyed Nat
  /-- Requests that were started and not yet joined. -/
  started : Keyed Nat
  streams : Keyed Nat
  rowStreams : Keyed RowStream

namespace Session

def ofClient (client : Client) : Session :=
  ⟨client, [], [], [], [], []⟩

/-- An operation of the client. -/
def lift {α : Type} (operation : StateM Client α) : StateM Session α := do
  let session ← get
  let (answer, client) := operation.run session.client
  set { session with client := client }
  return answer

/-- Changes the dispatcher's state. -/
def steer (change : Dispatcher → Dispatcher) : StateM Session Unit :=
  lift (modifyDispatcher change)

def settle : StateM Session Unit :=
  steer Dispatcher.settle

def dispatcher (session : Session) : Dispatcher :=
  session.client.dispatcher

/-- The context of a name; other names stand for the one without bounds. -/
def context (name : String) (session : Session) : Context :=
  (Keyed.find? name session.contexts).getD .background

/-- Makes a context from another one, with a timeout and a cancellation signal where asked for. -/
def makeContext (name parent : String) (timeout : Option Nat) (cancellable : Bool) :
    StateM Session Unit := do
  let session ← get
  let origin := session.context parent
  let bounded :=
    match timeout with
    | some span => origin.withTimeout session.dispatcher.now span
    | none => origin
  if cancellable then
    let (derived, context) := session.dispatcher.deriveContext bounded
    steer fun _ => derived
    modify fun session => { session with
      contexts := Keyed.insert name context session.contexts
      handles :=
        match context.signal with
        | some signal => Keyed.insert name signal session.handles
        | none => session.handles }
  else
    set { session with contexts := Keyed.insert name bounded session.contexts }

/-- Raises the signal of a name's handle. -/
def cancel (name : String) : StateM Session Unit := do
  match Keyed.find? name (← get).handles with
  | some signal => steer fun dispatcher => dispatcher.cancel signal
  | none => pure ()

/-- Drops a handle; the answer tells whether there was one. -/
def dropHandle (name : String) : StateM Session Bool := do
  match Keyed.find? name (← get).handles with
  | some signal =>
      steer fun dispatcher => dispatcher.dropHandle signal
      modify fun session => { session with handles := Keyed.erase name session.handles }
      return true
  | none => return false

/-- Waits for the cancellation of a context at most the given span. -/
def awaitCancelled (name : String) (wait : Nat) : StateM Session Bool := do
  let context := (← get).context name
  steer fun dispatcher =>
    dispatcher.runUntil (fun dispatcher => dispatcher.isCancelled context) (dispatcher.now + wait)
  return (← get).dispatcher.isCancelled context

/-- Waits for the deadline of a context at most the given span. -/
def awaitExpired (name : String) (wait : Nat) : StateM Session Bool := do
  let context := (← get).context name
  steer fun dispatcher =>
    let target := dispatcher.now + wait
    let target := (context.deadline.map (min target)).getD target
    dispatcher.runUntil (fun dispatcher => dispatcher.isExpired context) target
  return (← get).dispatcher.isExpired context

/-- Lets a span of time pass. -/
def advance (span : Nat) : StateM Session Unit :=
  steer fun dispatcher => dispatcher.advance span

/-- Sends a statement text and waits for the whole response. -/
def dispatch (context path statement : String) :
    StateM Session (Except RequestError ByteArray) := do
  lift (request ((← get).context context) path statement)

/-- Sends a statement text and keeps the request under a name. -/
def spawn (name context path statement : String) : StateM Session Unit := do
  let session ← get
  let (dispatcher, index) :=
    session.dispatcher.dispatch (session.context context) (session.client.post path statement)
  steer fun _ => dispatcher
  modify fun session => { session with started := Keyed.insert name index session.started }

/-- What is known of a request that was started. -/
inductive Joined where
  | unknown
  | pending
  | finished (result : Except RequestError ByteArray)

/-- Waits for a started request at most the given span. -/
def join (name : String) (wait : Nat) : StateM Session Joined := do
  match Keyed.find? name (← get).started with
  | none => return .unknown
  | some index =>
      steer fun dispatcher =>
        dispatcher.runUntil (fun dispatcher => (resultOf? index dispatcher).isSome)
          (dispatcher.now + wait)
      match resultOf? index (← get).dispatcher with
      | none => return .pending
      | some result =>
          modify fun session => { session with started := Keyed.erase name session.started }
          return .finished result

/-- Gives up a started request. -/
def abort (name : String) : StateM Session Unit := do
  match Keyed.find? name (← get).started with
  | none => pure ()
  | some index =>
      steer fun dispatcher => dispatcher.abort index
      modify fun session => { session with started := Keyed.erase name session.started }

/-- Drops the stream of a name; the answer tells whether there was one. -/
def dropStream (name : String) : StateM Session Bool := do
  match Keyed.find? name (← get).streams with
  | none => return false
  | some index =>
      steer fun dispatcher => dispatcher.dropStream index
      modify fun session => { session with streams := Keyed.erase name session.streams }
      return true

/-- Keeps a stream under a name in place of another one. -/
def keepStream (name : String) (index : Nat) : StateM Session Unit := do
  let _ ← dropStream name
  modify fun session => { session with streams := Keyed.insert name index session.streams }

/-- Keeps the stream of a response under a name. -/
def keepResponse (name : String) (response : Except RequestError Response) :
    StateM Session (Except RequestError Response) := do
  match response with
  | .ok (.stream index) => keepStream name index
  | _ => pure ()
  return response

/-- Sends a statement text and consumes the response as asked. -/
def consume (consumption : Consumption) (name context path statement : String) :
    StateM Session (Except RequestError Response) := do
  let response ← lift (Client.consume consumption ((← get).context context) path statement)
  keepResponse name response

/-- Sends a statement. -/
def send (name context : String) (statement : Statement) :
    StateM Session (Except RequestError Response) := do
  let response ← lift (Client.send ((← get).context context) statement)
  keepResponse name response

def closeStream (name : String) : StateM Session Unit := do
  match Keyed.find? name (← get).streams with
  | some index => steer fun dispatcher => dispatcher.closeStream index
  | none => pure ()

/-- True when nothing more will be delivered for now. -/
def isLast {α : Type} : Delivery α → Bool
  | .item _ => false
  | .ended | .pending => true

/-- Deliveries up to a number of them, or to one that is no item. -/
def collect {α : Type} (next : StateM Session (Delivery α)) :
    Nat → StateM Session (List (Delivery α))
  | 0 => return []
  | count + 1 => do
      settle
      let delivery ← next
      if isLast delivery then
        return [delivery]
      else
        return delivery :: (← collect next count)

/-- Chunks of the stream of a name, unless there is none. -/
def chunks (name : String) (wait count : Nat) :
    StateM Session (Option (List (Delivery String))) := do
  match Keyed.find? name (← get).streams with
  | none => return none
  | some index => return some (← collect (lift (nextChunk index wait)) count)

/-- Starts a query and keeps its rows under a name. -/
def push (name context : String) (record : RecordType) (query : Select) :
    StateM Session (Except RequestError Unit) := do
  match ← lift (Client.push ((← get).context context) record query) with
  | .error error => return .error error
  | .ok rows =>
      let session ← get
      match Keyed.find? name session.rowStreams with
      | some old => steer fun dispatcher => dispatcher.dropStream old.index
      | none => pure ()
      modify fun session => { session with rowStreams := Keyed.insert name rows session.rowStreams }
      return .ok ()

/-- The next row of the rows of a name. -/
def nextRowOf (name : String) (wait : Nat) : StateM Session (Delivery RecordValue) := do
  match Keyed.find? name (← get).rowStreams with
  | none => return .ended
  | some rows =>
      let (rows, delivery) ← lift (nextRow wait rows)
      modify fun session => { session with rowStreams := Keyed.insert name rows session.rowStreams }
      return delivery

/-- Rows of the rows of a name, unless there are none. -/
def rows (name : String) (wait count : Nat) :
    StateM Session (Option (List (Delivery RecordValue))) := do
  match Keyed.find? name (← get).rowStreams with
  | none => return none
  | some _ => return some (← collect (nextRowOf name wait) count)

/-- The number that the engine gave to a query, once its header has come. -/
def queryId? (name : String) (session : Session) : Option String :=
  (Keyed.find? name session.rowStreams).bind fun rows => rows.reader.queryId

def closeRows (name : String) : StateM Session Unit := do
  match Keyed.find? name (← get).rowStreams with
  | some rows => steer fun dispatcher => dispatcher.closeStream rows.index
  | none => pure ()

/-- Drops the rows of a name; the answer tells whether there were any. -/
def dropRows (name : String) : StateM Session Bool := do
  match Keyed.find? name (← get).rowStreams with
  | none => return false
  | some rows =>
      steer fun dispatcher => dispatcher.dropStream rows.index
      modify fun session => { session with rowStreams := Keyed.erase name session.rowStreams }
      return true

end Session

end StreamQuery
